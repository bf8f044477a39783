import CpaGateway.Lib.Binding
import CpaGateway.Lib.Fallible

/-! # The secret store

Secrets are sealed under the active key of a ring of versioned master keys, and opened under the key
of the version that was stored with them. The cipher is foreign code, and so is the source of
nonces. -/

namespace CpaGateway.Store.Secrets

open Lib.Binding Lib.Fallible

abbrev Bytes := List UInt8

def nonceBytes : ℕ := 24

/-- The authentication tag behind a ciphertext. -/
def aeadTagBytes : ℕ := 16

/-- The first byte of an envelope. -/
def envelopeFormatVersion : UInt8 := 1

/-- An envelope of the empty text. -/
def minimumEnvelopeBytes : ℕ := 1 + nonceBytes + aeadTagBytes

/-- Why a secret is not sealed or opened. -/
inductive SecretStoreError
  | invalidKeyVersion
  | unknownKeyVersion
  | unsupportedEnvelopeVersion
  | truncatedEnvelope
  | emptyAssociatedData
  | randomnessUnavailable
  | encryptionFailed
  | authenticationFailed
  deriving DecidableEq

/-- A positive version of 32 bits. -/
structure KeyVersion where
  value : UInt32
  positive : value ≠ 0
  deriving DecidableEq

/-- The version in a row. -/
def KeyVersion.asSqliteI64 (version : KeyVersion) : ℤ := version.value.toNat

/-- The version of a row. -/
def KeyVersion.tryFromSqliteI64 (value : ℤ) : Except SecretStoreError KeyVersion :=
  if 0 ≤ value ∧ value < 2 ^ 32 then
    if h : UInt32.ofNat value.toNat ≠ 0 then .ok ⟨_, h⟩ else .error .invalidKeyVersion
  else .error .invalidKeyVersion

/-- A key of 256 bits. -/
structure MasterKey where
  bytes : Bytes
  length : bytes.length = 32

/-- A nonce as the source of random numbers gives it. -/
structure Nonce where
  bytes : Bytes
  length : bytes.length = nonceBytes

/-- The loaded keys; the active one is among them. -/
structure MasterKeyRing where
  activeKeyVersion : KeyVersion
  keys : KeyVersion → Option MasterKey
  activeLoaded : (keys activeKeyVersion).isSome = true

/-- The format and the length; nothing is decrypted. -/
def validateEnvelope (ciphertext : Bytes) : Except SecretStoreError Unit := do
  let formatVersion ← okOr ciphertext.head? .truncatedEnvelope
  ensure (formatVersion = envelopeFormatVersion) .unsupportedEnvelopeVersion
  ensure (minimumEnvelopeBytes ≤ ciphertext.length) .truncatedEnvelope

/-- A ciphertext in its envelope, with the version of its key. -/
structure EncryptedSecret where
  keyVersion : KeyVersion
  ciphertext : Bytes
  valid : validateEnvelope ciphertext = .ok ()

/-- The envelope of a row. -/
def EncryptedSecret.tryFromPersisted (keyVersion : KeyVersion) (ciphertext : Bytes) :
    Except SecretStoreError EncryptedSecret :=
  match h : validateEnvelope ciphertext with
  | .ok () => .ok ⟨keyVersion, ciphertext, h⟩
  | .error e => .error e

/-- The keys, and the cipher they are for. -/
structure SecretStore where
  cipher : Aead MasterKey
  keyRing : MasterKeyRing

namespace SecretStore

variable (store : SecretStore)

/-- `nonce` is what the source of random numbers gave. -/
def sealSecret (nonce : Option Nonce) (plaintext associatedData : Bytes) :
    Except SecretStoreError EncryptedSecret := do
  ensure (associatedData != []) .emptyAssociatedData
  let nonce ← okOr nonce .randomnessUnavailable
  let key ← okOr (store.keyRing.keys store.keyRing.activeKeyVersion) .unknownKeyVersion
  let ciphertext ← okOr (store.cipher.encrypt key nonce.bytes plaintext associatedData)
    .encryptionFailed
  EncryptedSecret.tryFromPersisted store.keyRing.activeKeyVersion
    (envelopeFormatVersion :: (nonce.bytes ++ ciphertext))

/-- Opens an envelope with the data it was sealed with. -/
def openSecret (encrypted : EncryptedSecret) (associatedData : Bytes) :
    Except SecretStoreError Bytes := do
  ensure (associatedData != []) .emptyAssociatedData
  let key ← okOr (store.keyRing.keys encrypted.keyVersion) .unknownKeyVersion
  let nonce := (encrypted.ciphertext.drop 1).take nonceBytes
  let ciphertext := encrypted.ciphertext.drop (1 + nonceBytes)
  okOr (store.cipher.decrypt key nonce ciphertext associatedData) .authenticationFailed

variable {store}

/-- **An envelope opens under its own associated data only.** -/
theorem openSecret_other (hideal : store.cipher.Ideal) {encrypted : EncryptedSecret}
    {a a' plaintext : Bytes} (h : store.openSecret encrypted a = .ok plaintext) (ha' : a' ≠ []) :
    store.openSecret encrypted a' =
      if a' = a then .ok plaintext else .error .authenticationFailed := by
  simp only [openSecret, except_ok] at h
  obtain ⟨_, -, key, hkey, hopen⟩ := h
  have hunfold : store.openSecret encrypted a' = okOr (store.cipher.decrypt key
      ((encrypted.ciphertext.drop 1).take nonceBytes)
      (encrypted.ciphertext.drop (1 + nonceBytes)) a')
      .authenticationFailed := by
    have hnonempty : (a' != []) = true := by simpa using ha'
    rw [openSecret, hnonempty, hkey]
    rfl
  rw [hunfold, hideal.decrypt_other hopen]
  split_ifs <;> rfl

end SecretStore

end CpaGateway.Store.Secrets
