import CpaGateway.Core.Identity
import CpaGateway.Core.Sse
import CpaGateway.Lib.Tables
import CpaGateway.Store.Secrets

/-! # Continuity state of Grok Build

The reasoning of a session is kept for replay, sealed with its client key, model and session as
associated data. Cache identities are derived from a client key, a model and a prompt cache key by a
keyed digest of 32 bytes, which is foreign code. -/

namespace CpaGateway.Grok.Continuity

open Core.Identity Lib.Binding Lib.Effect Lib.Fallible Lib.Tables Store.Secrets

inductive GrokBuildContinuityError
  | storeUnavailable
  | invalidState
  | invalidReplayPayload
  | invalidPersistedState
  | secretStoreFailure
  deriving DecidableEq

def maxDurableIdentifierBytes : ℕ := 128

def maxContinuityIdentifierBytes : ℕ := 512

def maxReplayBytes : ℕ := 64 * 1024

def maxAssociatedDataBytes : ℕ := 2048

def grokBuildReplaySignature : String := "grok-build-responses-v1"

/-- The text is not blank, not too long and has no NUL. -/
def isBounded (maxBytes : ℕ) (value : String) : Bool :=
  Core.Sse.trim value != "" && value.utf8ByteSize ≤ maxBytes && !(utf8 value).contains 0

def validateIdentifier (value : String) : Except GrokBuildContinuityError String := do
  ensure (isBounded maxContinuityIdentifierBytes value) .invalidState
  return value

def validateDurableIdentifier (value : String) : Except GrokBuildContinuityError Unit :=
  ensure (isBounded maxDurableIdentifierBytes value) .invalidState

/-! ### Cache identities -/

def cacheIdentityDomain : Bytes := utf8 "grok-build-cache-identity:v1\x00"

/-- A field behind its length of 16 bits. -/
def macField (value : String) : Except GrokBuildContinuityError Bytes := do
  ensure (value.utf8ByteSize < 2 ^ 16) .invalidState
  return field 2 (utf8 value)

/-- The bytes that the derivation authenticates. -/
def cacheIdentityInput (clientKeyId : ClientKeyId) (upstreamModel promptCacheKey : String) :
    Except GrokBuildContinuityError Bytes := do
  validateDurableIdentifier clientKeyId.asStr
  let upstreamModel ← validateIdentifier upstreamModel
  let promptCacheKey ← validateIdentifier promptCacheKey
  let fields ← [clientKeyId.asStr, upstreamModel, promptCacheKey].mapM macField
  return cacheIdentityDomain ++ fields.flatten

/-! ### Reasoning replay -/

structure GrokBuildReplayKey where
  clientKeyId : ClientKeyId
  upstreamModel : String
  sessionId : String
  clientValid : isBounded maxDurableIdentifierBytes clientKeyId.asStr = true
  modelValid : isBounded maxContinuityIdentifierBytes upstreamModel = true
  sessionValid : isBounded maxContinuityIdentifierBytes sessionId = true
  deriving DecidableEq

def GrokBuildReplayKey.tryNew (clientKeyId : ClientKeyId) (upstreamModel sessionId : String) :
    Except GrokBuildContinuityError GrokBuildReplayKey :=
  if hclient : isBounded maxDurableIdentifierBytes clientKeyId.asStr then
    if hmodel : isBounded maxContinuityIdentifierBytes upstreamModel then
      if hsession : isBounded maxContinuityIdentifierBytes sessionId then
        .ok ⟨clientKeyId, upstreamModel, sessionId, hclient, hmodel, hsession⟩
      else .error .invalidState
    else .error .invalidState
  else .error .invalidState

def replayDomain : String := "grok-build-replay:v1:"

def associatedText (key : GrokBuildReplayKey) : String :=
  replayDomain ++ key.clientKeyId.asStr.utf8ByteSize.repr ++ ":" ++ key.clientKeyId.asStr ++
    ":" ++ key.upstreamModel ++ ":" ++ key.sessionId

def replayAssociatedData (key : GrokBuildReplayKey) : Except GrokBuildContinuityError Bytes := do
  let associatedData := utf8 (associatedText key)
  ensure (associatedData != [] && associatedData.length ≤ maxAssociatedDataBytes) .invalidState
  return associatedData

structure GrokBuildReasoningReplay where
  payload : Bytes
  nonempty : payload ≠ []
  short : payload.length ≤ maxReplayBytes
  deriving DecidableEq

def GrokBuildReasoningReplay.tryNew (payload : Bytes) :
    Except GrokBuildContinuityError GrokBuildReasoningReplay :=
  if h : payload ≠ [] ∧ payload.length ≤ maxReplayBytes then .ok ⟨payload, h.1, h.2⟩
  else .error .invalidReplayPayload

inductive GrokBuildReplayWriteOutcome
  | inserted
  | replaced
  | deduplicated
  deriving DecidableEq

/-- A row of the replays, without its key. -/
structure ReplayRow where
  signature : String
  keyVersion : ℤ
  ciphertext : Bytes
  expiresAtMs : ℤ
  updatedAtMs : ℤ
  deriving DecidableEq

/-- The replays under client key, model and session. -/
abbrev ReplayTable := Table (String × String × String) ReplayRow

/-- The primary key. -/
def GrokBuildReplayKey.columns (key : GrokBuildReplayKey) : String × String × String :=
  (key.clientKeyId.asStr, key.upstreamModel, key.sessionId)

structure PersistedReplayRow where
  signature : String
  keyVersion : KeyVersion
  ciphertext : Bytes
  expiresAtMs : ℤ

def loadReplayRow (key : GrokBuildReplayKey) (replays : ReplayTable) :
    Except GrokBuildContinuityError (Option PersistedReplayRow) :=
  match replays.lookup key.columns with
  | none => .ok none
  | some row => do
    let keyVersion ← (KeyVersion.tryFromSqliteI64 row.keyVersion).mapError fun _ =>
      .invalidPersistedState
    return some ⟨row.signature, keyVersion, row.ciphertext, row.expiresAtMs⟩

variable (store : SecretStore)

/-- The plaintext of a stored row. -/
def openRow (associatedData : Bytes) (row : PersistedReplayRow) :
    Except GrokBuildContinuityError Bytes := do
  let encrypted ← (EncryptedSecret.tryFromPersisted row.keyVersion row.ciphertext).mapError
    fun _ => .secretStoreFailure
  (store.openSecret encrypted associatedData).mapError fun _ => .secretStoreFailure

/-- Whether the stored row already has the payload. -/
def isDuplicate (associatedData : Bytes) (replay : GrokBuildReasoningReplay) (updatedAtMs : ℤ) :
    Option PersistedReplayRow → Except GrokBuildContinuityError Bool
  | none => return false
  | some row => do
    ensure (row.signature = grokBuildReplaySignature) .invalidPersistedState
    let existing ← openRow store associatedData row
    return updatedAtMs < row.expiresAtMs && existing = replay.payload

def writeReasoningReplay (nonce : Option Nonce) (key : GrokBuildReplayKey)
    (replay : GrokBuildReasoningReplay) (expiresAtMs updatedAtMs : ℤ) :
    Method ReplayTable GrokBuildContinuityError GrokBuildReplayWriteOutcome := do
  ensure (0 < updatedAtMs && updatedAtMs < expiresAtMs) .invalidState
  let associatedData ← liftM (replayAssociatedData key)
  let existing ← liftM (loadReplayRow key (← get))
  if ← liftM (isDuplicate store associatedData replay updatedAtMs existing) then
    return .deduplicated
  else
    let encrypted ← liftM ((store.sealSecret nonce replay.payload associatedData).mapError
      fun _ => GrokBuildContinuityError.secretStoreFailure)
    modify (AList.insert key.columns ⟨grokBuildReplaySignature, encrypted.keyVersion.asSqliteI64,
      encrypted.ciphertext, expiresAtMs, updatedAtMs⟩)
    return if existing.isSome then .replaced else .inserted

def reasoningReplay (key : GrokBuildReplayKey) (nowMs : ℤ) (replays : ReplayTable) :
    Except GrokBuildContinuityError (Option GrokBuildReasoningReplay) := do
  ensure (0 < nowMs) .invalidState
  match ← loadReplayRow key replays with
  | none => return none
  | some row =>
    if row.expiresAtMs ≤ nowMs then return none
    else
      ensure (row.signature = grokBuildReplaySignature) .invalidPersistedState
      let associatedData ← replayAssociatedData key
      let plaintext ← openRow store associatedData row
      (GrokBuildReasoningReplay.tryNew plaintext).map some

def clearReasoningReplay (key : GrokBuildReplayKey) (replays : ReplayTable) : ReplayTable :=
  replays.erase key.columns

end CpaGateway.Grok.Continuity
