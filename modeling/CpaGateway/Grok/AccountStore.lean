import CpaGateway.Lib.Tables
import CpaGateway.Store.Secrets
import Mathlib.Data.List.DropRight

/-! # The store of native accounts

Three tables: the accounts, the reauthentication state of accounts, and the quota windows of
accounts. A claim is a random identifier with a deadline; an account has room for one claim of a
worker, and its reauthentication state for one claim of the reauthentication. Each method of the
store runs under the lock of its connection.

Nothing is assumed of the secret store, of the digest that spreads due times and of the reader of
provider credentials: `Services` has them as functions. -/

namespace CpaGateway.Grok.AccountStore

open Lib.Effect Lib.Tables

export Store.Secrets (Bytes)

/-- The largest number of a column. -/
def maxI64 : ℤ := 2 ^ 63 - 1

inductive GrokAccountProvider
  | build
  | web
  | console
  deriving DecidableEq

inductive GrokAccountAuthStatus
  | active
  | reauthRequired
  | disabled
  deriving DecidableEq

inductive GrokAccountWorkerKind
  | refresh
  | quota
  deriving DecidableEq

/-- The random part of a claim's identifier. -/
structure ClaimId where
  random : BitVec 128
  deriving DecidableEq

/-- The columns of a credential, before the secret store has checked them. -/
structure StoredSecret where
  keyVersion : ℤ
  ciphertext : Bytes
  deriving DecidableEq

/-- What a stored credential is bound to. -/
structure CredentialAad where
  provider : GrokAccountProvider
  identityDigest : Bytes
  deriving DecidableEq

/-- What the store calls. -/
structure Services where
  /-- Whether an envelope of this version and length can be one of the secret store. -/
  fromPersisted : StoredSecret → Bool
  openSecret : StoredSecret → CredentialAad → Option Bytes
  sealSecret : Bytes → CredentialAad → Option StoredSecret
  deterministicU64 : Bytes → ℕ
  /-- When a valid credential of the provider expires, if it says so. -/
  validatedExpiry : GrokAccountProvider → Bytes → ℤ → Option (Option ℤ)

/-! ### Accounts -/

structure WorkerClaim where
  kind : GrokAccountWorkerKind
  claimId : ClaimId
  expiresAtMs : ℤ
  deriving DecidableEq

/-- A row of the accounts, without its key. -/
structure AccountRow where
  provider : GrokAccountProvider
  identityDigest : Bytes
  credential : StoredSecret
  authStatus : GrokAccountAuthStatus
  enabled : Bool
  refreshDueAtMs : Option ℤ
  lastRefreshAtMs : Option ℤ
  refreshFailureCount : ℤ
  quotaSyncDueAtMs : Option ℤ
  lastQuotaSyncAtMs : Option ℤ
  quotaSyncFailureCount : ℤ
  claim : Option WorkerClaim
  revision : ℤ
  createdAtMs : ℤ
  updatedAtMs : ℤ
  deriving DecidableEq

/-- A time that is not set, or not negative. -/
def validTime (time : Option ℤ) : Bool := time.all (0 ≤ ·)

/-- The checks of the table. -/
def AccountRow.check (row : AccountRow) : Bool :=
  row.identityDigest.length = 32 && row.credential.ciphertext != [] &&
    0 < row.credential.keyVersion &&
  validTime row.refreshDueAtMs && validTime row.lastRefreshAtMs && 0 ≤ row.refreshFailureCount &&
  validTime row.quotaSyncDueAtMs && validTime row.lastQuotaSyncAtMs &&
    0 ≤ row.quotaSyncFailureCount &&
  validTime (row.claim.map (·.expiresAtMs)) && 0 ≤ row.revision && row.createdAtMs ≤ row.updatedAtMs

def AccountRow.dueAtMs (row : AccountRow) : GrokAccountWorkerKind → Option ℤ
  | .refresh => row.refreshDueAtMs
  | .quota => row.quotaSyncDueAtMs

def AccountRow.failureCount (row : AccountRow) : GrokAccountWorkerKind → ℤ
  | .refresh => row.refreshFailureCount
  | .quota => row.quotaSyncFailureCount

/-- No worker has a claim whose deadline is still to come. -/
def AccountRow.isUnclaimed (observedAtMs : ℤ) (row : AccountRow) : Bool :=
  row.claim.all (·.expiresAtMs ≤ observedAtMs)

/-! ### Reauthentication state -/

/-- The claim of the reauthentication. -/
structure ReauthClaim where
  claimId : ClaimId
  expiresAtMs : ℤ
  deriving DecidableEq

structure ReauthRow where
  nextAttemptAtMs : Option ℤ := none
  failureCount : ℤ := 0
  operatorRequired : Bool := false
  claim : Option ReauthClaim := none
  deriving DecidableEq

def ReauthRow.check (row : ReauthRow) : Bool :=
  validTime row.nextAttemptAtMs && 0 ≤ row.failureCount && validTime (row.claim.map (·.expiresAtMs))

def ReauthRow.isUnclaimed (observedAtMs : ℤ) (row : ReauthRow) : Bool :=
  row.claim.all (·.expiresAtMs ≤ observedAtMs)

/-- The row has this claim, and its deadline is still to come. -/
def ReauthRow.isClaimedBy (claimId : ClaimId) (observedAtMs : ℤ) (row : ReauthRow) : Bool :=
  row.claim.any fun claim => claim.claimId = claimId && observedAtMs < claim.expiresAtMs

/-! ### Quota windows -/

structure PersistedQuotaRow where
  accountId : String
  scopeKind : String
  modelLabel : String
  windowLabel : String
  limit : Option ℤ
  remaining : Option ℤ
  resetAtMs : Option ℤ
  source : String
  confidence : String
  observedAtMs : ℤ
  deriving DecidableEq

/-- The length of a text in SQL: the characters before the first NUL. -/
def sqlLength (text : List Char) : ℕ := (text.takeWhile (· ≠ '\x00')).length

/-- The text without the spaces around it. -/
def sqlTrim (text : String) : List Char := (text.toList.dropWhile (· = ' ')).rdropWhile (· = ' ')

/-- The length of the trimmed text is between one and a bound. -/
def sqlNamed (bound : ℕ) (text : String) : Bool :=
  1 ≤ sqlLength (sqlTrim text) && sqlLength (sqlTrim text) ≤ bound

/-- The checks of the table. -/
def PersistedQuotaRow.check (row : PersistedQuotaRow) : Bool :=
  ["account", "model"].contains row.scopeKind &&
  (row.modelLabel.utf8ByteSize ≤ 256 &&
    (row.scopeKind = "account" && row.modelLabel = "" ||
      row.scopeKind = "model" && sqlNamed 256 row.modelLabel)) &&
  (sqlNamed 64 row.windowLabel && row.windowLabel.utf8ByteSize ≤ 64) &&
  validTime row.limit && validTime row.remaining && validTime row.resetAtMs &&
  ["billing", "rest", "grpc", "estimated"].contains row.source &&
  ["authoritative", "observed", "estimated"].contains row.confidence &&
  0 ≤ row.observedAtMs &&
  (match row.limit, row.remaining with
    | some limit, some remaining => remaining ≤ limit
    | _, _ => true)

/-- The primary key. -/
def PersistedQuotaRow.key (row : PersistedQuotaRow) : String × String × String × String :=
  (row.accountId, row.scopeKind, row.modelLabel, row.windowLabel)

/-! ### The store -/

structure GrokAccountPoolStore where
  accounts : Table String AccountRow
  reauthState : Table String ReauthRow
  quotaWindows : List PersistedQuotaRow

section Statements

variable {ε α : Type}

/-- Statements on the accounts. -/
def onAccounts (m : Method (Table String AccountRow) ε α) : Method GrokAccountPoolStore ε α :=
  m.onPart (·.accounts) (fun s accounts => { s with accounts }) id

/-- Statements on the reauthentication state. -/
def onReauthState (m : Method (Table String ReauthRow) ε α) : Method GrokAccountPoolStore ε α :=
  m.onPart (·.reauthState) (fun s reauthState => { s with reauthState }) id

/-- Adds a reauthentication state to the accounts that have none. -/
def addReauthState (accountIds : List String) (s : GrokAccountPoolStore) : GrokAccountPoolStore :=
  { s with reauthState := accountIds.foldl (insertOrIgnore {}) s.reauthState }

theorem call_onReauthState_ok {s s' : GrokAccountPoolStore}
    {m : Method (Table String ReauthRow) ε α} {a : α} : (onReauthState m).call s = (.ok a, s') ↔
      ∃ reauthState, m.call s.reauthState = (.ok a, reauthState) ∧ { s with reauthState } = s' :=
  call_onPart_ok

end Statements

/-! ### A sample account -/

/-- A secret store that hides nothing, and credentials that expire at one time. -/
def sampleServices : Services where
  fromPersisted _ := true
  openSecret secret _ := some secret.ciphertext
  sealSecret credential _ := some ⟨1, credential⟩
  deterministicU64 _ := 0
  validatedExpiry _ _ _ := some (some 5000)

/-- An account that is due on both schedules. -/
def sampleRow : AccountRow where
  provider := .build
  identityDigest := List.replicate 32 0
  credential := ⟨1, [1]⟩
  authStatus := .active
  enabled := true
  refreshDueAtMs := some 0
  lastRefreshAtMs := none
  refreshFailureCount := 0
  quotaSyncDueAtMs := some 0
  lastQuotaSyncAtMs := none
  quotaSyncFailureCount := 0
  claim := none
  revision := 0
  createdAtMs := 0
  updatedAtMs := 0

end CpaGateway.Grok.AccountStore
