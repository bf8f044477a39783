import CpaGateway.Grok.AccountWorker

/-! # The reauthentication of native accounts

An account whose credential was refused waits for a new one. The claim of the reauthentication
stands in a table of its own, beside that of the workers: a success must find the revision of its
claim and an account that still waits, and takes the claim away in the same transaction. -/

namespace CpaGateway.Grok.Reauth

open Grok.AccountStore Lib.BigEndian Lib.Effect Lib.Fallible Lib.Tables ReauthRow

inductive GrokReauthError
  | invalidRequest
  | storeUnavailable
  | invalidPersistedState
  | secretStoreFailure
  | staleClaim
  | notFound
  | invalidCredential
  deriving DecidableEq

abbrev Operation (α : Type) := Method GrokAccountPoolStore GrokReauthError α

def minClaimLeaseMs : ℤ := 1000

def maxClaimLeaseMs : ℤ := 10 * 60 * 1000

/-- A claimed job, with the credential of the account at the time of the claim. -/
structure GrokReauthJob where
  accountId : String
  provider : GrokAccountProvider
  claimId : ClaimId
  claimExpiresAtMs : ℤ
  expectedRevision : ℕ
  identityDigest : Bytes
  credential : Bytes
  deriving DecidableEq

/-! ### Claims -/

/-- The account waits for a new credential and takes part in scheduling; its next attempt is due,
needs no operator and is not claimed. -/
def isDue (observedAtMs : ℤ) (account : AccountRow) (state : ReauthRow) : Bool :=
  account.enabled && account.authStatus = .reauthRequired && !state.operatorRequired &&
    state.nextAttemptAtMs.all (· ≤ observedAtMs) && state.isUnclaimed observedAtMs

/-- The accounts with their reauthentication state. -/
def joined (s : GrokAccountPoolStore) : List (String × AccountRow × ReauthRow) :=
  s.accounts.rows.filterMap fun entry =>
    (s.reauthState.lookup entry.1).map fun state => (entry.1, entry.2, state)

/-- By the time of the next attempt, then by key. -/
def duePrecedes (a b : String × AccountRow × ReauthRow) : Bool :=
  let dueA := a.2.2.nextAttemptAtMs.getD 0
  let dueB := b.2.2.nextAttemptAtMs.getD 0
  dueA < dueB || dueA = dueB && a.1 ≤ b.1

def dueRow (s : GrokAccountPoolStore) (observedAtMs : ℤ) :
    Option (String × AccountRow × ReauthRow) :=
  (((joined s).filter fun entry => isDue observedAtMs entry.2.1 entry.2.2).mergeSort
    duePrecedes).head?

/-- The accounts that wait for a new credential. -/
def waiting (s : GrokAccountPoolStore) : List String :=
  (s.accounts.rows.filter fun entry => entry.2.authStatus = .reauthRequired).map Prod.fst

variable (services : Services)

def claimEntry (observedAtMs claimExpiresAtMs : ℤ) (draw : Option ClaimId) (accountId : String)
    (account : AccountRow) : Operation GrokReauthJob := do
  ensure (account.identityDigest.length = 32) .invalidPersistedState
  ensure (services.fromPersisted account.credential) .invalidPersistedState
  let credential ← okOr
    (services.openSecret account.credential ⟨account.provider, account.identityDigest⟩)
    .secretStoreFailure
  ensure (0 ≤ account.revision) .invalidPersistedState
  let claimId ← okOr draw .storeUnavailable
  let changed ← onReauthState (update check .storeUnavailable accountId
    (isUnclaimed observedAtMs) fun row =>
      { row with claim := some ⟨claimId, claimExpiresAtMs⟩ })
  ensure changed .staleClaim
  return ⟨accountId, account.provider, claimId, claimExpiresAtMs, account.revision.toNat,
    account.identityDigest, credential⟩

def claimDueReauthJob (observedAtMs claimLeaseMs : ℤ) (draw : Option ClaimId) :
    Operation (Option GrokReauthJob) := do
  ensure (0 ≤ observedAtMs && minClaimLeaseMs ≤ claimLeaseMs && claimLeaseMs ≤ maxClaimLeaseMs)
    .invalidRequest
  ensure (observedAtMs + claimLeaseMs ≤ maxI64) .invalidRequest
  transaction do
    modify fun s => addReauthState (waiting s) s
    match dueRow (← get) observedAtMs with
    | none => return none
    | some (accountId, account, _) =>
      let job ← claimEntry services observedAtMs
        (observedAtMs + claimLeaseMs) draw accountId account
      return some job

/-! ### Completions -/

def completeReauthSuccess (job : GrokReauthJob) (credential : Bytes) (observedAtMs : ℤ) :
    Operation Unit := do
  ensure (0 ≤ observedAtMs && credential != []) .invalidRequest
  let refreshDueAtMs ← okOr (services.validatedExpiry job.provider credential observedAtMs)
    .invalidCredential
  let encrypted ← okOr (services.sealSecret credential ⟨job.provider, job.identityDigest⟩)
    .secretStoreFailure
  transaction do
    let nextRevision : ℤ := job.expectedRevision + 1
    ensure (nextRevision ≤ maxI64) .invalidPersistedState
    let changed ← onAccounts (update AccountRow.check .storeUnavailable job.accountId
      (fun row => row.revision = job.expectedRevision && row.authStatus = .reauthRequired)
      fun row =>
        { row with
          credential := encrypted
          revision := nextRevision
          authStatus := .active
          refreshDueAtMs := refreshDueAtMs
          lastRefreshAtMs := some observedAtMs
          refreshFailureCount := 0
          updatedAtMs := observedAtMs })
    ensure changed .staleClaim
    let claimChanged ← onReauthState
      (delete job.accountId (isClaimedBy job.claimId observedAtMs))
    ensure claimChanged .staleClaim

def baseFailureBackoffMs : ℤ := 60 * 1000

def maxFailureBackoffMs : ℤ := 60 * 60 * 1000

def failureJitterRangeMs : ℕ := 30 * 1000 + 1

/-- The delay doubles with each failure up to an hour, and is spread by the digest. -/
def backoffDueAt (accountId : String) (failureCount : ℕ) (observedAtMs : ℤ) :
    Except GrokReauthError ℤ := do
  ensure (accountId != "" && failureCount != 0 && 0 ≤ observedAtMs) .invalidRequest
  let shift := min (failureCount - 1) 16
  let backoff := min (baseFailureBackoffMs * 2 ^ shift) maxFailureBackoffMs
  let material := accountId.toUTF8.toList ++ beBytes 8 failureCount
  let jitter := services.deterministicU64 material % failureJitterRangeMs
  ensure (observedAtMs + backoff + jitter ≤ maxI64) .invalidRequest
  return observedAtMs + backoff + jitter

/-- When the next attempt is made; only after a transient failure. -/
def nextAttemptAt (accountId : String) (transient : Bool) (failureCount observedAtMs : ℤ) :
    Except GrokReauthError (Option ℤ) :=
  if transient then do
    ensure (0 ≤ failureCount) .invalidPersistedState
    (backoffDueAt services accountId failureCount.toNat observedAtMs).map some
  else .ok none

/-- The deadline of the claim is checked, the revision of the account is not. -/
def completeReauthFailure (job : GrokReauthJob) (transient : Bool) (observedAtMs : ℤ) :
    Operation Unit := do
  ensure (0 ≤ observedAtMs) .invalidRequest
  transaction do
    let state ← okOr (((← get).reauthState.lookup job.accountId).filter
      (isClaimedBy job.claimId observedAtMs)) .staleClaim
    let nextFailureCount := state.failureCount + 1
    ensure (nextFailureCount ≤ maxI64) .invalidPersistedState
    let nextAttemptAtMs ← liftM
      (nextAttemptAt services job.accountId transient nextFailureCount observedAtMs)
    let changed ← onReauthState (update check .storeUnavailable job.accountId
      (isClaimedBy job.claimId observedAtMs) fun row =>
        { row with
          nextAttemptAtMs := nextAttemptAtMs
          failureCount := nextFailureCount
          operatorRequired := !transient
          claim := none })
    ensure changed .staleClaim

/-! ### The hand-off of an operator -/

/-- Gives an account that needs an operator back to the queue. -/
def requeueReauth (accountId : String) (observedAtMs : ℤ) : Operation Unit := do
  ensure (accountId != "" && accountId.utf8ByteSize ≤ 128 && 0 ≤ observedAtMs) .invalidRequest
  let waits := ((← get).accounts.lookup accountId).any (·.authStatus = .reauthRequired)
  let changed ← onReauthState (update check .storeUnavailable accountId
    (fun row => waits && row.operatorRequired && row.isUnclaimed observedAtMs) fun row =>
      { row with
        nextAttemptAtMs := some observedAtMs
        operatorRequired := false
        claim := none })
  ensure changed .notFound

end CpaGateway.Grok.Reauth
