import CpaGateway.Core.Sse
import CpaGateway.Grok.AccountStore
import CpaGateway.Lib.BigEndian

/-! # The workers of native accounts

Workers claim accounts whose refresh or quota synchronisation is due, and complete their jobs later.
A completion is one conditional statement: the row must have the claim of the job, with its deadline
still to come, and the revision that the job was made from. -/

namespace CpaGateway.Grok.AccountWorker

open Core.Sse Grok.AccountStore Lib.BigEndian Lib.Effect Lib.Fallible Lib.Tables

inductive GrokAccountWorkerError
  | invalidRequest
  | storeUnavailable
  | invalidPersistedState
  | secretStoreFailure
  | staleClaim
  | resultKindMismatch
  deriving DecidableEq

abbrev Operation (α : Type) := Method GrokAccountPoolStore GrokAccountWorkerError α

/-! ### Quota windows -/

inductive GrokAccountQuotaScope
  | account
  | model (label : String)
  deriving DecidableEq

inductive GrokAccountQuotaSource
  | billing
  | rest
  | grpc
  | estimated
  deriving DecidableEq

def GrokAccountQuotaSource.asStr : GrokAccountQuotaSource → String
  | billing => "billing"
  | rest => "rest"
  | grpc => "grpc"
  | estimated => "estimated"

inductive GrokAccountQuotaConfidence
  | authoritative
  | observed
  | estimated
  deriving DecidableEq

def GrokAccountQuotaConfidence.asStr : GrokAccountQuotaConfidence → String
  | authoritative => "authoritative"
  | observed => "observed"
  | estimated => "estimated"

def GrokAccountQuotaScope.isValid : GrokAccountQuotaScope → Bool
  | account => true
  | model label => trim label != "" && label.utf8ByteSize ≤ 256

/-- What a quota window must satisfy. -/
def validQuotaWindow (scope : GrokAccountQuotaScope) (label : String) (limit remaining : Option ℕ)
    (resetAtMs : Option ℤ) : Bool :=
  scope.isValid && trim label != "" && label.utf8ByteSize ≤ 64 && limit.all (· ≤ maxI64) &&
  remaining.all (· ≤ maxI64) &&
  (match limit, remaining with
    | some limit, some remaining => remaining ≤ limit
    | _, _ => true) &&
  resetAtMs.all (0 ≤ ·)

/-- One quota window as the provider reported it. -/
structure GrokAccountQuotaWindow where
  scope : GrokAccountQuotaScope
  label : String
  limit : Option ℕ
  remaining : Option ℕ
  resetAtMs : Option ℤ
  source : GrokAccountQuotaSource
  confidence : GrokAccountQuotaConfidence
  valid : validQuotaWindow scope label limit remaining resetAtMs = true
  deriving DecidableEq

def GrokAccountQuotaWindow.tryNew (scope : GrokAccountQuotaScope) (label : String)
    (limit remaining : Option ℕ) (resetAtMs : Option ℤ) (source : GrokAccountQuotaSource)
    (confidence : GrokAccountQuotaConfidence) :
    Except GrokAccountWorkerError GrokAccountQuotaWindow :=
  if valid : validQuotaWindow scope label limit remaining resetAtMs = true then
    .ok { scope, label, limit, remaining, resetAtMs, source, confidence, valid }
  else .error .invalidRequest

def maxQuotaWindowsPerAccountSync : ℕ := 64

def maxQuotaWindowsPerTarget : ℕ := 8

/-- What was seen of a scope: its source and confidence, and its labels. -/
structure QuotaGroup where
  source : GrokAccountQuotaSource
  confidence : GrokAccountQuotaConfidence
  labels : List String := []

/-- The windows of a scope agree on their source and confidence, have different labels and are not
too many. -/
def validateQuotaWindow (groups : Table GrokAccountQuotaScope QuotaGroup)
    (window : GrokAccountQuotaWindow) :
    Except GrokAccountWorkerError (Table GrokAccountQuotaScope QuotaGroup) := do
  let group := (groups.lookup window.scope).getD
    { source := window.source, confidence := window.confidence }
  ensure (group.source = window.source && group.confidence = window.confidence &&
    !group.labels.contains window.label &&
    (window.label :: group.labels).length ≤ maxQuotaWindowsPerTarget) .invalidRequest
  return groups.insert window.scope { group with labels := window.label :: group.labels }

def validateQuotaWindows (windows : List GrokAccountQuotaWindow) :
    Except GrokAccountWorkerError Unit := do
  let _ ← windows.foldlM validateQuotaWindow ∅
  return ()

def GrokAccountQuotaScope.columns : GrokAccountQuotaScope → String × String
  | account => ("account", "")
  | model label => ("model", label)

def quotaRow (accountId : String) (observedAtMs : ℤ) (window : GrokAccountQuotaWindow) :
    PersistedQuotaRow where
  accountId := accountId
  scopeKind := window.scope.columns.1
  modelLabel := window.scope.columns.2
  windowLabel := window.label
  limit := window.limit.map (↑)
  remaining := window.remaining.map (↑)
  resetAtMs := window.resetAtMs
  source := window.source.asStr
  confidence := window.confidence.asStr
  observedAtMs := observedAtMs

def insertQuotaWindow (accountId : String) (observedAtMs : ℤ) (window : GrokAccountQuotaWindow) :
    Operation Unit := do
  ensure (window.limit.all (· ≤ maxI64)) .invalidRequest
  ensure (window.remaining.all (· ≤ maxI64)) .invalidRequest
  let row := quotaRow accountId observedAtMs window
  ensure (row.check && !((← get).quotaWindows.map (·.key)).contains row.key) .storeUnavailable
  modify fun s => { s with quotaWindows := s.quotaWindows ++ [row] }

def insertQuotaWindows (accountId : String) (observedAtMs : ℤ) :
    List GrokAccountQuotaWindow → Operation Unit
  | [] => return ()
  | window :: windows => do
    insertQuotaWindow accountId observedAtMs window
    insertQuotaWindows accountId observedAtMs windows

/-! ### Claims -/

def maxWorkerBatch : ℕ := 256

def minClaimLeaseMs : ℤ := 1000

def maxClaimLeaseMs : ℤ := 10 * 60 * 1000

/-- A claimed job, with the credential of the account at the time of the claim. -/
structure GrokAccountWorkerJob where
  accountId : String
  provider : GrokAccountProvider
  kind : GrokAccountWorkerKind
  claimId : ClaimId
  expectedRevision : ℕ
  identityDigest : Bytes
  credential : Bytes
  deriving DecidableEq

/-- The account takes part in scheduling, and the work is due and not claimed. -/
def isDue (kind : GrokAccountWorkerKind) (observedAtMs : ℤ) (row : AccountRow) : Bool :=
  row.enabled && row.authStatus = .active && (row.dueAtMs kind).any (· ≤ observedAtMs) &&
    row.isUnclaimed observedAtMs

/-- By due time, then by key. -/
def duePrecedes (kind : GrokAccountWorkerKind) (a b : String × AccountRow) : Bool :=
  let dueA := (a.2.dueAtMs kind).getD 0
  let dueB := (b.2.dueAtMs kind).getD 0
  dueA < dueB || dueA = dueB && a.1 ≤ b.1

def dueRows (accounts : Table String AccountRow) (kind : GrokAccountWorkerKind) (observedAtMs : ℤ)
    (limit : ℕ) : List (String × AccountRow) :=
  ((accounts.rows.filter fun entry => isDue kind observedAtMs entry.2).mergeSort
    (duePrecedes kind)).take limit

variable (services : Services)

/-- Claims one account; `draw` is what the source of random numbers gave. -/
def claimRow (kind : GrokAccountWorkerKind) (observedAtMs claimExpiresAtMs : ℤ)
    (draw : Option ClaimId) (entry : String × AccountRow) : Operation GrokAccountWorkerJob := do
  let (accountId, row) := entry
  let claimId ← okOr draw .storeUnavailable
  let changed ← onAccounts (update AccountRow.check .storeUnavailable accountId
    (AccountRow.isUnclaimed observedAtMs) fun row =>
      { row with claim := some ⟨kind, claimId, claimExpiresAtMs⟩, updatedAtMs := observedAtMs })
  ensure changed .staleClaim
  ensure (row.identityDigest.length = 32) .invalidPersistedState
  ensure (services.fromPersisted row.credential) .invalidPersistedState
  let credential ← okOr (services.openSecret row.credential ⟨row.provider, row.identityDigest⟩)
    .secretStoreFailure
  ensure (0 ≤ row.revision) .invalidPersistedState
  return ⟨accountId, row.provider, kind, claimId, row.revision.toNat, row.identityDigest,
      credential⟩

/-- Claims the accounts in turn; `draw` has the random numbers of the call. -/
def claimRows (kind : GrokAccountWorkerKind) (observedAtMs claimExpiresAtMs : ℤ)
    (draw : ℕ → Option ClaimId) : ℕ → List (String × AccountRow) →
      Operation (List GrokAccountWorkerJob)
  | _, [] => return []
  | i, entry :: entries => do
    let job ← claimRow services kind observedAtMs claimExpiresAtMs (draw i) entry
    let jobs ← claimRows kind observedAtMs claimExpiresAtMs draw (i + 1) entries
    return job :: jobs

def claimDueWorkerJobs (kind : GrokAccountWorkerKind) (observedAtMs : ℤ) (limit : ℕ)
    (claimLeaseMs : ℤ) (draw : ℕ → Option ClaimId) : Operation (List GrokAccountWorkerJob) := do
  ensure (0 ≤ observedAtMs && limit != 0 && limit ≤ maxWorkerBatch &&
    minClaimLeaseMs ≤ claimLeaseMs &&
    claimLeaseMs ≤ maxClaimLeaseMs) .invalidRequest
  ensure (observedAtMs + claimLeaseMs ≤ maxI64) .invalidRequest
  transaction do
    let rows := dueRows (← get).accounts kind observedAtMs limit
    claimRows services kind observedAtMs (observedAtMs + claimLeaseMs) draw 0 rows

/-! ### Completions -/

/-- The row has the claim of the job with its deadline still to come, and the revision of the job.
-/
def GrokAccountWorkerJob.owns (job : GrokAccountWorkerJob) (kind : GrokAccountWorkerKind)
    (observedAtMs : ℤ) (row : AccountRow) : Bool :=
  row.revision = job.expectedRevision && row.claim.any fun claim =>
    claim.kind = kind && claim.claimId = job.claimId && observedAtMs < claim.expiresAtMs

def minRefreshJitterMs : ℤ := 5 * 60 * 1000

def refreshJitterRangeMs : ℕ := 3 * 60 * 1000 + 1

/-- Five to eight minutes before the expiry. -/
def deterministicRefreshDueAt (accountId : String) (expiresAtMs : ℤ) :
    Except GrokAccountWorkerError ℤ := do
  ensure (accountId != "" && 0 ≤ expiresAtMs) .invalidRequest
  let jitter := services.deterministicU64 accountId.toUTF8.toList % refreshJitterRangeMs
  return max (expiresAtMs - (minRefreshJitterMs + jitter)) 0

def completeRefreshJob (job : GrokAccountWorkerJob) (credential : Bytes)
    (expiresAtMs observedAtMs : ℤ) : Operation Unit := do
  ensure (job.kind = .refresh && observedAtMs < expiresAtMs) .resultKindMismatch
  let nextRevision : ℤ := job.expectedRevision + 1
  ensure (nextRevision ≤ maxI64) .invalidPersistedState
  let refreshDueAtMs ← liftM (deterministicRefreshDueAt services job.accountId expiresAtMs)
  let encrypted ← okOr (services.sealSecret credential ⟨job.provider, job.identityDigest⟩)
    .secretStoreFailure
  let changed ← onAccounts (update AccountRow.check .storeUnavailable job.accountId
    (job.owns .refresh observedAtMs) fun row =>
      { row with
        credential := encrypted
        revision := nextRevision
        authStatus := .active
        refreshDueAtMs := some refreshDueAtMs
        lastRefreshAtMs := some observedAtMs
        refreshFailureCount := 0
        claim := none
        updatedAtMs := observedAtMs })
  ensure changed .staleClaim

def completeQuotaJob (job : GrokAccountWorkerJob) (windows : List GrokAccountQuotaWindow)
    (nextDueAtMs observedAtMs : ℤ) : Operation Unit := do
  ensure (job.kind = .quota && windows.length ≤ maxQuotaWindowsPerAccountSync &&
    observedAtMs < nextDueAtMs) .resultKindMismatch
  liftM (validateQuotaWindows windows)
  transaction do
    let changed ← onAccounts (update AccountRow.check .storeUnavailable job.accountId
      (job.owns .quota observedAtMs) fun row =>
        { row with
          quotaSyncDueAtMs := some nextDueAtMs
          lastQuotaSyncAtMs := some observedAtMs
          quotaSyncFailureCount := 0
          claim := none
          updatedAtMs := observedAtMs })
    ensure changed .staleClaim
    modify fun s =>
      { s with quotaWindows := s.quotaWindows.filter fun row => row.accountId != job.accountId }
    insertQuotaWindows job.accountId observedAtMs windows

def baseFailureBackoffMs : ℤ := 60 * 1000

def maxFailureBackoffMs : ℤ := 60 * 60 * 1000

def failureJitterRangeMs : ℕ := 30 * 1000 + 1

/-- The delay doubles with each failure up to an hour, and is spread by the digest. -/
def deterministicBackoffDueAt (accountId : String) (failureCount : ℕ) (observedAtMs : ℤ) :
    Except GrokAccountWorkerError ℤ := do
  let shift := min (failureCount - 1) 16
  let backoff := min (baseFailureBackoffMs * 2 ^ shift) maxFailureBackoffMs
  let material := accountId.toUTF8.toList ++ beBytes 8 failureCount
  let jitter := services.deterministicU64 material % failureJitterRangeMs
  ensure (observedAtMs + backoff + jitter ≤ maxI64) .invalidRequest
  return observedAtMs + backoff + jitter

/-- When the work is tried again; never before a reauthentication. -/
def nextDueAt (accountId : String) (reauthRequired : Bool) (failureCount : ℕ) (observedAtMs : ℤ) :
    Except GrokAccountWorkerError (Option ℤ) :=
  if reauthRequired then .ok none
  else (deterministicBackoffDueAt services accountId failureCount observedAtMs).map some

/-- The failures of the account that the job still owns. -/
def currentFailureCount (job : GrokAccountWorkerJob) (observedAtMs : ℤ) : Operation ℕ := do
  let row ← okOr (((← get).accounts.lookup job.accountId).filter (job.owns job.kind observedAtMs))
    .staleClaim
  ensure (0 ≤ row.failureCount job.kind) .invalidPersistedState
  return (row.failureCount job.kind).toNat

def AccountRow.setFailure (kind : GrokAccountWorkerKind) (dueAtMs : Option ℤ) (failureCount : ℤ)
    (row : AccountRow) : AccountRow :=
  match kind with
  | .refresh => { row with refreshDueAtMs := dueAtMs, refreshFailureCount := failureCount }
  | .quota => { row with quotaSyncDueAtMs := dueAtMs, quotaSyncFailureCount := failureCount }

def completeWorkerFailure (job : GrokAccountWorkerJob) (reauthRequired : Bool) (observedAtMs : ℤ) :
    Operation Unit :=
  transaction do
    let failureCount ← currentFailureCount job observedAtMs
    let nextFailureCount := failureCount + 1
    ensure ((nextFailureCount : ℤ) ≤ maxI64) .invalidPersistedState
    let nextDueAtMs ← liftM
      (nextDueAt services job.accountId reauthRequired nextFailureCount observedAtMs)
    let changed ← onAccounts (update AccountRow.check .storeUnavailable job.accountId
      (job.owns job.kind observedAtMs) fun row =>
        { AccountRow.setFailure job.kind nextDueAtMs nextFailureCount row with
          authStatus := if reauthRequired then .reauthRequired else row.authStatus
          claim := none
          updatedAtMs := observedAtMs })
    ensure changed .staleClaim
    if reauthRequired then modify (addReauthState [job.accountId])

end CpaGateway.Grok.AccountWorker
