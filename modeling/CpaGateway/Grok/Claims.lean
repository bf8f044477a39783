import CpaGateway.Grok.Reauth
import CpaGateway.Lib.Lease

/-! # The claims on native accounts

The store of accounts is a system of leases on versioned records: the record of an account has its
revision, its stored credential and its status. Workers lease active accounts and keep their claim
in the row of the account; the reauthentication leases accounts that wait for a credential and keeps
its claim in the reauthentication state. -/

namespace CpaGateway.Grok.Claims

open Grok.AccountStore Grok.AccountWorker Grok.Reauth Lib.Effect Lib.Fallible Lib.Lease Lib.Tables

/-- The claim in the slot of an account, for workers and for the reauthentication. -/
def slot (s : GrokAccountPoolStore) (accountId : String) :
    GrokAccountAuthStatus → Option (ClaimId × ℤ)
  | .active => (s.accounts.lookup accountId).bind fun row =>
      row.claim.map fun claim => (claim.claimId, claim.expiresAtMs)
  | .reauthRequired => (s.reauthState.lookup accountId).bind fun row =>
      row.claim.map fun claim => (claim.claimId, claim.expiresAtMs)
  | .disabled => none

def AccountRow.record (row : AccountRow) : Record GrokAccountAuthStatus StoredSecret :=
  ⟨row.revision, row.credential, row.authStatus⟩

def record (s : GrokAccountPoolStore) (accountId : String) :
    Option (Record GrokAccountAuthStatus StoredSecret) :=
  (s.accounts.lookup accountId).map AccountRow.record

/-! ### Statements -/

variable {s s' : GrokAccountPoolStore}

section Statements

variable {ε : Type} {accountId : String} {row : AccountRow} {refused : ε}
  {condition : AccountRow → Bool} {change : AccountRow → AccountRow}

def setAccount (s : GrokAccountPoolStore) (accountId : String) (row : AccountRow) :
    GrokAccountPoolStore :=
  { s with accounts := s.accounts.insert accountId row }

theorem call_updateAccount :
    (onAccounts (update AccountRow.check refused accountId condition change)).call s =
      (.ok true, s') ↔
      ∃ row, s.accounts.lookup accountId = some row ∧ condition row = true ∧
        (change row).check = true ∧ setAccount s accountId (change row) = s' := by
  simp only [onAccounts, call_onPart_ok, call_update_true, ← and_assoc, exists_exists_and_eq_and]
  exact Iff.rfl

theorem slot_setAccount (key : String) (phase : GrokAccountAuthStatus) :
    slot (setAccount s accountId row) key phase =
      if key = accountId ∧ phase = .active then
        row.claim.map fun claim => (claim.claimId, claim.expiresAtMs)
      else slot s key phase := by
  cases phase with
  | active =>
    simp only [slot, setAccount, lookup_insert]
    by_cases hkey : key = accountId <;> simp [hkey]
  | reauthRequired => simp [slot, setAccount]
  | disabled => simp [slot]

end Statements

/-! ### Claims of workers -/

variable {services : Services} {kind : GrokAccountWorkerKind} {drawn : Option ClaimId}

section WorkerClaims

variable {observedAtMs claimExpiresAtMs : ℤ} {draw : ℕ → Option ClaimId}
  {job : GrokAccountWorkerJob} {jobs : List GrokAccountWorkerJob}

def claimed (kind : GrokAccountWorkerKind) (claimId : ClaimId) (observedAtMs claimExpiresAtMs : ℤ)
    (row : AccountRow) : AccountRow :=
  { row with claim := some ⟨kind, claimId, claimExpiresAtMs⟩, updatedAtMs := observedAtMs }

structure IsJobOf (services : Services) (job : GrokAccountWorkerJob) (row : AccountRow) : Prop where
  revision : row.revision = job.expectedRevision
  credential : services.openSecret row.credential ⟨job.provider, job.identityDigest⟩ =
    some job.credential

variable {accountId : String}

theorem claimRow_ok {row : AccountRow} (hlookup : s.accounts.lookup accountId = some row)
    (h : (claimRow services kind observedAtMs claimExpiresAtMs drawn (accountId, row)).call s =
      (.ok job, s')) :
    drawn = some job.claimId ∧ job.accountId = accountId ∧ IsJobOf services job row ∧
      setAccount s accountId (claimed kind job.claimId observedAtMs claimExpiresAtMs row) = s' := by
  simp only [claimRow, call_ok] at h
  obtain ⟨claimId, rfl, changed, _, hupdate, _, rfl, _, -,
    _, -, credential, hopen, _, hrevision, rfl, rfl⟩ := h
  obtain ⟨found, hfound, -, -, rfl⟩ := call_updateAccount.mp hupdate
  cases hlookup.symm.trans hfound
  refine ⟨rfl, rfl, ⟨?_, hopen⟩, rfl⟩
  exact (Int.toNat_of_nonneg (by simpa using hrevision)).symm

/-- What a claim of several accounts does. -/
structure ClaimsJobs (services : Services) (kind : GrokAccountWorkerKind)
    (observedAtMs claimExpiresAtMs : ℤ) (draw : ℕ → Option ClaimId) (i : ℕ)
    (entries : List (String × AccountRow)) (s s' : GrokAccountPoolStore)
    (jobs : List GrokAccountWorkerJob) : Prop where
  drawn : ∀ k job, jobs[k]? = some job → draw (i + k) = some job.claimId
  accountIds : jobs.map (·.accountId) = entries.map Prod.fst
  jobs : ∀ job ∈ jobs, ∃ row, (job.accountId, row) ∈ entries ∧ IsJobOf services job row ∧
    s'.accounts.lookup job.accountId =
      some (claimed kind job.claimId observedAtMs claimExpiresAtMs row)
  others : ∀ key, key ∉ entries.map Prod.fst → s'.accounts.lookup key = s.accounts.lookup key
  reauthState : s'.reauthState = s.reauthState

theorem claimRows_ok {entries : List (String × AccountRow)} {i : ℕ}
    (hlookup : ∀ entry ∈ entries, s.accounts.lookup entry.1 = some entry.2)
    (hnodup : (entries.map Prod.fst).Nodup)
    (h : (claimRows services kind observedAtMs claimExpiresAtMs draw i entries).call s =
      (.ok jobs, s')) :
    ClaimsJobs services kind observedAtMs claimExpiresAtMs draw i entries s s' jobs := by
  induction entries generalizing s i jobs with
  | nil =>
    obtain ⟨rfl, rfl⟩ := h
    exact ⟨by simp, rfl, by simp, fun _ _ => rfl, rfl⟩
  | cons entry entries ih =>
    obtain ⟨accountId, row⟩ := entry
    simp only [claimRows, call_ok] at h
    obtain ⟨job, s₁, hfirst, rest, s₂, hrest, rfl, rfl⟩ := h
    obtain ⟨hdrawn, rfl, hjob, rfl⟩ := claimRow_ok (hlookup _ (.head _)) hfirst
    rw [List.map_cons, List.nodup_cons] at hnodup
    have hne : ∀ entry ∈ entries, entry.1 ≠ job.accountId := fun entry hmem heq =>
      hnodup.1 (List.mem_map.mpr ⟨entry, hmem, heq⟩)
    have hrest' := ih (fun entry hmem => by
      rw [setAccount, lookup_insert, if_neg (hne entry hmem)]
      exact hlookup entry (.tail _ hmem)) hnodup.2 hrest
    refine ⟨?_, by simp [hrest'.accountIds], ?_, ?_, hrest'.reauthState⟩
    · intro k job' hget
      cases k with
      | zero =>
        rw [List.getElem?_cons_zero, Option.some.injEq] at hget
        subst hget
        exact hdrawn
      | succ k =>
        have hk := hrest'.drawn k job' hget
        rwa [Nat.add_right_comm] at hk
    · intro job' hmem
      rcases List.mem_cons.mp hmem with rfl | hmem
      · refine ⟨row, .head _, hjob, ?_⟩
        rw [hrest'.others job'.accountId hnodup.1, setAccount, lookup_insert, if_pos rfl]
      · obtain ⟨row', hrow', hjob'⟩ := hrest'.jobs job' hmem
        exact ⟨row', .tail _ hrow', hjob'⟩
    · intro key hkey
      rw [List.map_cons, List.mem_cons, not_or] at hkey
      rw [hrest'.others key hkey.2, setAccount, lookup_insert, if_neg hkey.1]

variable {limit : ℕ} {accounts : Table String AccountRow}

theorem mem_dueRows {entry : String × AccountRow}
    (h : entry ∈ dueRows accounts kind observedAtMs limit) :
    accounts.lookup entry.1 = some entry.2 ∧
      AccountWorker.isDue kind observedAtMs entry.2 = true := by
  have hmem := List.mem_of_mem_take h
  rw [List.mem_mergeSort, List.mem_filter] at hmem
  exact ⟨Table.mem_rows.mp hmem.1, hmem.2⟩

theorem nodup_dueRows : ((dueRows accounts kind observedAtMs limit).map Prod.fst).Nodup := by
  have hsorted := (List.mergeSort_perm
    (accounts.rows.filter fun entry => AccountWorker.isDue kind observedAtMs entry.2)
    (AccountWorker.duePrecedes kind)).map Prod.fst
  have hfiltered : ((accounts.rows.filter fun entry =>
      AccountWorker.isDue kind observedAtMs entry.2).map Prod.fst).Nodup :=
    (Table.nodup_rows accounts).sublist (List.filter_sublist.map _)
  exact (hsorted.nodup_iff.mpr hfiltered).sublist ((List.take_sublist _ _).map _)

variable {claimLeaseMs : ℤ}

theorem claimDueWorkerJobs_ok
    (h : (claimDueWorkerJobs services kind observedAtMs limit claimLeaseMs draw).call s =
      (.ok jobs, s')) :
    ∃ entries, (∀ entry ∈ entries, s.accounts.lookup entry.1 = some entry.2 ∧
        entry.2.authStatus = .active) ∧
      ClaimsJobs services kind observedAtMs (observedAtMs + claimLeaseMs) draw 0 entries
        s s' jobs := by
  simp only [claimDueWorkerJobs, call_ok, call_transaction_ok] at h
  obtain ⟨_, -, _, -, hrows⟩ := h
  refine ⟨_, fun entry hmem => ?_, claimRows_ok
    (fun entry hmem => (mem_dueRows hmem).1) nodup_dueRows
    hrows⟩
  obtain ⟨hlookup, hdue⟩ := mem_dueRows hmem
  simp only [AccountWorker.isDue, Bool.and_eq_true, decide_eq_true_eq] at hdue
  exact ⟨hlookup, hdue.1.1.2⟩

end WorkerClaims

/-! ### Claims of the reauthentication -/

section ReauthClaims

variable {observedAtMs claimLeaseMs : ℤ} {job : GrokReauthJob}

theorem slot_addReauthState (accountIds : List String) (key : String)
    (phase : GrokAccountAuthStatus) :
    slot (addReauthState accountIds s) key phase = slot s key phase := by
  cases phase with
  | active | disabled => rfl
  | reauthRequired =>
    simp only [slot, addReauthState, lookup_foldl_insertOrIgnore]
    split_ifs
    · cases s.reauthState.lookup key <;> rfl
    · rfl

/-- The row of a reauthentication state, replaced. -/
def setReauth (s : GrokAccountPoolStore) (accountId : String) (row : ReauthRow) :
    GrokAccountPoolStore :=
  { s with reauthState := s.reauthState.insert accountId row }

variable {accountId : String}

theorem call_updateReauth {ε : Type} {refused : ε} {condition : ReauthRow → Bool}
    {change : ReauthRow → ReauthRow} :
    (onReauthState (update ReauthRow.check refused accountId condition change)).call s =
      (.ok true, s') ↔
      ∃ row, s.reauthState.lookup accountId = some row ∧ condition row = true ∧
        (change row).check = true ∧ setReauth s accountId (change row) = s' := by
  simp only [call_onReauthState_ok, call_update_true, ← and_assoc, exists_exists_and_eq_and]
  exact Iff.rfl

theorem slot_setReauth {row : ReauthRow} (key : String) (phase : GrokAccountAuthStatus) :
    slot (setReauth s accountId row) key phase =
      if key = accountId ∧ phase = .reauthRequired then
        row.claim.map fun claim => (claim.claimId, claim.expiresAtMs)
      else slot s key phase := by
  cases phase with
  | active => simp [slot, setReauth]
  | reauthRequired =>
    simp only [slot, setReauth, lookup_insert]
    by_cases hkey : key = accountId <;> simp [hkey]
  | disabled => simp [slot]

theorem mem_dueRow {entry : String × AccountRow × ReauthRow}
    (h : dueRow s observedAtMs = some entry) :
    s.accounts.lookup entry.1 = some entry.2.1 ∧ entry.2.1.authStatus = .reauthRequired := by
  have hmem := List.mem_of_mem_head? h
  rw [List.mem_mergeSort, List.mem_filter] at hmem
  obtain ⟨hjoined, hdue⟩ := hmem
  simp only [Reauth.isDue, Bool.and_eq_true, decide_eq_true_eq] at hdue
  obtain ⟨⟨id, row⟩, hrow, hstate⟩ := List.mem_filterMap.mp hjoined
  obtain ⟨state, -, rfl⟩ := Option.map_eq_some_iff.mp hstate
  exact ⟨Table.mem_rows.mp hrow, hdue.1.1.1.2⟩

/-- A claim of the reauthentication that succeeds: nothing was due, or one account is claimed. -/
theorem claimDueReauthJob_ok {result : Option GrokReauthJob}
    (h : (claimDueReauthJob services observedAtMs claimLeaseMs drawn).call s = (.ok result, s')) :
    (result = none ∧ s' = addReauthState (waiting s) s) ∨
    ∃ job row, result = some job ∧ drawn = some job.claimId ∧
      s.accounts.lookup job.accountId = some row ∧ row.authStatus = .reauthRequired ∧
      row.revision = job.expectedRevision ∧
      job.claimExpiresAtMs = observedAtMs + claimLeaseMs ∧
      services.openSecret row.credential ⟨job.provider, job.identityDigest⟩ = some job.credential ∧
      ∃ state : ReauthRow, s' = setReauth (addReauthState (waiting s) s) job.accountId
        { state with claim := some ⟨job.claimId, observedAtMs + claimLeaseMs⟩ } := by
  simp only [claimDueReauthJob, call_ok, call_transaction_ok] at h
  obtain ⟨_, -, _, -, _, h⟩ := h
  split at h
  · rw [call_pure_ok] at h
    exact .inl ⟨h.1.symm, h.2.symm⟩
  · rename_i accountId account state hdue
    obtain ⟨hlookup, hstatus⟩ := mem_dueRow hdue
    simp only [claimEntry, call_ok] at h
    obtain ⟨job, _, ⟨_, -, _, -, credential, hopen, _, hrevision,
      claimId, hdrawn, changed, _, hupdate, _, rfl, rfl, rfl⟩, rfl, rfl⟩ := h
    obtain ⟨found, -, -, -, rfl⟩ := call_updateReauth.mp hupdate
    refine .inr ⟨_, account, rfl, hdrawn, hlookup, hstatus, ?_, rfl, hopen, found, rfl⟩
    exact (Int.toNat_of_nonneg (by simpa using hrevision)).symm

end ReauthClaims

/-! ### Completions -/

/-- A claim that was handed out. -/
inductive Claim
  | worker (job : GrokAccountWorkerJob)
  | reauth (job : GrokReauthJob)

namespace Claim

def accountId : Claim → String
  | worker job => job.accountId
  | reauth job => job.accountId

def claimId : Claim → ClaimId
  | worker job => job.claimId
  | reauth job => job.claimId

def expectedRevision : Claim → ℕ
  | worker job => job.expectedRevision
  | reauth job => job.expectedRevision

def aad : Claim → CredentialAad
  | worker job => ⟨job.provider, job.identityDigest⟩
  | reauth job => ⟨job.provider, job.identityDigest⟩

def credential : Claim → Bytes
  | worker job => job.credential
  | reauth job => job.credential

def phase : Claim → GrokAccountAuthStatus
  | worker _ => .active
  | reauth _ => .reauthRequired

end Claim

/-- A call that completes a claim. -/
inductive Completion
  | refresh (job : GrokAccountWorkerJob) (credential : Bytes) (expiresAtMs observedAtMs : ℤ)
  | quota (job : GrokAccountWorkerJob) (windows : List GrokAccountQuotaWindow)
      (nextDueAtMs observedAtMs : ℤ)
  | failure (job : GrokAccountWorkerJob) (reauthRequired : Bool) (observedAtMs : ℤ)
  | reauthSuccess (job : GrokReauthJob) (credential : Bytes) (observedAtMs : ℤ)
  | reauthFailure (job : GrokReauthJob) (transient : Bool) (observedAtMs : ℤ)

namespace Completion

def claim : Completion → Claim
  | refresh job _ _ _ => .worker job
  | quota job _ _ _ => .worker job
  | failure job _ _ => .worker job
  | reauthSuccess job _ _ => .reauth job
  | reauthFailure job _ _ => .reauth job

def observedAtMs : Completion → ℤ
  | refresh _ _ _ observedAtMs => observedAtMs
  | quota _ _ _ observedAtMs => observedAtMs
  | failure _ _ observedAtMs => observedAtMs
  | reauthSuccess _ _ observedAtMs => observedAtMs
  | reauthFailure _ _ observedAtMs => observedAtMs

/-- Whether the call succeeded, and the store after it. -/
def outcome {ε : Type} (m : Method GrokAccountPoolStore ε Unit) (s : GrokAccountPoolStore) :
    Bool × GrokAccountPoolStore :=
  ((m.call s).1.isOk, (m.call s).2)

def call (services : Services) : Completion → GrokAccountPoolStore → Bool × GrokAccountPoolStore
  | refresh job credential expiresAtMs observedAtMs =>
    outcome (completeRefreshJob services job credential expiresAtMs observedAtMs)
  | quota job windows nextDueAtMs observedAtMs =>
    outcome (completeQuotaJob job windows nextDueAtMs observedAtMs)
  | failure job reauthRequired observedAtMs =>
    outcome (completeWorkerFailure services job reauthRequired observedAtMs)
  | reauthSuccess job credential observedAtMs =>
    outcome (completeReauthSuccess services job credential observedAtMs)
  | reauthFailure job transient observedAtMs =>
    outcome (completeReauthFailure services job transient observedAtMs)

end Completion

section Failure

theorem outcome_false {ε : Type} {m : Method GrokAccountPoolStore ε Unit} (hm : Restores m)
    (h : Completion.outcome m s = (false, s')) : s' = s := by
  rcases hcall : m.call s with ⟨e | u, t⟩ <;> rw [Completion.outcome, hcall] at h
  · rw [← (Prod.mk.inj h).2]
    exact hm s e t hcall
  · cases (Prod.mk.inj h).1

variable {observedAtMs claimLeaseMs : ℤ}

theorem restores_claims {limit : ℕ} {draw : ℕ → Option ClaimId} :
    Restores (claimDueWorkerJobs services kind observedAtMs limit claimLeaseMs draw) :=
  .ensure_bind (.ensure_bind (restores_transaction _))

theorem restores_reauth : Restores (claimDueReauthJob services observedAtMs claimLeaseMs drawn) :=
  .ensure_bind (.ensure_bind (restores_transaction _))

/-- **A completion that fails changes nothing.** -/
theorem Completion.call_false {c : Completion} (h : c.call services s = (false, s')) : s' = s := by
  cases c with
  | refresh =>
    exact outcome_false (.ensure_bind (.ensure_bind (.lift_bind fun _ => .okOr_bind fun _ =>
      restores_update fun _ => rfl))) h
  | quota =>
    exact outcome_false (.ensure_bind (.lift_bind fun _ => restores_transaction _)) h
  | failure => exact outcome_false (restores_transaction _) h
  | reauthSuccess =>
    exact outcome_false
      (.ensure_bind (.okOr_bind fun _ => .okOr_bind fun _ => restores_transaction _)) h
  | reauthFailure => exact outcome_false (.ensure_bind (restores_transaction _)) h

end Failure

variable {reauthRequired : Bool}

section Success

variable {job : GrokAccountWorkerJob} {observedAtMs : ℤ} {row row' : AccountRow}

/-- What a completion does: its claim is in its slot before the deadline, and leaves it; the
credential of the account is replaced under the next revision, or not touched. -/
structure Completed (s s' : GrokAccountPoolStore) (claim : Claim) (observedAtMs : ℤ) : Prop where
  held : ∃ deadline, slot s claim.accountId claim.phase = some (claim.claimId, deadline) ∧
    observedAtMs < deadline
  emptied : slot s' claim.accountId claim.phase = none
  others : ∀ key phase, ¬(key = claim.accountId ∧ phase = claim.phase) →
    slot s' key phase = slot s key phase
  replaced : ∀ row, s.accounts.lookup claim.accountId = some row →
    ∃ row', s'.accounts.lookup claim.accountId = some row' ∧
      (row'.revision = row.revision ∧ row'.credential = row.credential ∨
        row.revision = claim.expectedRevision ∧ row'.revision = row.revision + 1)
  accounts : ∀ key, key ≠ claim.accountId → s'.accounts.lookup key = s.accounts.lookup key

theorem owns_iff :
    job.owns kind observedAtMs row = true ↔ row.revision = job.expectedRevision ∧
      ∃ claim, row.claim = some claim ∧ claim.kind = kind ∧ claim.claimId = job.claimId ∧
        observedAtMs < claim.expiresAtMs := by
  simp only [GrokAccountWorkerJob.owns, Bool.and_eq_true, decide_eq_true_eq, Option.any_eq_true,
    and_assoc]

theorem Completed.of_setAccount (hlookup : s.accounts.lookup job.accountId = some row)
    (howns : job.owns kind observedAtMs row = true) (hclaim : row'.claim = none)
    (hrow : row'.revision = row.revision ∧ row'.credential = row.credential ∨
      row'.revision = job.expectedRevision + 1)
    (haccounts : s'.accounts = s.accounts.insert job.accountId row')
    (hreauth : ∀ key, slot s' key .reauthRequired = slot s key .reauthRequired) :
    Completed s s' (.worker job) observedAtMs := by
  obtain ⟨hrevision, claim, hheld, -, hid, hdeadline⟩ := owns_iff.mp howns
  have hslot : ∀ key phase, slot s' key phase =
      slot (setAccount s job.accountId row') key phase := by
    intro key phase
    cases phase with
    | active => simp [slot, setAccount, haccounts]
    | reauthRequired => exact hreauth key
    | disabled => rfl
  refine ⟨⟨claim.expiresAtMs, ?_, hdeadline⟩, ?_, ?_, ?_, ?_⟩
  · simp [slot, Claim.phase, Claim.accountId, Claim.claimId, hlookup, hheld, hid]
  · rw [hslot, slot_setAccount, if_pos ⟨rfl, rfl⟩, hclaim, Option.map_none]
  · intro key phase hne
    rw [hslot, slot_setAccount]
    exact if_neg hne
  · intro found hfound
    cases hfound.symm.trans hlookup
    refine ⟨row', ?_, ?_⟩
    · rw [haccounts, lookup_insert]
      exact if_pos rfl
    · rcases hrow with hsame | hnext
      · exact .inl hsame
      · exact .inr ⟨hrevision, hnext.trans (by rw [hrevision])⟩
  · intro key hne
    rw [haccounts, lookup_insert]
    exact if_neg hne

variable {credential : Bytes}

theorem completeRefreshJob_ok {expiresAtMs : ℤ}
    (h : (completeRefreshJob services job credential expiresAtMs observedAtMs).call s =
      (.ok (), s')) :
    ∃ row encrypted refreshDueAtMs, s.accounts.lookup job.accountId = some row ∧
      job.owns .refresh observedAtMs row = true ∧ 0 ≤ observedAtMs ∧
      deterministicRefreshDueAt services job.accountId expiresAtMs = .ok refreshDueAtMs ∧
      s' = setAccount s job.accountId
        { row with
          credential := encrypted
          revision := job.expectedRevision + 1
          authStatus := .active
          refreshDueAtMs := some refreshDueAtMs
          lastRefreshAtMs := some observedAtMs
          refreshFailureCount := 0
          claim := none
          updatedAtMs := observedAtMs } := by
  simp only [completeRefreshJob, call_ok] at h
  obtain ⟨_, -, _, -, _, hdue, _, -, _, _, hupdate, rfl, rfl⟩ := h
  obtain ⟨row, hlookup, howns, hcheck, rfl⟩ := call_updateAccount.mp hupdate
  have hobserved : 0 ≤ observedAtMs := by simp_all [AccountRow.check, validTime]
  exact ⟨row, _, _, hlookup, howns, hobserved, hdue, rfl⟩

variable {windows : List GrokAccountQuotaWindow}

theorem insertQuotaWindows_ok {accountId : String}
    (h : (insertQuotaWindows accountId observedAtMs windows).call s = (.ok (), s')) :
    s' = { s with
      quotaWindows := s.quotaWindows ++ windows.map (quotaRow accountId observedAtMs) } := by
  induction windows generalizing s with
  | nil =>
    simp only [insertQuotaWindows, call_pure_ok] at h
    rw [h.2]
    simp
  | cons window windows ih =>
    simp only [insertQuotaWindows, insertQuotaWindow, call_ok] at h
    obtain ⟨_, _, ⟨_, -, _, -, _, -, rfl⟩, hrest⟩ := h
    rw [ih hrest]
    simp

theorem completeQuotaJob_ok {nextDueAtMs : ℤ}
    (h : (completeQuotaJob job windows nextDueAtMs observedAtMs).call s = (.ok (), s')) :
    ∃ row, s.accounts.lookup job.accountId = some row ∧ job.owns .quota observedAtMs row = true ∧
      s'.accounts = s.accounts.insert job.accountId
        { row with
          quotaSyncDueAtMs := some nextDueAtMs
          lastQuotaSyncAtMs := some observedAtMs
          quotaSyncFailureCount := 0
          claim := none
          updatedAtMs := observedAtMs } ∧
      s'.reauthState = s.reauthState := by
  simp only [completeQuotaJob, call_ok, call_transaction_ok] at h
  obtain ⟨_, -, _, -, _, _, hupdate, _, rfl, _, hinsert⟩ := h
  obtain ⟨row, hlookup, howns, -, rfl⟩ := call_updateAccount.mp hupdate
  obtain rfl := insertQuotaWindows_ok hinsert
  exact ⟨row, hlookup, howns, rfl, rfl⟩

theorem completed_quota {nextDueAtMs : ℤ}
    (h : (completeQuotaJob job windows nextDueAtMs observedAtMs).call s = (.ok (), s')) :
    Completed s s' (.worker job) observedAtMs := by
  obtain ⟨row, hlookup, howns, haccounts, hreauth⟩ := completeQuotaJob_ok h
  refine .of_setAccount hlookup howns ?_ ?_ haccounts fun key => ?_
  · rfl
  · exact .inl ⟨rfl, rfl⟩
  · simp [slot, hreauth]

def failed (kind : GrokAccountWorkerKind) (reauthRequired : Bool) (dueAtMs : Option ℤ)
    (failureCount observedAtMs : ℤ) (row : AccountRow) : AccountRow :=
  { AccountRow.setFailure kind dueAtMs failureCount row with
    authStatus := if reauthRequired then .reauthRequired else row.authStatus
    claim := none
    updatedAtMs := observedAtMs }

/-- A failure of a worker that is recorded: the work has a new due time unless the account waits for
a credential. -/
theorem completeWorkerFailure_ok
    (h : (completeWorkerFailure services job reauthRequired observedAtMs).call s = (.ok (), s')) :
    ∃ row dueAtMs failureCount, s.accounts.lookup job.accountId = some row ∧
      job.owns job.kind observedAtMs row = true ∧ dueAtMs.isSome = !reauthRequired ∧
      s'.accounts = s.accounts.insert job.accountId
        (failed job.kind reauthRequired dueAtMs failureCount observedAtMs row) ∧
      ∀ key, slot s' key .reauthRequired = slot s key .reauthRequired := by
  simp only [completeWorkerFailure, currentFailureCount, call_ok, call_transaction_ok] at h
  obtain ⟨_, _, ⟨found, -, _, -, rfl, rfl⟩, _, -, dueAtMs, hdue, _, _, hupdate, _, rfl, hfinal⟩ := h
  obtain ⟨row, hlookup, howns, -, rfl⟩ := call_updateAccount.mp hupdate
  refine ⟨row, dueAtMs, ((found.failureCount job.kind).toNat + 1 : ℕ), hlookup, howns, ?_, ?_⟩
  · cases reauthRequired with
    | true =>
      cases hdue
      rfl
    | false =>
      obtain ⟨due, -, rfl⟩ := map_ok hdue
      rfl
  · cases reauthRequired with
    | true =>
      rw [if_pos rfl, call_modify_ok] at hfinal
      subst hfinal
      exact ⟨rfl, fun key => slot_addReauthState _ _ _⟩
    | false =>
      obtain ⟨-, rfl⟩ := hfinal
      exact ⟨rfl, fun key => rfl⟩

variable {job : GrokReauthJob}

theorem held_reauth {state : ReauthRow} (hlookup : s.reauthState.lookup job.accountId = some state)
    (hclaimed : state.isClaimedBy job.claimId observedAtMs = true) :
    ∃ deadline, slot s job.accountId .reauthRequired = some (job.claimId, deadline) ∧
      observedAtMs < deadline := by
  simp only [ReauthRow.isClaimedBy, Option.any_eq_true, Bool.and_eq_true,
    decide_eq_true_eq] at hclaimed
  obtain ⟨claim, hclaim, hid, hdeadline⟩ := hclaimed
  exact ⟨claim.expiresAtMs, by simp [slot, hlookup, hclaim, hid], hdeadline⟩

theorem completeReauthSuccess_ok
    (h : (completeReauthSuccess services job credential observedAtMs).call s = (.ok (), s')) :
    ∃ row encrypted refreshDueAtMs state,
      services.validatedExpiry job.provider credential observedAtMs = some refreshDueAtMs ∧
      s.accounts.lookup job.accountId = some row ∧ row.revision = job.expectedRevision ∧
      row.authStatus = .reauthRequired ∧ s.reauthState.lookup job.accountId = some state ∧
      state.isClaimedBy job.claimId observedAtMs = true ∧
      s' =
        { setAccount s job.accountId
            { row with
              credential := encrypted
              revision := job.expectedRevision + 1
              authStatus := .active
              refreshDueAtMs := refreshDueAtMs
              lastRefreshAtMs := some observedAtMs
              refreshFailureCount := 0
              updatedAtMs := observedAtMs } with
          reauthState := s.reauthState.erase job.accountId } := by
  simp only [completeReauthSuccess, call_ok, call_transaction_ok] at h
  obtain ⟨_, -, refreshDueAtMs, hexpiry, _, -, _, -, _, _, hupdate, _, rfl, _, _, hdelete,
    rfl, rfl⟩ := h
  obtain ⟨row, hlookup, hcondition, -, rfl⟩ := call_updateAccount.mp hupdate
  obtain ⟨reauthState, hremoved, rfl⟩ := call_onReauthState_ok.mp hdelete
  obtain ⟨state, hstate, hclaimed, rfl⟩ := call_delete_true.mp hremoved
  simp only [Bool.and_eq_true, decide_eq_true_eq] at hcondition
  exact ⟨row, _, refreshDueAtMs, state, hexpiry, hlookup, hcondition.1, hcondition.2,
    hstate, hclaimed, rfl⟩

theorem completed_reauthSuccess
    (h : (completeReauthSuccess services job credential observedAtMs).call s = (.ok (), s')) :
    Completed s s' (.reauth job) observedAtMs := by
  obtain ⟨row, encrypted, refreshDueAtMs, state, -, hlookup, hrevision, -, hstate, hclaimed, rfl⟩ :=
    completeReauthSuccess_ok h
  refine ⟨held_reauth hstate hclaimed, ?_, ?_, ?_, ?_⟩
  · simp [slot, Claim.phase, Claim.accountId]
  · intro key phase hne
    cases phase with
    | active =>
      -- the claim of a worker is left alone
      simp only [slot, setAccount, lookup_insert]
      split_ifs with hkey
      · rw [hkey, hlookup]
        rfl
      · rfl
    | reauthRequired =>
      have hkey : key ≠ job.accountId := fun hkey => hne ⟨hkey, rfl⟩
      simp [slot, lookup_erase, if_neg hkey]
    | disabled => rfl
  · intro found hfound
    cases hfound.symm.trans hlookup
    refine ⟨_, AList.lookup_insert _, .inr ⟨hrevision, ?_⟩⟩
    rw [hrevision]
  · intro key hne
    exact AList.lookup_insert_ne hne

theorem completed_reauthFailure {transient : Bool}
    (h : (completeReauthFailure services job transient observedAtMs).call s = (.ok (), s')) :
    Completed s s' (.reauth job) observedAtMs := by
  simp only [completeReauthFailure, call_ok, call_transaction_ok] at h
  obtain ⟨_, -, _, -, _, -, _, -, _, _, hupdate, rfl, rfl⟩ := h
  obtain ⟨state, hstate, hclaimed, -, rfl⟩ := call_updateReauth.mp hupdate
  refine ⟨held_reauth hstate hclaimed, ?_, ?_, ?_, fun key _ => rfl⟩
  · rw [slot_setReauth]
    exact if_pos ⟨rfl, rfl⟩
  · intro key phase hne
    rw [slot_setReauth]
    exact if_neg hne
  · intro row hrow
    exact ⟨row, hrow, .inl ⟨rfl, rfl⟩⟩

theorem outcome_true {ε : Type} {m : Method GrokAccountPoolStore ε Unit}
    (h : Completion.outcome m s = (true, s')) : m.call s = (.ok (), s') := by
  rcases hcall : m.call s with ⟨e | u, t⟩ <;> rw [Completion.outcome, hcall] at h
  · cases (Prod.mk.inj h).1
  · rw [← (Prod.mk.inj h).2]

/-- **A completion that succeeds** completes its claim. -/
theorem Completion.call_true {c : Completion} (h : c.call services s = (true, s')) :
    Completed s s' c.claim c.observedAtMs := by
  cases c with
  | refresh =>
    obtain ⟨_, _, _, hlookup, howns, -, -, rfl⟩ := completeRefreshJob_ok (outcome_true h)
    exact .of_setAccount hlookup howns rfl (.inr rfl) rfl fun _ => rfl
  | quota => exact completed_quota (outcome_true h)
  | @failure job =>
    obtain ⟨_, _, _, hlookup, howns, -, haccounts, hreauth⟩ :=
      completeWorkerFailure_ok (outcome_true h)
    refine .of_setAccount hlookup howns rfl ?_ haccounts hreauth
    exact .inl (by cases job.kind <;> exact ⟨rfl, rfl⟩)
  | reauthSuccess => exact completed_reauthSuccess (outcome_true h)
  | reauthFailure => exact completed_reauthFailure (outcome_true h)

end Success

end CpaGateway.Grok.Claims
