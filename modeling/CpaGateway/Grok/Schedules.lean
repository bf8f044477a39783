import CpaGateway.Grok.Claims

/-! # The two schedules of a native account

An account has a due time for its refresh and one for the synchronisation of its quota. A worker
that reports a refused credential clears the due time of its own kind and makes the account wait.
The reauthentication makes it active again and sets the due time of the refresh, and only that one.

A `Schedule` is what the due times depend on, and a `Move` what one call can do to it. -/

namespace CpaGateway.Grok.Schedules

open Grok.AccountStore Grok.AccountWorker Grok.Reauth Grok.Claims Lib.Effect Lib.Tables
open Lib.Transition Completion

/-! ### Schedules -/

/-- The due times of an account and what they depend on. -/
structure Schedule where
  enabled : Bool
  authStatus : GrokAccountAuthStatus
  due : GrokAccountWorkerKind → Option ℤ
  /-- The kind of work that the account is claimed for. -/
  claim : Option GrokAccountWorkerKind

/-- What a call reports of an account. -/
inductive Event
  | other
  /-- A worker found the credential refused. -/
  | reported (kind : GrokAccountWorkerKind)
  /-- The reauthentication committed a credential, with its expiry if that is known. -/
  | restored (expiresAtMs : Option ℤ)
  deriving DecidableEq

inductive Move : Schedule → Event → Schedule → Prop
  | kept {p : Schedule} : Move p .other p
  | claimed {p : Schedule} {kind : GrokAccountWorkerKind} (hdue : p.due kind ≠ none) :
    Move p .other { p with claim := some kind }
  | completed {p : Schedule} {kind : GrokAccountWorkerKind} {authStatus : GrokAccountAuthStatus}
    {dueAtMs : ℤ} (hclaim : p.claim = some kind)
    (hstatus : authStatus = p.authStatus ∨ authStatus = .active) :
    Move p .other
      { p with authStatus, due := Function.update p.due kind (some dueAtMs), claim := none }
  | reported {p : Schedule} {kind : GrokAccountWorkerKind} (hclaim : p.claim = some kind) :
    Move p (.reported kind)
      { p with
        authStatus := .reauthRequired, due := Function.update p.due kind none, claim := none }
  | restored {p : Schedule} {expiresAtMs : Option ℤ} (hwaits : p.authStatus = .reauthRequired) :
    Move p (.restored expiresAtMs)
      { p with authStatus := .active, due := Function.update p.due .refresh expiresAtMs }

section Moves

variable {p p' : Schedule} {e : Event} {events : List Event}

theorem Move.enabled_eq (h : Move p e p') : p'.enabled = p.enabled := by cases h <;> rfl

/-- The synchronisation of the quota is without a due time, and no worker is at it. -/
def Lost (p : Schedule) : Prop := p.due .quota = none ∧ p.claim ≠ some .quota

/-- Only a quota job that reports takes the due time of the quota away. -/
theorem Move.quota_none (h : Move p e p') (hsome : p.due .quota ≠ none) :
    (p'.due .quota ≠ none ∧ e ≠ .reported .quota) ∨ (Lost p' ∧ e = .reported .quota) := by
  cases h with
  | kept | claimed => exact .inl ⟨hsome, by simp⟩
  | @completed kind authStatus dueAtMs hclaim hstatus =>
    cases kind <;> simp [hsome]
  | @reported kind hclaim =>
    cases kind with
    | refresh => exact .inl ⟨by simpa using hsome, by simp⟩
    | quota => exact .inr ⟨⟨by simp, by simp⟩, rfl⟩
  | restored hwaits => exact .inl ⟨by simpa using hsome, by simp⟩

/-- **A due time that was lost is never set again**, since no worker can claim the account for it.
-/
theorem Lost.move (hlost : Lost p) (h : Move p e p') : Lost p' := by
  obtain ⟨hdue, hclaim⟩ := hlost
  cases h with
  | kept => exact ⟨hdue, hclaim⟩
  | @claimed kind hset =>
    cases kind with
    | refresh => exact ⟨hdue, by simp⟩
    | quota => exact absurd hdue hset
  | @completed kind _ _ hheld | @reported kind hheld =>
    cases kind with
    | refresh => exact ⟨by simpa using hdue, by simp⟩
    | quota => exact absurd hheld hclaim
  | restored hwaits => exact ⟨by simpa using hdue, hclaim⟩

theorem Lost.run (hlost : Lost p) (hrun : Run Move p events p') : Lost p' :=
  hrun.keeps (fun _ _ _ => Lost.move) hlost

/-- **The due time of the quota is lost when a quota job reports**, and only then. -/
theorem lost_iff (hrun : Run Move p events p') (hsome : p.due .quota ≠ none) :
    (p'.due .quota ≠ none ∧ .reported .quota ∉ events) ∨ (Lost p' ∧ .reported .quota ∈ events) := by
  induction hrun with
  | nil p => exact .inl ⟨hsome, List.not_mem_nil⟩
  | cons h hrest ih =>
    rcases h.quota_none hsome with ⟨hdue, hne⟩ | ⟨hlost, rfl⟩
    · simpa [Ne.symm hne] using ih hdue
    · exact .inr ⟨hlost.run hrest, List.mem_cons_self⟩

theorem Move.of_restored {expiresAtMs : Option ℤ} (h : Move p (.restored expiresAtMs) p') :
    p'.authStatus = .active ∧ p'.due .refresh = expiresAtMs := by
  cases h with
  | restored hwaits => exact ⟨rfl, by simp⟩

theorem refreshing_run (hrun : Run Move p events p') (hactive : p.authStatus = .active)
    (hdue : p.due .refresh ≠ none) (hquiet : ∀ kind, .reported kind ∉ events) :
    p'.authStatus = .active ∧ p'.due .refresh ≠ none := by
  induction hrun with
  | nil p => exact ⟨hactive, hdue⟩
  | @cons p q r e events h hrun ih =>
    have hquiet' : ∀ kind, .reported kind ∉ events := fun kind hmem => hquiet kind (.tail _ hmem)
    cases h with
    | kept | claimed => exact ih hactive hdue hquiet'
    | @completed kind authStatus dueAtMs hclaim hstatus =>
      refine ih ?_ ?_ hquiet'
      · rcases hstatus with rfl | rfl
        · exact hactive
        · rfl
      · cases kind <;> simp [hdue]
    | @reported kind hclaim => exact absurd (List.mem_cons_self) (hquiet kind)
    | restored hwaits => exact absurd (hactive.symm.trans hwaits) (by decide)

end Moves

/-! ### Calls -/

inductive Call
  | claimJobs (kind : GrokAccountWorkerKind) (observedAtMs : ℤ) (limit : ℕ) (claimLeaseMs : ℤ)
      (draw : ℕ → Option ClaimId)
  | claimReauth (observedAtMs claimLeaseMs : ℤ) (drawn : Option ClaimId)
  | complete (c : Completion)
  | requeue (accountId : String) (observedAtMs : ℤ)

/-- Whether a method succeeded, and the store after it. -/
def succeeded {ε α : Type} (m : Method GrokAccountPoolStore ε α) (s : GrokAccountPoolStore) :
    Bool × GrokAccountPoolStore :=
  ((m.call s).1.isOk, (m.call s).2)

def Call.run (services : Services) : Call → GrokAccountPoolStore → Bool × GrokAccountPoolStore
  | claimJobs kind observedAtMs limit claimLeaseMs draw =>
    succeeded (claimDueWorkerJobs services kind observedAtMs limit claimLeaseMs draw)
  | claimReauth observedAtMs claimLeaseMs drawn =>
    succeeded (claimDueReauthJob services observedAtMs claimLeaseMs drawn)
  | complete c => c.call services
  | requeue accountId observedAtMs => succeeded (requeueReauth accountId observedAtMs)

/-- One call, labelled with its success. Nothing is assumed of the jobs, the times and the
identifiers of claims. -/
def Step (services : Services) (s : GrokAccountPoolStore) (l : Call × Bool)
    (s' : GrokAccountPoolStore) : Prop :=
  l.1.run services s = (l.2, s')

/-- What a completion that succeeds reports of its account. -/
def reportOf (services : Services) : Completion → Event
  | .failure job true _ => .reported job.kind
  | .reauthSuccess job credential observedAtMs =>
    .restored ((services.validatedExpiry job.provider credential observedAtMs).getD none)
  | _ => .other

def eventOf (services : Services) (accountId : String) : Call × Bool → Event
  | (.complete c, true) => if c.claim.accountId = accountId then reportOf services c else .other
  | _ => .other

def AccountRow.schedule (row : AccountRow) : Schedule :=
  ⟨row.enabled, row.authStatus, row.dueAtMs, row.claim.map (·.kind)⟩

/-- From some time on the account can be claimed for the kind of work. -/
def Scheduled (s : GrokAccountPoolStore) (accountId : String) (kind : GrokAccountWorkerKind) :
    Prop :=
  ∃ row, s.accounts.lookup accountId = some row ∧
    ∃ t₀, ∀ observedAtMs ≥ t₀, AccountWorker.isDue kind observedAtMs row = true

/-- The account can be claimed for the kind of work at no time. -/
def Unscheduled (s : GrokAccountPoolStore) (accountId : String) (kind : GrokAccountWorkerKind) :
    Prop :=
  ∀ row, s.accounts.lookup accountId = some row →
    ∀ observedAtMs, AccountWorker.isDue kind observedAtMs row = false

variable {observedAtMs : ℤ}

section Due

variable {row : AccountRow} {kind : GrokAccountWorkerKind}

theorem isDue_iff : AccountWorker.isDue kind observedAtMs row = true ↔
    row.enabled = true ∧ row.authStatus = .active ∧
      (∃ dueAtMs, row.dueAtMs kind = some dueAtMs ∧ dueAtMs ≤ observedAtMs) ∧
      row.isUnclaimed observedAtMs = true := by
  simp [AccountWorker.isDue, Bool.and_eq_true, decide_eq_true_eq, Option.any_eq_true, and_assoc]

/-- A claim runs out, and so an active account with a due time can be claimed in the end. -/
theorem eventually_isDue (henabled : row.enabled = true) (hactive : row.authStatus = .active)
    (hdue : row.dueAtMs kind ≠ none) :
    ∃ t₀, ∀ observedAtMs ≥ t₀, AccountWorker.isDue kind observedAtMs row = true := by
  obtain ⟨dueAtMs, hdue⟩ := Option.ne_none_iff_exists'.mp hdue
  refine ⟨max dueAtMs ((row.claim.map (·.expiresAtMs)).getD 0), fun t ht => ?_⟩
  refine isDue_iff.mpr ⟨henabled, hactive, ⟨dueAtMs, hdue, le_trans (le_max_left _ _) ht⟩, ?_⟩
  have hclaim := le_trans (le_max_right _ _) ht
  cases hheld : row.claim with
  | none => simp [AccountRow.isUnclaimed, hheld]
  | some claim =>
    simpa [AccountRow.isUnclaimed, hheld] using hclaim

end Due

variable {s s' : GrokAccountPoolStore} {services : Services} {accountId : String} {l : Call × Bool}
  {kind : GrokAccountWorkerKind} {claimLeaseMs : ℤ}

section Steps

variable {row : AccountRow} {ε α : Type}

theorem succeeded_eq {m : Method GrokAccountPoolStore ε α} {b : Bool}
    (h : succeeded m s = (b, s')) :
    (∃ a, m.call s = (.ok a, s')) ∨ ∃ e, m.call s = (.error e, s') := by
  rcases hcall : m.call s with ⟨e | a, t⟩ <;> rw [succeeded, hcall] at h <;> cases (Prod.mk.inj h).2
  · exact .inr ⟨e, rfl⟩
  · exact .inl ⟨a, rfl⟩

/-- The row of an account, after a call that is the event for it. -/
def Moves (s' : GrokAccountPoolStore) (accountId : String) (row : AccountRow) (e : Event) : Prop :=
  ∃ row', s'.accounts.lookup accountId = some row' ∧
    Move (AccountRow.schedule row) e (AccountRow.schedule row')

theorem moves_kept (hlookup : s.accounts.lookup accountId = some row)
    (haccounts : s'.accounts.lookup accountId = s.accounts.lookup accountId) :
    Moves s' accountId row .other :=
  ⟨row, haccounts.trans hlookup, .kept⟩

theorem moves_claimJobs {limit : ℕ} {draw : ℕ → Option ClaimId} {jobs : List GrokAccountWorkerJob}
    (h : (claimDueWorkerJobs services kind observedAtMs limit claimLeaseMs draw).call s =
      (.ok jobs, s')) (hlookup : s.accounts.lookup accountId = some row) :
    Moves s' accountId row .other := by
  simp only [claimDueWorkerJobs, call_ok, call_transaction_ok] at h
  obtain ⟨_, -, _, -, hrows⟩ := h
  have hclaims := claimRows_ok (fun entry hmem => (mem_dueRows hmem).1) nodup_dueRows hrows
  by_cases hmem : accountId ∈ (dueRows s.accounts kind observedAtMs limit).map Prod.fst
  · rw [← hclaims.accountIds, List.mem_map] at hmem
    obtain ⟨job, hjob, rfl⟩ := hmem
    obtain ⟨found, hfound, -, hclaimed⟩ := hclaims.jobs job hjob
    obtain ⟨hsame, hdue⟩ := mem_dueRows hfound
    cases hsame.symm.trans hlookup
    obtain ⟨-, -, ⟨dueAtMs, hset, -⟩, -⟩ := isDue_iff.mp hdue
    refine ⟨_, hclaimed, ?_⟩
    have hnone : (AccountRow.schedule found).due kind ≠ none := by simp [AccountRow.schedule, hset]
    exact .claimed hnone
  · exact moves_kept hlookup (hclaims.others accountId hmem)

/-- The row of an account after a completion that replaces the row of its account. -/
theorem moves_insert {completed : String} {found row' : AccountRow} {e : Event}
    (hlookup : s.accounts.lookup accountId = some row)
    (hfound : s.accounts.lookup completed = some found)
    (haccounts : s'.accounts = s.accounts.insert completed row')
    (hmove : Move (AccountRow.schedule found) e (AccountRow.schedule row')) :
    Moves s' accountId row (if completed = accountId then e else .other) := by
  rw [Moves, haccounts, lookup_insert]
  by_cases heq : completed = accountId
  · subst heq
    cases hfound.symm.trans hlookup
    rw [if_pos rfl, if_pos rfl]
    exact ⟨row', rfl, hmove⟩
  · rw [if_neg heq, if_neg (Ne.symm heq)]
    exact ⟨row, hlookup, .kept⟩

theorem claim_of_owns {job : GrokAccountWorkerJob}
    (h : job.owns kind observedAtMs row = true) : (AccountRow.schedule row).claim = some kind := by
  obtain ⟨-, claim, hclaim, hkind, -⟩ := owns_iff.mp h
  simp [AccountRow.schedule, hclaim, hkind]

theorem Schedule.ext {p q : Schedule} (henabled : p.enabled = q.enabled)
    (hstatus : p.authStatus = q.authStatus) (hrefresh : p.due .refresh = q.due .refresh)
    (hquota : p.due .quota = q.due .quota) (hclaim : p.claim = q.claim) : p = q := by
  have hdue : p.due = q.due := by
    funext kind
    cases kind with
    | refresh => exact hrefresh
    | quota => exact hquota
  cases p
  simp_all

/-- **A completion that succeeds moves the schedule of its account.** -/
theorem moves_complete {c : Completion} (h : c.call services s = (true, s'))
    (hlookup : s.accounts.lookup accountId = some row) :
    Moves s' accountId row (eventOf services accountId (.complete c, true)) := by
  cases c with
  | refresh job credential expiresAtMs observedAtMs =>
    obtain ⟨found, encrypted, dueAtMs, hfound, howns, -, -, rfl⟩ :=
      completeRefreshJob_ok (outcome_true h)
    refine moves_insert hlookup hfound rfl ?_
    change Move _ .other _
    convert Move.completed (claim_of_owns howns) (.inr rfl) using 1
    exact Schedule.ext rfl rfl rfl rfl rfl
  | quota job windows nextDueAtMs observedAtMs =>
    obtain ⟨found, hfound, howns, haccounts, -⟩ := completeQuotaJob_ok (outcome_true h)
    refine moves_insert hlookup hfound haccounts ?_
    change Move _ .other _
    convert Move.completed (claim_of_owns howns) (.inl rfl) using 1
    exact Schedule.ext rfl rfl rfl rfl rfl
  | failure job reauthRequired observedAtMs =>
    obtain ⟨found, dueAtMs, failureCount, hfound, howns, hdue, haccounts, -⟩ :=
      completeWorkerFailure_ok (outcome_true h)
    refine moves_insert hlookup hfound haccounts ?_
    cases reauthRequired with
    | true =>
      obtain rfl : dueAtMs = none := by simpa using hdue
      change Move _ (.reported job.kind) _
      convert Move.reported (claim_of_owns howns) using 1
      cases job.kind <;> exact Schedule.ext rfl rfl rfl rfl rfl
    | false =>
      obtain ⟨due, rfl⟩ := Option.isSome_iff_exists.mp hdue
      change Move _ .other _
      convert Move.completed (claim_of_owns howns) (.inl rfl) using 1
      cases job.kind <;> exact Schedule.ext rfl rfl rfl rfl rfl
  | reauthSuccess job credential observedAtMs =>
    obtain ⟨found, encrypted, dueAtMs, state, hexpiry, hfound, -, hwaits, -, -, rfl⟩ :=
      completeReauthSuccess_ok (outcome_true h)
    refine moves_insert hlookup hfound rfl ?_
    rw [reportOf, hexpiry, Option.getD_some]
    convert @Move.restored (AccountRow.schedule found) dueAtMs hwaits using 1
    exact Schedule.ext rfl rfl rfl rfl rfl
  | reauthFailure job transient observedAtMs =>
    have hevent : eventOf services accountId
        (.complete (.reauthFailure job transient observedAtMs), true) =
        .other := ite_self _
    rw [hevent]
    have hok := outcome_true h
    simp only [completeReauthFailure, call_ok, call_transaction_ok] at hok
    obtain ⟨_, -, _, -, _, -, _, -, _, _, hupdate, rfl, rfl⟩ := hok
    obtain ⟨state, -, -, -, rfl⟩ := call_updateReauth.mp hupdate
    exact moves_kept hlookup rfl

/-- **Every call moves the schedule of every account.** -/
theorem step_moves (h : Step services s l s') (hlookup : s.accounts.lookup accountId = some row) :
    Moves s' accountId row (eventOf services accountId l) := by
  obtain ⟨call, b⟩ := l
  cases call with
  | claimJobs kind observedAtMs limit claimLeaseMs draw =>
    rcases succeeded_eq h with ⟨jobs, hok⟩ | ⟨e, herror⟩
    · exact moves_claimJobs hok hlookup
    · exact moves_kept hlookup (by rw [restores_claims _ _ _ herror])
  | claimReauth observedAtMs claimLeaseMs drawn =>
    rcases succeeded_eq h with ⟨job, hok⟩ | ⟨e, herror⟩
    · refine moves_kept hlookup ?_
      rcases claimDueReauthJob_ok hok with ⟨-, rfl⟩ | ⟨job, row, -, -, -, -, -, -, -, state, rfl⟩
        <;> rfl
    · exact moves_kept hlookup (by rw [restores_reauth _ _ _ herror])
  | complete c =>
    cases b with
    | true => exact moves_complete h hlookup
    | false => exact moves_kept hlookup (by rw [call_false h])
  | requeue requeued observedAtMs =>
    have haccounts : s'.accounts = s.accounts := by
      obtain rfl := congrArg Prod.snd h
      exact keeps_bind (keeps_ensure _ _) (fun _ => keeps_bind keeps_get fun _ =>
        keeps_bind (fun _ => rfl) fun _ => keeps_ensure _ _) s
    exact moves_kept hlookup (by rw [haccounts])

theorem run_moves {trace : List (Call × Bool)} (hrun : Run (Step services) s trace s')
    (hlookup : s.accounts.lookup accountId = some row) :
    ∃ row', s'.accounts.lookup accountId = some row' ∧
      Run Move (AccountRow.schedule row) (trace.map (eventOf services accountId))
        (AccountRow.schedule row') := by
  induction hrun generalizing row with
  | nil s => exact ⟨row, hlookup, .nil _⟩
  | cons h _ ih =>
    obtain ⟨row₁, hlookup₁, hmove⟩ := step_moves h hlookup
    obtain ⟨row₂, hlookup₂, hmoves⟩ := ih hlookup₁
    exact ⟨row₂, hlookup₂, .cons hmove hmoves⟩

/-- An account whose due time was lost can be claimed at no time. -/
theorem unscheduled_of_lost (hlookup : s.accounts.lookup accountId = some row)
    (hlost : Lost (AccountRow.schedule row)) : Unscheduled s accountId .quota := by
  intro found hfound observedAtMs
  cases hfound.symm.trans hlookup
  rw [← Bool.not_eq_true, isDue_iff]
  rintro ⟨-, -, ⟨dueAtMs, hdue, -⟩, -⟩
  exact absurd (hdue.symm.trans hlost.1) (by simp)

end Steps

/-! ### After a reauthentication -/

section Reauthenticated

variable {row : AccountRow} {before after : List (Call × Bool)}

/-- **The schedules of an enabled account after a reauthentication** that committed a credential
with a known expiry, until a worker reports the next refusal. The account is on the schedule of the
refresh. It is on that of the quota exactly when no quota job reported before, and else never again.
-/
theorem schedules_after_reauth (hlookup : s.accounts.lookup accountId = some row)
    (henabled : row.enabled = true) (hquota : row.quotaSyncDueAtMs ≠ none)
    (hrun : Run (Step services) s (before ++ l :: after) s')
    (hrestored : ∃ expiresAtMs, eventOf services accountId l = .restored (some expiresAtMs))
    (hquiet : ∀ l' ∈ after, ∀ kind, eventOf services accountId l' ≠ .reported kind) :
    Scheduled s' accountId .refresh ∧
      (Scheduled s' accountId .quota ↔ ∀ l' ∈ before, eventOf services accountId l' ≠
        .reported .quota) ∧
      ((∃ l' ∈ before, eventOf services accountId l' = .reported .quota) →
        ∀ trace s'', Run (Step services) s' trace s'' → Unscheduled s'' accountId .quota) := by
  obtain ⟨expiresAtMs, hrestored⟩ := hrestored
  obtain ⟨s₁, s₂, hbefore, hstep, hafter⟩ := hrun.at_label
  obtain ⟨row₁, hlookup₁, hmoves₁⟩ := run_moves hbefore hlookup
  obtain ⟨row₂, hlookup₂, hmove⟩ := step_moves hstep hlookup₁
  obtain ⟨row₃, hlookup₃, hmoves₃⟩ := run_moves hafter hlookup₂
  rw [hrestored] at hmove
  have hall : Run Move (AccountRow.schedule row)
      ((before ++ l :: after).map (eventOf services accountId)) (AccountRow.schedule row₃) := by
    rw [List.map_append, List.map_cons, hrestored]
    exact hmoves₁.append (.cons hmove hmoves₃)
  have henabled₃ : row₃.enabled = true :=
    hall.keeps (P := (·.enabled = true)) (fun _ _ _ hp h => h.enabled_eq.trans hp) henabled
  -- the reauthentication itself is no report, and none comes after it
  have hreports : Event.reported .quota ∈ (before ++ l :: after).map (eventOf services accountId) ↔
      ∃ l' ∈ before, eventOf services accountId l' = .reported .quota := by
    rw [List.mem_map]
    constructor
    · rintro ⟨l', hmem, hl'⟩
      rcases List.mem_append.mp hmem with hmem | hmem
      · exact ⟨l', hmem, hl'⟩
      · rcases List.mem_cons.mp hmem with rfl | hmem
        · rw [hrestored] at hl'
          cases hl'
        · exact absurd hl' (hquiet l' hmem _)
    · rintro ⟨l', hmem, hl'⟩
      exact ⟨l', List.mem_append_left _ hmem, hl'⟩
  have hlost := lost_iff hall hquota
  rw [hreports] at hlost
  obtain ⟨hactive, hdue⟩ : row₃.authStatus = .active ∧ row₃.dueAtMs .refresh ≠ none := by
    obtain ⟨hactive₂, hdue₂⟩ := hmove.of_restored
    refine refreshing_run hmoves₃ hactive₂ (by simp [hdue₂]) fun kind hmem => ?_
    obtain ⟨l', hl', heq⟩ := List.mem_map.mp hmem
    exact hquiet l' hl' kind heq
  refine ⟨⟨row₃, hlookup₃, eventually_isDue henabled₃ hactive hdue⟩, ?_, ?_⟩
  · rcases hlost with ⟨hset, hnone⟩ | ⟨hlost, hreported⟩
    · refine iff_of_true ⟨row₃, hlookup₃, eventually_isDue henabled₃ hactive hset⟩ ?_
      intro l' hl' hreported
      exact hnone ⟨l', hl', hreported⟩
    · obtain ⟨l', hl', hquotaJob⟩ := hreported
      refine iff_of_false ?_ fun hnone => hnone l' hl' hquotaJob
      rintro ⟨found, hfound, t₀, hfrom⟩
      have hnever := unscheduled_of_lost hlookup₃ hlost found hfound t₀
      exact absurd (hfrom t₀ le_rfl) (by simp [hnever])
  · intro hreported trace s'' hlater
    obtain ⟨row₄, hlookup₄, hmoves₄⟩ := run_moves hlater hlookup₃
    rcases hlost with ⟨-, hnone⟩ | ⟨hlost, -⟩
    · exact absurd hreported hnone
    · exact unscheduled_of_lost hlookup₄ (hlost.run hmoves₄)

end Reauthenticated

/-! ### Refresh before expiry -/

/-- How long before its expiry a credential is refreshed. -/
def refreshLeadMs (services : Services) (accountId : String) : ℤ :=
  minRefreshJitterMs +
    (services.deterministicU64 accountId.toUTF8.toList % refreshJitterRangeMs : ℕ)

/-- The expiry of the credential that a completion commits. -/
def committedExpiry (services : Services) : Completion → Option ℤ
  | .refresh _ _ expiresAtMs _ => some expiresAtMs
  | .reauthSuccess job credential observedAtMs =>
    (services.validatedExpiry job.provider credential observedAtMs).join
  | _ => none

/-- The account is to be refreshed before the expiry, and not yet. -/
def Proactive (s : GrokAccountPoolStore) (accountId : String) (expiresAtMs observedAtMs : ℤ) :
    Prop :=
  ∃ row dueAtMs, s.accounts.lookup accountId = some row ∧ row.refreshDueAtMs = some dueAtMs ∧
    dueAtMs < expiresAtMs ∧ AccountWorker.isDue .refresh observedAtMs row = false

/-- **When a committed credential is refreshed in time.** That of a worker is, if it lives longer
than the lead (a disabled account is not due at all). That of the reauthentication never is: its
expiry itself is taken for the due time. -/
theorem proactive_iff {services : Services} {s s' : GrokAccountPoolStore} {c : Completion}
    {expiresAtMs : ℤ} (h : c.call services s = (true, s'))
    (hexpiry : committedExpiry services c = some expiresAtMs)
    (hlives : c.observedAtMs < expiresAtMs) :
    Proactive s' c.claim.accountId expiresAtMs c.observedAtMs ↔
      match c with
      | .refresh job _ _ observedAtMs => ∀ row, s.accounts.lookup job.accountId = some row →
          row.enabled = true → observedAtMs + refreshLeadMs services job.accountId < expiresAtMs
      | _ => False := by
  cases c with
  | refresh job credential expires observedAtMs =>
    cases hexpiry
    obtain ⟨row, encrypted, dueAtMs, hlookup, -, hobserved, hdue, rfl⟩ :=
      completeRefreshJob_ok (outcome_true h)
    simp only [deterministicRefreshDueAt, Lib.Fallible.except_ok] at hdue
    obtain ⟨-, -, rfl⟩ := hdue
    change observedAtMs < expiresAtMs at hlives
    simp only [Proactive, claim, Claim.accountId, Completion.observedAtMs, setAccount,
      lookup_insert, hlookup, if_true, Option.some.injEq, exists_and_left, exists_eq_left',
      ← Bool.not_eq_true, isDue_iff, AccountRow.dueAtMs, AccountRow.isUnclaimed, Option.all_none,
      true_and, and_true, forall_eq']
    rw [refreshLeadMs, minRefreshJitterMs]
    constructor
    · rintro ⟨-, hnot⟩ henabled
      have := not_and.mp hnot henabled
      omega
    · intro hlead
      refine ⟨by omega, fun hdue => ?_⟩
      have := hlead hdue.1
      omega
  | reauthSuccess job credential observedAtMs =>
    obtain ⟨row, encrypted, dueAtMs, state, hvalid, -, -, -, -, -, rfl⟩ :=
      completeReauthSuccess_ok (outcome_true h)
    refine iff_false_intro ?_
    rintro ⟨row', due, hlookup, hdue, hbefore, -⟩
    rw [committedExpiry, hvalid] at hexpiry
    cases hexpiry
    cases (AList.lookup_insert _).symm.trans hlookup
    cases hdue
    exact lt_irrefl _ hbefore
  | _ => cases hexpiry

/-! ### An account that a quota job reports -/

section Sample

/-- The account, claimed for one of its schedules. -/
def sampleOwned (kind : GrokAccountWorkerKind) : AccountRow :=
  { sampleRow with claim := some ⟨kind, ⟨7⟩, 1000⟩ }

def sampleStore (kind : GrokAccountWorkerKind) : GrokAccountPoolStore :=
  ⟨AList.singleton "account" (sampleOwned kind), ∅, []⟩

def sampleJob (kind : GrokAccountWorkerKind) : GrokAccountWorkerJob :=
  ⟨"account", .build, kind, ⟨7⟩, 0, List.replicate 32 0, [1]⟩

def sampleReauthJob : GrokReauthJob := ⟨"account", .build, ⟨8⟩, 1002, 0, List.replicate 32 0, [1]⟩

/-- The worker reports, and the reauthentication claims the account and commits a credential. -/
def sampleHistory (kind : GrokAccountWorkerKind) : List (Call × Bool) :=
  [(.complete (.failure (sampleJob kind) true 1), true), (.claimReauth 2 1000 (some ⟨8⟩), true),
    (.complete (.reauthSuccess sampleReauthJob [9] 3), true)]

def sampleReported (kind : GrokAccountWorkerKind) : GrokAccountPoolStore :=
  ((failure (sampleJob kind) true 1).call sampleServices (sampleStore kind)).2

def sampleClaimed (kind : GrokAccountWorkerKind) : GrokAccountPoolStore :=
  setReauth (sampleReported kind) "account" { claim := some ⟨⟨8⟩, 1002⟩ }

def sampleRestored (kind : GrokAccountWorkerKind) : GrokAccountPoolStore :=
  ((reauthSuccess sampleReauthJob [9] 3).call sampleServices (sampleClaimed kind)).2

/-- The account after the report. -/
def sampleWaiting (kind : GrokAccountWorkerKind) : AccountRow :=
  failed kind true none 1 1 (sampleOwned kind)

variable (kind : GrokAccountWorkerKind)

theorem dueRow_sampleReported :
    dueRow (sampleReported kind) 2 = some ("account", sampleWaiting kind, {}) := by
  have hfilter : (joined (sampleReported kind)).filter
      (fun entry => Reauth.isDue 2 entry.2.1 entry.2.2) =
        [("account", sampleWaiting kind, {})] := by
    cases kind <;> rfl
  rw [dueRow, hfilter, List.mergeSort_singleton]
  rfl

theorem call_sampleReauth :
    (claimDueReauthJob sampleServices 2 1000 (some ⟨8⟩)).call (sampleReported kind) =
      (.ok (some sampleReauthJob), sampleClaimed kind) := by
  have hadded : addReauthState (waiting (sampleReported kind)) (sampleReported kind) =
      sampleReported kind := by
    cases kind <;> rfl
  simp only [claimDueReauthJob, call_ok, call_transaction_ok]
  refine ⟨(), rfl, (), rfl, (), ?_⟩
  rw [hadded, dueRow_sampleReported]
  cases kind <;> rfl

theorem run_sampleHistory :
    Run (Step sampleServices) (sampleStore kind) (sampleHistory kind) (sampleRestored kind) := by
  have hreport : Step sampleServices (sampleStore kind)
      (.complete (.failure (sampleJob kind) true 1), true) (sampleReported kind) := by
    cases kind <;> rfl
  have hclaim : Step sampleServices (sampleReported kind) (.claimReauth 2 1000 (some ⟨8⟩), true)
      (sampleClaimed kind) := by
    change succeeded _ _ = _
    rw [succeeded, call_sampleReauth]
    rfl
  have hrestore : Step sampleServices (sampleClaimed kind)
      (.complete (.reauthSuccess sampleReauthJob [9] 3), true) (sampleRestored kind) := by
    cases kind <;> rfl
  exact .cons hreport (.cons hclaim (.cons hrestore (.nil _)))

/-- After a report of a quota job and a reauthentication the account is never synchronised again. -/
theorem quota_never_scheduled_again :
    Run (Step sampleServices) (sampleStore .quota) (sampleHistory .quota) (sampleRestored .quota) ∧
      (sampleStore .quota).accounts.lookup "account" = some (sampleOwned .quota) ∧
      (sampleOwned .quota).enabled = true ∧ (sampleOwned .quota).refreshDueAtMs = some 0 ∧
      (sampleOwned .quota).quotaSyncDueAtMs = some 0 ∧
      (sampleHistory .quota).map (eventOf sampleServices "account") =
        [.reported .quota, .other, .restored (some 5000)] ∧
      ∀ trace s', Run (Step sampleServices) (sampleRestored .quota) trace s' →
        Unscheduled s' "account" .quota := by
  refine ⟨run_sampleHistory .quota, rfl, rfl, rfl, rfl, rfl, ?_⟩
  intro trace s' hlater
  obtain ⟨row, hlookup, hmoves⟩ := @run_moves _ _ _ "account" _ _ hlater rfl
  exact unscheduled_of_lost hlookup (Lost.run ⟨rfl, by decide⟩ hmoves)

/-- After a report of a refresh the account is on both schedules again. -/
theorem schedules_after_reauth_sample :
    Scheduled (sampleRestored .refresh) "account" .refresh ∧
      Scheduled (sampleRestored .refresh) "account" .quota := by
  have hlookup : (sampleStore .refresh).accounts.lookup "account" = some (sampleOwned .refresh) :=
    rfl
  have hrun : Run (Step sampleServices) (sampleStore .refresh)
      ((sampleHistory .refresh).take 2 ++
        (.complete (.reauthSuccess sampleReauthJob [9] 3), true) :: []) (sampleRestored .refresh) :=
    run_sampleHistory .refresh
  have hboth := schedules_after_reauth hlookup rfl (by decide) hrun ⟨5000, rfl⟩ (by simp)
  refine ⟨hboth.1, hboth.2.1.mpr ?_⟩
  simp [sampleHistory, eventOf, reportOf, sampleJob, claim, Claim.accountId]

/-- A refresh at 1 by a worker. -/
def sampleRefresh (expiresAtMs : ℤ) : Completion := .refresh (sampleJob .refresh) [9] expiresAtMs 1

/-- A credential that expires at 5000 is due at 5000 when the reauthentication commits it, and at
once when a worker does. -/
theorem refreshed_late_or_at_once :
    (reauthSuccess sampleReauthJob [9] 3).call sampleServices (sampleClaimed .refresh) =
        (true, sampleRestored .refresh) ∧
      committedExpiry sampleServices (.reauthSuccess sampleReauthJob [9] 3) = some 5000 ∧
      ((sampleRestored .refresh).accounts.lookup "account").map (·.refreshDueAtMs) =
        some (some 5000) ∧
      ((sampleRefresh 5000).call sampleServices (sampleStore .refresh)).1 = true ∧
      (((sampleRefresh 5000).call sampleServices (sampleStore .refresh)).2.accounts.lookup
        "account").map
        (AccountWorker.isDue .refresh 1) = some true :=
  ⟨rfl, rfl, rfl, rfl, rfl⟩

theorem proactive_iff_sample :
    Proactive ((sampleRefresh 1000000).call sampleServices (sampleStore .refresh)).2 "account"
      1000000 1 := by
  have hcall : (sampleRefresh 1000000).call sampleServices (sampleStore .refresh) = (true, _) := rfl
  exact (proactive_iff hcall rfl (by decide)).mpr fun _ _ _ => by decide

end Sample

end CpaGateway.Grok.Schedules
