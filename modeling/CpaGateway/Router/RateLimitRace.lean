import CpaGateway.Router.AttemptDiscipline
import CpaGateway.Router.QuotaHistory

/-! # Two requests that are rate-limited on the same binding

A request that gets a rate-limited response reads the clock, and later records what it has observed
in the quota registry that all requests share. Two requests do this in any order; the clock never
goes back. The registry refuses an observation that is older than the one it has, and a refused
record ends the request with an internal error. -/

namespace CpaGateway.Router.RateLimitRace

open Core.Error Lib Lib.Effect Lib.Sharded Lib.Transition Router.AttemptOrchestrator
open Router.RuntimeHealth (Reading)
open Router.RuntimeQuota Router.Snapshot

/-! ### When the registry accepts an observation -/

section Registry

variable {r r' : RuntimeQuotaRegistry} {target : RuntimeQuotaTarget} {observedAtMs nowMs nowMs' : ℤ}
  {retryAfter : Option Duration} {fallback : Duration}

/-- The entries of the shard of the target that are not dropped to make room. -/
abbrev retained (r : RuntimeQuotaRegistry) (target : RuntimeQuotaTarget) (nowMs : ℤ) :
    Store RuntimeQuotaTarget RuntimeQuotaState :=
  r.states.retain target fun state => !(state.availabilityAt nowMs).isAvailable

/-- There is room for one more target in the shard. -/
def HasRoom (r : RuntimeQuotaRegistry) (target : RuntimeQuotaTarget) (nowMs : ℤ) : Prop :=
  r.states.count target < maxRuntimeQuotaEntriesPerShard ∨
    (retained r target nowMs).count target < maxRuntimeQuotaEntriesPerShard

/-- Nothing speaks against the record of a rate-limited response: the reset can be represented, it
is not older than the stored observation, and there is room for it. -/
structure Acceptable (r : RuntimeQuotaRegistry) (target : RuntimeQuotaTarget)
    (observedAtMs nowMs : ℤ) (retryAfter : Option Duration) (fallback : Duration) : Prop where
  representable : ∃ snapshot, rateLimitedSnapshot target observedAtMs retryAfter fallback =
    .ok snapshot
  notOlder : ∀ state, r.entry target = some state → state.snapshot.observedAtMs ≤ observedAtMs
  room : r.entry target = none → HasRoom r target nowMs

theorem call_ensureInsertCapacity :
    (ensureInsertCapacity target nowMs).call r =
      if r.states.count target < maxRuntimeQuotaEntriesPerShard then (.ok (), r)
      else (if (retained r target nowMs).count target < maxRuntimeQuotaEntriesPerShard then .ok ()
        else .error .shardCapacityExceeded, { r with states := retained r target nowMs }) := by
  rw [ensureInsertCapacity, Method.onPart, call_of, call_reserve]
  by_cases hroom : r.states.count target < maxRuntimeQuotaEntriesPerShard
  · rw [if_pos hroom, if_pos hroom]
    rfl
  · split_ifs <;> rfl

/-- The registry after a record that was refused: what had to make room may be gone. -/
def Refused (r : RuntimeQuotaRegistry) (target : RuntimeQuotaTarget) (nowMs : ℤ)
    (r' : RuntimeQuotaRegistry) : Prop :=
  r' = r ∨ r.entry target = none ∧ r' = { r with states := retained r target nowMs }

theorem call_recordSnapshot (snapshot : QuotaSnapshot) :
    (recordSnapshot snapshot (.ok nowMs)).call r =
      match r.entry snapshot.target with
      | some previous =>
        if previous.snapshot.observedAtMs ≤ snapshot.observedAtMs then
          (.ok snapshot, { r with states := r.states.insert snapshot.target ⟨snapshot, none⟩ })
        else (.error .observationTimeRegressed, r)
      | none =>
        match (ensureInsertCapacity snapshot.target nowMs).call r with
        | (.ok (), r') =>
          (.ok snapshot, { r' with states := r'.states.insert snapshot.target ⟨snapshot, none⟩ })
        | (.error e, r') => (.error e, r') := by
  have hclock : (RuntimeQuota.nowMs (.ok nowMs)).call r = (.ok nowMs, r) := rfl
  simp only [recordSnapshot, call_eq, hclock]
  cases r.entry snapshot.target with
  | some previous =>
    simp only [call_eq, decide_eq_true_eq]
    split_ifs <;> rfl
  | none =>
    simp only [call_bind]
    rcases (ensureInsertCapacity snapshot.target nowMs).call r with ⟨_ | _, r'⟩ <;> rfl

theorem record_cases (r : RuntimeQuotaRegistry) (target : RuntimeQuotaTarget)
    (observedAtMs nowMs : ℤ) (retryAfter : Option Duration) (fallback : Duration) :
    (Acceptable r target observedAtMs nowMs retryAfter fallback ∧ ∃ snapshot r',
      (recordRateLimited target observedAtMs retryAfter fallback (.ok nowMs)).call r =
        (.ok snapshot, r') ∧
      rateLimitedSnapshot target observedAtMs retryAfter fallback = .ok snapshot ∧
      r'.entry target = some ⟨snapshot, none⟩) ∨
    (¬ Acceptable r target observedAtMs nowMs retryAfter fallback ∧ ∃ e r',
      (recordRateLimited target observedAtMs retryAfter fallback (.ok nowMs)).call r =
        (.error e, r') ∧ Refused r target nowMs r') := by
  rw [recordRateLimited, call_bind, call_lift]
  cases hsnapshot : rateLimitedSnapshot target observedAtMs retryAfter fallback with
  | error e =>
    refine .inr ⟨fun h => ?_, e, r, rfl, .inl rfl⟩
    obtain ⟨_, hok⟩ := h.representable
    rw [hsnapshot] at hok
    cases hok
  | ok snapshot =>
    obtain ⟨htarget, hobserved, -⟩ := of_rateLimitedSnapshot hsnapshot
    subst htarget hobserved
    simp only [call_recordSnapshot, call_ensureInsertCapacity]
    cases hentry : r.entry snapshot.target with
    | some previous =>
      simp only
      split_ifs with holder
      · refine .inl ⟨⟨⟨snapshot, hsnapshot⟩, ?_, ?_⟩, snapshot, _, rfl, rfl, ?_⟩
        · rintro _ h
          cases hentry.symm.trans h
          exact holder
        · intro h
          cases hentry.symm.trans h
        · rw [QuotaHistory.entry_insert, if_pos rfl]
      · exact .inr ⟨fun h => holder (h.notOlder previous hentry), _, r, rfl, .inl rfl⟩
    | none =>
      have hnotOlder : ∀ state, r.entry snapshot.target = some state →
          state.snapshot.observedAtMs ≤ snapshot.observedAtMs := by
        intro state h
        cases hentry.symm.trans h
      simp only
      split_ifs with hroom hafter
      · refine .inl
          ⟨⟨⟨snapshot, hsnapshot⟩, hnotOlder, fun _ => .inl hroom⟩, snapshot, _, rfl, rfl, ?_⟩
        rw [QuotaHistory.entry_insert, if_pos rfl]
      · refine .inl
          ⟨⟨⟨snapshot, hsnapshot⟩, hnotOlder, fun _ => .inr hafter⟩, snapshot, _, rfl, rfl, ?_⟩
        rw [QuotaHistory.entry_insert, if_pos rfl]
      · exact .inr ⟨fun h => (h.room hentry).elim hroom hafter, _, _, rfl, .inr ⟨hentry, rfl⟩⟩

theorem Acceptable.of_refused (h : Acceptable r target observedAtMs nowMs retryAfter fallback)
    (hrefused : Refused r target nowMs' r') :
    Acceptable r' target observedAtMs nowMs retryAfter fallback := by
  obtain rfl | ⟨hnone, rfl⟩ := hrefused
  · exact h
  · have hentry : RuntimeQuotaRegistry.entry { r with states := retained r target nowMs' } target =
        none := by
      change (retained r target nowMs').get? target = none
      rw [Store.get?_retain, if_pos rfl, ← RuntimeQuotaRegistry.entry, hnone]
      rfl
    refine ⟨h.representable, fun state hstate => ?_, fun _ => ?_⟩
    · cases hentry.symm.trans hstate
    · rcases h.room hnone with hroom | hroom
      · exact .inl (lt_of_le_of_lt (Store.count_retain_le ..) hroom)
      · exact .inr (lt_of_le_of_lt (Store.count_retain_retain_le ..) hroom)

end Registry

/-! ### The two requests -/

/-- A request whose driver has got a rate-limited response. -/
structure Racer where
  request : Request
  start : Start
  retryAfter : Option Duration

/-- The two requests; their Attempts use the same binding. -/
structure Contest where
  racer : Bool → Racer
  same : quotaTarget (racer false).start.selection = quotaTarget (racer true).start.selection

variable {snapshot : RouteSnapshot}

/-- A gate that lets the request go on, and a clock with the given readings. -/
def openGate : Environment snapshot (List ℤ) Unit where
  isCancelled readings := (false, readings)
  allowsTransparentRetry readings := (true, readings)
  nowMs
    | [] => (.error .unavailable, [])
    | reading :: readings => (.ok reading, readings)
  startTimeout remaining readings := (remaining, readings)
  race _ _ _ readings := (.cancelled, readings)
  interfere shared readings := (shared, readings)

theorem fail_eq {request : Request} {start : Start} (failure : AttemptFailure)
    (h : failure.isRetryable = true) (call : Call snapshot (List ℤ)) :
    ((fail openGate request start failure).call call).1 =
        ((recordRuntimeState openGate request start.selection failure).call call).1.map
          (fun _ => (.retry failure.safeError : Turn Unit)) ∧
      ((fail openGate request start failure).call call).2.shared =
        ((recordRuntimeState openGate request start.selection failure).call call).2.shared := by
  cases failure with
  | cancelled | nonRetryable => cases h
  | _ =>
    simp only [fail, call_bind, outcomeOf, call_of]
    rcases (recordRuntimeState openGate request start.selection _).call call with ⟨_ | _, call'⟩
    · simp only [failWith, emitAttempt]
      cases request.requestId <;> exact ⟨rfl, rfl⟩
    · simp only [retryOrFail, emitAttempt]
      cases request.requestId <;> exact ⟨rfl, rfl⟩

/-- How the Attempt of a racer ends that has read the clock at `observedAtMs` and records its
observation at `nowMs`. -/
def settle (racer : Racer) (observedAtMs nowMs : ℤ) (shared : Shared snapshot) :
    Except GatewayError (Turn Unit) × Shared snapshot :=
  let outcome := (fail openGate racer.request racer.start (.rateLimited racer.retryAfter)).call
    ⟨[observedAtMs, nowMs], shared, []⟩
  (outcome.1, outcome.2.shared)

/-- The request goes on with another binding, and with what is left of its budget. -/
def GoesOn (turn : Except GatewayError (Turn Unit)) : Prop :=
  turn = .ok (.retry providerRateLimitedError)

/-- Nothing speaks against the record of the racer. -/
def Racer.Acceptable (racer : Racer) (observedAtMs nowMs : ℤ) (shared : Shared snapshot) : Prop :=
  RateLimitRace.Acceptable shared.quota (quotaTarget racer.start.selection) observedAtMs nowMs
    racer.retryAfter racer.request.config.rateLimitFallbackCooldown

section Settle

variable (racer : Racer) (observedAtMs nowMs : ℤ) (shared : Shared snapshot)

def Racer.record : Operation QuotaSnapshot :=
  recordRateLimited (quotaTarget racer.start.selection) observedAtMs racer.retryAfter
    racer.request.config.rateLimitFallbackCooldown (.ok nowMs)

theorem call_recordRuntimeState :
    (recordRuntimeState openGate racer.request racer.start.selection
      (.rateLimited racer.retryAfter)).call ⟨[observedAtMs, nowMs], shared, []⟩ =
      ((((racer.record observedAtMs nowMs).call shared.quota).1.map fun _ => ()).mapError
          fun _ => internalError,
        ⟨[], { shared with quota := ((racer.record observedAtMs nowMs).call shared.quota).2 },
          []⟩) := by
  have hclock : (AttemptOrchestrator.nowMs openGate).call ⟨[observedAtMs, nowMs], shared, []⟩ =
    (.ok observedAtMs, ⟨[nowMs], shared, []⟩) := rfl
  have hquota :
    (onQuota openGate (recordRateLimited (quotaTarget racer.start.selection) observedAtMs
    racer.retryAfter racer.request.config.rateLimitFallbackCooldown)).call ⟨[nowMs], shared, []⟩ =
    (((racer.record observedAtMs nowMs).call shared.quota).1.mapError fun _ => internalError,
      ⟨[], { shared with quota := ((racer.record observedAtMs nowMs).call shared.quota).2 }, []⟩) :=
      rfl
  simp only [recordRuntimeState, call_bind, hclock, hquota]
  rcases (racer.record observedAtMs nowMs).call shared.quota with ⟨_ | _, quota⟩ <;> rfl

theorem settle_eq :
    settle racer observedAtMs nowMs shared =
      (match ((racer.record observedAtMs nowMs).call shared.quota).1 with
        | .ok _ => .ok (.retry providerRateLimitedError)
        | .error _ => .error internalError,
        { shared with quota := ((racer.record observedAtMs nowMs).call shared.quota).2 }) := by
  obtain ⟨hturn, hshared⟩ := fail_eq (.rateLimited racer.retryAfter) rfl
    ⟨[observedAtMs, nowMs], shared, []⟩
  rw [settle, hturn, hshared, call_recordRuntimeState]
  rcases (racer.record observedAtMs nowMs).call shared.quota with ⟨_ | _, quota⟩ <;> rfl

/-- The target is recorded as exhausted by an observation at the time. -/
def ExhaustedAt (quota : RuntimeQuotaRegistry) (target : RuntimeQuotaTarget) (observedAtMs : ℤ) :
    Prop :=
  ∃ recorded : QuotaSnapshot, quota.entry target = some ⟨recorded, none⟩ ∧
    recorded.observedAtMs = observedAtMs ∧ recorded.isExhausted

theorem settle_cases :
    (racer.Acceptable observedAtMs nowMs shared ∧
      GoesOn (settle racer observedAtMs nowMs shared).1 ∧
      ExhaustedAt (settle racer observedAtMs nowMs shared).2.quota
      (quotaTarget racer.start.selection)
        observedAtMs) ∨
    (¬ racer.Acceptable observedAtMs nowMs shared ∧
      (settle racer observedAtMs nowMs shared).1 = .error internalError ∧
      Refused shared.quota (quotaTarget racer.start.selection) nowMs
        (settle racer observedAtMs nowMs shared).2.quota) := by
  rw [settle_eq]
  obtain ⟨hacceptable, recorded, quota, hcall, hsnapshot, hentry⟩ | ⟨hnot, e, quota, hcall,
    hrefused⟩ :=
    record_cases shared.quota (quotaTarget racer.start.selection) observedAtMs nowMs
      racer.retryAfter
      racer.request.config.rateLimitFallbackCooldown
  · have hrecord : (racer.record observedAtMs nowMs).call shared.quota = (.ok recorded, quota) :=
      hcall
    obtain ⟨-, hobserved, hexhausted⟩ := of_rateLimitedSnapshot hsnapshot
    rw [hrecord]
    exact .inl ⟨hacceptable, rfl, recorded, hentry, hobserved, hexhausted⟩
  · have hrecord : (racer.record observedAtMs nowMs).call shared.quota = (.error e, quota) := hcall
    rw [hrecord]
    exact .inr ⟨hnot, rfl, hrefused⟩

theorem goesOn_iff :
    GoesOn (settle racer observedAtMs nowMs shared).1 ↔
      racer.Acceptable observedAtMs nowMs shared := by
  obtain ⟨hacceptable, hgoes, -⟩ | ⟨hnot, hfails, -⟩ := settle_cases racer observedAtMs nowMs shared
  · exact ⟨fun _ => hacceptable, fun _ => hgoes⟩
  · rw [hfails]
    exact ⟨fun h => (by cases h), fun h => absurd h hnot⟩

end Settle

/-! ### Interleavings -/

/-- Where a request is. -/
inductive Phase
  | responded
  | observed (observedAtMs : ℤ)
  | settled (observedAtMs nowMs : ℤ) (turn : Except GatewayError (Turn Unit))

structure State (snapshot : RouteSnapshot) where
  shared : Shared snapshot
  clock : ℤ
  phase : Bool → Phase
  /-- The times of the observations, in the order of their records. -/
  recorded : List ℤ

/-- Both requests have got their responses. -/
def initial (shared : Shared snapshot) (clock : ℤ) : State snapshot where
  shared := shared
  clock := clock
  phase _ := .responded
  recorded := []

inductive Label
  | reads (i : Bool) (observedAtMs : ℤ)
  | records (i : Bool) (nowMs : ℤ)

/-- A request reads the clock, which does not go back, or records what it has observed. -/
inductive Step (contest : Contest) : State snapshot → Label → State snapshot → Prop
  | reads {s i t} (h : s.phase i = .responded) (hclock : s.clock ≤ t) :
      Step contest s (.reads i t)
        { s with clock := t, phase := Function.update s.phase i (.observed t) }
  | records {s i t now} (h : s.phase i = .observed t) (hclock : s.clock ≤ now) :
      Step contest s (.records i now)
        { shared := (settle (contest.racer i) t now s.shared).2
          clock := now
          phase := Function.update s.phase i
            (.settled t now (settle (contest.racer i) t now s.shared).1)
          recorded := s.recorded ++ [t] }

/-- The request is not settled. -/
def Pending (phase : Phase) : Prop := ∀ t now turn, phase ≠ .settled t now turn

/-- How far the two requests can have come. -/
inductive Progress (contest : Contest) (shared : Shared snapshot) : State snapshot → Prop
  | none {s} (hphase : ∀ i, Pending (s.phase i)) (hshared : s.shared = shared)
      (hrecorded : s.recorded = []) : Progress contest shared s
  | one {s} (i : Bool) {t now : ℤ}
      (hfirst : s.phase i = .settled t now (settle (contest.racer i) t now shared).1)
      (hpending : Pending (s.phase !i))
        (hshared : s.shared = (settle (contest.racer i) t now shared).2)
      (hrecorded : s.recorded = [t]) : Progress contest shared s
  | both {s} (i : Bool) {t now t' now' : ℤ}
      (hfirst : s.phase i = .settled t now (settle (contest.racer i) t now shared).1)
      (hsecond : s.phase (!i) = .settled t' now' (settle (contest.racer !i) t' now'
        (settle (contest.racer i) t now shared).2).1)
      (hshared : s.shared = (settle (contest.racer !i) t' now'
        (settle (contest.racer i) t now shared).2).2)
      (hrecorded : s.recorded = [t, t']) : Progress contest shared s

variable {shared : Shared snapshot} {contest : Contest}

section Progress

variable {s s' : State snapshot} {l : Label}

theorem pending_of_responded {phase : Phase} (h : phase = .responded) : Pending phase := by
  rintro t now turn rfl
  cases h

theorem pending_of_observed {phase : Phase} {t : ℤ} (h : phase = .observed t) : Pending phase := by
  rintro t now turn rfl
  cases h

theorem progress_step (hs : Progress contest shared s) (h : Step contest s l s') :
    Progress contest shared s' := by
  cases h with
  | @reads i t h _ =>
    have hpending := pending_of_responded h
    cases hs with
    | none hphase hshared hrecorded =>
      refine .none (fun j => ?_) hshared hrecorded
      by_cases hj : j = i
      · exact pending_of_observed (by rw [hj]; exact Function.update_self ..)
      · simpa only [Function.update_of_ne hj] using hphase j
    | one j hfirst hother hshared hrecorded =>
      obtain rfl | rfl := Bool.eq_or_eq_not i j
      · exact absurd hfirst (hpending _ _ _)
      · refine .one j ?_ (pending_of_observed (Function.update_self ..)) hshared hrecorded
        exact (Function.update_of_ne (Bool.self_ne_not j) ..).trans hfirst
    | both j hfirst hsecond hshared hrecorded =>
      obtain rfl | rfl := Bool.eq_or_eq_not i j
      · exact absurd hfirst (hpending _ _ _)
      · exact absurd hsecond (hpending _ _ _)
  | @records i t now h _ =>
    have hpending := pending_of_observed h
    cases hs with
    | none hphase hshared hrecorded =>
      refine .one i ?_ ?_ (by rw [hshared]) (by rw [hrecorded]; rfl)
      · rw [← hshared]
        exact Function.update_self ..
      · simpa only [Function.update_of_ne (Bool.not_ne_self i)] using hphase !i
    | one j hfirst hother hshared hrecorded =>
      obtain rfl | rfl := Bool.eq_or_eq_not i j
      · exact absurd hfirst (hpending _ _ _)
      · refine .both j ?_ ?_ (by rw [hshared]) (by rw [hrecorded]; rfl)
        · exact (Function.update_of_ne (Bool.self_ne_not j) ..).trans hfirst
        · rw [← hshared]
          exact Function.update_self ..
    | both j hfirst hsecond hshared hrecorded =>
      obtain rfl | rfl := Bool.eq_or_eq_not i j
      · exact absurd hfirst (hpending _ _ _)
      · exact absurd hsecond (hpending _ _ _)

end Progress

/-! ### What one request does to the other -/

theorem Contest.target_eq (contest : Contest) (i j : Bool) :
    quotaTarget (contest.racer i).start.selection =
      quotaTarget (contest.racer j).start.selection := by
  cases i <;> cases j
  · rfl
  · exact contest.same
  · exact contest.same.symm
  · rfl

def Exhausted (quota : RuntimeQuotaRegistry) (target : RuntimeQuotaTarget) : Prop :=
  ∃ state, quota.entry target = some state ∧ state.snapshot.isExhausted

/-- Every request that could have gone on alone goes on, and where one goes on the binding ends up
exhausted. -/
structure Undisturbed (contest : Contest) (shared : Shared snapshot) (s : State snapshot) :
    Prop where
  goesOn : ∀ i t now turn, s.phase i = .settled t now turn →
    (contest.racer i).Acceptable t now shared → GoesOn turn
  exhausted : ∀ i t now turn, s.phase i = .settled t now turn → GoesOn turn →
    Exhausted s.shared.quota (quotaTarget (contest.racer i).start.selection)

section Second

variable {i : Bool} {t now t' now' : ℤ}

theorem second_goesOn_iff (hfirst : (contest.racer i).Acceptable t now shared)
    (hsecond : (contest.racer !i).Acceptable t' now' shared) :
    GoesOn (settle (contest.racer !i) t' now' (settle (contest.racer i) t now shared).2).1 ↔
      t ≤ t' := by
  obtain ⟨-, -, recorded, hentry, rfl, -⟩ | ⟨hnot, -⟩ := settle_cases (contest.racer i) t now shared
  · rw [contest.target_eq i !i] at hentry
    rw [goesOn_iff]
    -- after an accepted record only an observation from before it is refused
    refine ⟨fun h => h.notOlder _ hentry, fun hle => ⟨hsecond.representable, ?_, ?_⟩⟩
    · intro state hstate
      cases hentry.symm.trans hstate
      exact hle
    · intro hnone
      cases hentry.symm.trans hnone
  · exact absurd hfirst hnot

theorem second_goesOn_of_refused (hfirst : ¬ (contest.racer i).Acceptable t now shared)
    (hsecond : (contest.racer !i).Acceptable t' now' shared) :
    GoesOn (settle (contest.racer !i) t' now' (settle (contest.racer i) t now shared).2).1 := by
  obtain ⟨hacceptable, -⟩ | ⟨-, -, hrefused⟩ := settle_cases (contest.racer i) t now shared
  · exact absurd hacceptable hfirst
  · rw [contest.target_eq i !i] at hrefused
    rw [goesOn_iff]
    exact Acceptable.of_refused hsecond hrefused

theorem exhausted_of_goesOn (racer : Racer) (shared : Shared snapshot)
    (h : GoesOn (settle racer t now shared).1) :
    Exhausted (settle racer t now shared).2.quota (quotaTarget racer.start.selection) := by
  obtain ⟨-, -, recorded, hentry, -, hexhausted⟩ | ⟨hnot, -⟩ := settle_cases racer t now shared
  · exact ⟨_, hentry, hexhausted⟩
  · exact absurd ((goesOn_iff ..).mp h) hnot

theorem exhausted_settle (racer : Racer)
    (h : Exhausted shared.quota (quotaTarget racer.start.selection)) :
    Exhausted (settle racer t now shared).2.quota (quotaTarget racer.start.selection) := by
  obtain ⟨-, hgoes, -⟩ | ⟨-, -, hrefused⟩ := settle_cases racer t now shared
  · exact exhausted_of_goesOn racer shared hgoes
  · obtain hsame | ⟨hnone, -⟩ := hrefused
    · rwa [hsame]
    · obtain ⟨state, hentry, -⟩ := h
      cases hnone.symm.trans hentry

end Second

/-- **Two rate-limited requests.** In every interleaving, the requests leave each other undisturbed
if and only if their records come in the order of their observations, unless one of the records
would be refused anyway. -/
theorem undisturbed_iff (contest : Contest) (shared : Shared snapshot) {clock : ℤ} {tr : List Label}
    {s : State snapshot} (hrun : Run (Step contest) (initial shared clock) tr s)
    (hdone : ∀ i, ∃ t now turn, s.phase i = .settled t now turn) :
    Undisturbed contest shared s ↔
      ((∀ i t now turn, s.phase i = .settled t now turn →
        (contest.racer i).Acceptable t now shared) →
        s.recorded.Pairwise (· ≤ ·)) := by
  cases hrun.keeps (fun _ _ _ => progress_step) (.none (fun _ _ _ _ => nofun) rfl rfl) with
  | none hphase =>
    obtain ⟨t, now, turn, h⟩ := hdone true
    exact absurd h (hphase true t now turn)
  | one i _ hpending =>
    obtain ⟨t, now, turn, h⟩ := hdone !i
    exact absurd h (hpending t now turn)
  | @both i t now t' now' hfirst hsecond hshared hrecorded =>
    rw [hrecorded, List.pairwise_pair]
    constructor
    · intro hundisturbed hacceptable
      have hfirst' := hacceptable i _ _ _ hfirst
      have hsecond' := hacceptable _ _ _ _ hsecond
      exact (second_goesOn_iff hfirst' hsecond').mp (hundisturbed.goesOn _ _ _ _ hsecond hsecond')
    · intro horder
      refine ⟨fun j u v turn h hacceptable => ?_, fun j u v turn h hgoes => ?_⟩
      · obtain rfl | rfl := Bool.eq_or_eq_not j i
        · cases hfirst.symm.trans h
          exact (goesOn_iff ..).mpr hacceptable
        · cases hsecond.symm.trans h
          by_cases hother : (contest.racer i).Acceptable t now shared
          · refine (second_goesOn_iff hother hacceptable).mpr (horder fun k u v turn hk => ?_)
            obtain rfl | rfl := Bool.eq_or_eq_not k i
            · cases hfirst.symm.trans hk
              exact hother
            · cases hsecond.symm.trans hk
              exact hacceptable
          · exact second_goesOn_of_refused hother hacceptable
      · rw [hshared]
        obtain rfl | rfl := Bool.eq_or_eq_not j i
        · cases hfirst.symm.trans h
          have hexhausted := exhausted_of_goesOn _ _ hgoes
          rw [contest.target_eq j !j] at hexhausted ⊢
          exact exhausted_settle _ hexhausted
        · cases hsecond.symm.trans h
          exact exhausted_of_goesOn _ _ hgoes

/-! ### Two schedules -/

/-- The requests read the clock at 1 and at 2, and the records are made at 3 and at 4. -/
def schedule (first : Bool) : List Label :=
  [.reads false 1, .reads true 2, .records first 3, .records (!first) 4]

/-- What a request of the schedules has observed. -/
def observation (i : Bool) : ℤ := if i then 2 else 1

/-- The end of a schedule. -/
def afterSchedule (contest : Contest) (shared : Shared snapshot) (first : Bool) : State snapshot :=
  let one := settle (contest.racer first) (observation first) 3 shared
  let two := settle (contest.racer !first) (observation !first) 4 one.2
  { shared := two.2
    clock := 4
    phase := Function.update (Function.update (fun i => .observed (observation i)) first
      (.settled (observation first) 3 one.1)) (!first) (.settled (observation !first) 4 two.1)
    recorded := [observation first, observation !first] }

theorem run_schedule (contest : Contest) (shared : Shared snapshot) (first : Bool) :
    Run (Step contest) (initial shared 0) (schedule first)
      (afterSchedule contest shared first) := by
  have hread : Function.update (Function.update (fun _ => Phase.responded) false (.observed 1)) true
      (.observed 2) = fun i => .observed (observation i) := by
    funext i
    cases i <;> rfl
  refine .cons (.reads rfl (show (0 : ℤ) ≤ 1 by decide)) ?_
  refine .cons (.reads rfl (show (1 : ℤ) ≤ 2 by decide)) ?_
  simp only [initial, hread]
  refine .cons (.records rfl (show (2 : ℤ) ≤ 3 by decide)) ?_
  refine .cons (.records (t := observation !first) ?_ (show (3 : ℤ) ≤ 4 by decide)) (.nil _)
  exact Function.update_of_ne (Bool.not_ne_self first) ..

/-- The binding of the sample requests. -/
def sampleRacer : Racer where
  request := AttemptDiscipline.sampleRequest
  start := ⟨1, 0, ⟨CredentialScheduler.sampleCandidate (.lit "a"), ⟨.lit "1", "key", 0⟩⟩⟩
  retryAfter := none

def sampleContest : Contest := ⟨fun _ => sampleRacer, rfl⟩

open AttemptDiscipline (sampleShared)

theorem acceptable_sample (i : Bool) (nowMs : ℤ) :
    (sampleContest.racer i).Acceptable (observation i) nowMs sampleShared := by
  refine ⟨exists_rateLimitedSnapshot.mpr ?_, fun state h => (by cases h), fun _ =>
    .inl (Nat.zero_lt_succ _)⟩
  cases i <;> decide +kernel

/-- Records in the order of the observations leave both requests undisturbed. -/
theorem undisturbed_sample : Run (Step sampleContest) (initial sampleShared 0) (schedule false)
      (afterSchedule sampleContest sampleShared false) ∧
    Undisturbed sampleContest sampleShared (afterSchedule sampleContest sampleShared false) := by
  have hrun := run_schedule sampleContest sampleShared false
  refine ⟨hrun, (undisturbed_iff sampleContest sampleShared hrun fun i => ?_).mpr fun _ => ?_⟩
  · cases i <;> exact ⟨_, _, _, rfl⟩
  · exact List.pairwise_pair.mpr (by decide)

/-- The request that read the clock first and records second ends with an internal error, although
its record is acceptable alone. -/
theorem internal_error_of_other_record :
    Run (Step sampleContest) (initial sampleShared 0) (schedule true)
      (afterSchedule sampleContest sampleShared true) ∧
    (sampleContest.racer false).Acceptable 1 4 sampleShared ∧
    (afterSchedule sampleContest sampleShared true).phase false =
      .settled 1 4 (.error internalError) := by
  refine ⟨run_schedule _ _ true, acceptable_sample false 4, ?_⟩
  have hnot : ¬ GoesOn (settle (sampleContest.racer !true) 1 4
      (settle (sampleContest.racer true) 2 3 sampleShared).2).1 := fun hgoes =>
    absurd ((second_goesOn_iff (acceptable_sample true 3) (acceptable_sample false 4)).mp hgoes)
      (by decide)
  obtain ⟨-, hgoes, -⟩ | ⟨-, herror, -⟩ := settle_cases (sampleContest.racer !true) 1 4
    (settle (sampleContest.racer true) 2 3 sampleShared).2
  · exact absurd hgoes hnot
  · exact congrArg (Phase.settled 1 4) herror

end CpaGateway.Router.RateLimitRace
