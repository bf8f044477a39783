import CpaGateway.Lib.Tickets
import CpaGateway.Router.RuntimeQuota

/-! # Histories of the runtime quota registry

A target that was recorded as exhausted stays blocked until fresh evidence is accepted: a newer
snapshot, or the snapshot with which the current recovery ticket is completed. As for the health
registry, `Change` says what a call does to one target, and everything is derived from it. -/

namespace CpaGateway.Router.QuotaHistory

open Router.RuntimeHealth (Reading)
open Router.RuntimeQuota Lib Lib.Effect
open Lib.Sharded (Store get?_reserve count_of_reserve_ok eq_of_reserve_error)
open Lib.Temporal Lib.Tickets Lib.Transition RuntimeQuotaRegistry

/-! ### Calls -/

inductive Request
  | recordSnapshot (snapshot : QuotaSnapshot)
  | recordRateLimited (target : RuntimeQuotaTarget) (observedAtMs : ℤ)
    (retryAfter : Option Duration)
      (fallback : Duration)
  | beginRecoveryProbe (target : RuntimeQuotaTarget) (expiresAtMs : ℤ)
  | completeRecoveryProbe (probe : RuntimeQuotaRecoveryProbe) (snapshot : QuotaSnapshot)

/-- A request, and what the clock says when it is made. -/
structure Call where
  clock : Reading
  request : Request

inductive Reply
  | snapshot (snapshot : QuotaSnapshot)
  | probe (probe : Option RuntimeQuotaRecoveryProbe)

def perform (call : Call) : Operation Reply :=
  match call.request with
  | .recordSnapshot snapshot => do
    return .snapshot (← recordSnapshot snapshot call.clock)
  | .recordRateLimited target observedAtMs retryAfter fallback => do
    return .snapshot (← recordRateLimited target observedAtMs retryAfter fallback call.clock)
  | .beginRecoveryProbe target expiresAtMs => do
    return .probe (← beginRecoveryProbe target expiresAtMs call.clock)
  | .completeRecoveryProbe probe snapshot => do
    return .snapshot (← completeRecoveryProbe probe snapshot call.clock)

/-- A call and its outcome. -/
abbrev Label := Call × Except RuntimeQuotaError Reply

/-- The registry as a machine. -/
def respond (r : RuntimeQuotaRegistry) (call : Call) :
    Except RuntimeQuotaError Reply × RuntimeQuotaRegistry :=
  (perform call).call r

/-- One call. -/
abbrev Step : RuntimeQuotaRegistry → Label → RuntimeQuotaRegistry → Prop := Answers respond

/-! ### What a label says -/

@[simp] def RecordsSnapshot (snapshot : QuotaSnapshot) : Label → Prop
  | (⟨_, .recordSnapshot _⟩, .ok (.snapshot recorded)) => recorded = snapshot
  | _ => False

@[simp] def RecordsRateLimited (snapshot : QuotaSnapshot) : Label → Prop
  | (⟨_, .recordRateLimited ..⟩, .ok (.snapshot recorded)) => recorded = snapshot
  | _ => False

/-- The ticket was issued. -/
@[simp] def Issues (probe : RuntimeQuotaRecoveryProbe) : Label → Prop
  | (⟨_, .beginRecoveryProbe ..⟩, .ok (.probe (some issued))) => issued = probe
  | _ => False

/-- The ticket was accepted with the snapshot. -/
@[simp] def Completes (probe : RuntimeQuotaRecoveryProbe) (snapshot : QuotaSnapshot) : Label → Prop
  | (⟨_, .completeRecoveryProbe presented _⟩, .ok (.snapshot recorded)) =>
    presented = probe ∧ recorded = snapshot
  | _ => False

/-- A new snapshot, a new ticket or the end of the ticket: what ends a recovery of the target. -/
@[simp] def Disturbs (target : RuntimeQuotaTarget) (l : Label) : Prop :=
  (∃ snapshot, snapshot.target = target ∧
    (RecordsSnapshot snapshot l ∨ RecordsRateLimited snapshot l)) ∨
    (∃ probe, probe.target = target ∧ Issues probe l) ∨
    ∃ probe snapshot, probe.target = target ∧ Completes probe snapshot l

/-! ### The changes of a target -/

variable {r r' : RuntimeQuotaRegistry} {l : Label} {target : RuntimeQuotaTarget}

/-- The snapshot is not older than the stored one. -/
def NotOlder (snapshot : QuotaSnapshot) (s : Option RuntimeQuotaState) : Prop :=
  ∀ state, s = some state → state.snapshot.observedAtMs ≤ snapshot.observedAtMs

/-- The ways in which a call changes the state of a target. -/
inductive Change (target : RuntimeQuotaTarget) (l : Label) :
    Option RuntimeQuotaState → Option RuntimeQuotaState → Prop
  | rests {s} (hquiet : ¬ Disturbs target l) : Change target l s s
  | dropped {state : RuntimeQuotaState} (hfree : state.snapshot.isExhausted = false) :
      Change target l (some state) none
  | recorded {s} {snapshot : QuotaSnapshot}
      (h : RecordsSnapshot snapshot l ∨ RecordsRateLimited snapshot l)
      (htarget : snapshot.target = target) (hnotOlder : NotOlder snapshot s) :
      Change target l s (some ⟨snapshot, none⟩)
  | probing {state : RuntimeQuotaState} {probe : RuntimeQuotaRecoveryProbe} (h : Issues probe l)
      (htarget : probe.target = target) :
      Change target l (some state)
        (some { state with recoveryProbe := some ⟨probe.probeId, probe.expiresAtMs⟩ })
  | completed {state : RuntimeQuotaState} {probe : RuntimeQuotaRecoveryProbe}
      {snapshot : QuotaSnapshot} (h : Completes probe snapshot l)
        (htarget : probe.target = target) :
      Change target l (some state) (some ⟨snapshot, none⟩)

/-- Nothing happens to a target, but that it may be dropped if it is not exhausted. -/
def Spared (s s' : Option RuntimeQuotaState) : Prop :=
  s' = s ∨ ∃ state, s = some state ∧ state.snapshot.isExhausted = false ∧ s' = none

theorem spared_refl (s : Option RuntimeQuotaState) : Spared s s := .inl rfl

theorem change_of_spared {s s' : Option RuntimeQuotaState} (h : Spared s s')
    (hquiet : ¬ Disturbs target l) : Change target l s s' := by
  obtain rfl | ⟨state, rfl, hfree, rfl⟩ := h
  · exact .rests hquiet
  · exact .dropped hfree

/-! ### How the operations end -/

/-- The bound on the shards, which every operation keeps. -/
def Bounded (r : RuntimeQuotaRegistry) : Prop :=
  Sharded.Bounded maxRuntimeQuotaEntriesPerShard r.states

/-- A failed call: targets may have been dropped, but not from a bounded registry. -/
structure Failed (r r' : RuntimeQuotaRegistry) : Prop where
  spared : ∀ target, Spared (r.entry target) (r'.entry target)
  next : r'.nextRecoveryProbeId = r.nextRecoveryProbeId
  unchanged : Bounded r → r' = r

theorem Failed.refl (r : RuntimeQuotaRegistry) : Failed r r :=
  ⟨fun _ => spared_refl _, rfl, fun _ => rfl⟩

structure Stored (snapshot : QuotaSnapshot) (r r' : RuntimeQuotaRegistry) : Prop where
  target : r'.entry snapshot.target = some ⟨snapshot, none⟩
  spared : ∀ target ≠ snapshot.target, Spared (r.entry target) (r'.entry target)
  next : r'.nextRecoveryProbeId = r.nextRecoveryProbeId
  bounded : Bounded r → Bounded r'

variable {state : RuntimeQuotaState}

theorem isExhausted_of_available {now : ℤ}
    (h : (state.availabilityAt now).isAvailable = true) : state.snapshot.isExhausted = false := by
  rw [← QuotaSnapshot.blockingResetAtMs_eq_none]
  rw [RuntimeQuotaAvailability.isAvailable, decide_eq_true_iff] at h
  unfold RuntimeQuotaState.availabilityAt at h
  rcases hreset : state.snapshot.blockingResetAtMs with _ | reset
  · rfl
  · rw [hreset] at h
    rcases hprobe : state.recoveryProbe with _ | probe <;> simp only [hprobe] at h <;>
      split_ifs at h

theorem ends_ensureInsertCapacity (now : ℤ) :
    Ends (ensureInsertCapacity target now) r fun o r' =>
      (∀ target', Spared (r.entry target') (r'.entry target')) ∧
        r'.nextRecoveryProbeId = r.nextRecoveryProbeId ∧ (Bounded r → Bounded r') ∧
        match o with
        | .ok _ => r'.states.count target < maxRuntimeQuotaEntriesPerShard
        | .error _ => Bounded r → r' = r := by
  unfold Ends
  rw [ensureInsertCapacity, Method.onPart, call_of]
  rcases hcall : (Sharded.reserve maxRuntimeQuotaEntriesPerShard
    (fun state : RuntimeQuotaState => !(state.availabilityAt now).isAvailable)
    RuntimeQuotaError.shardCapacityExceeded target).call r.states with ⟨o, states⟩
  refine ⟨fun target' => ?_, rfl, fun hr => Sharded.Bounded.reserve hr hcall, ?_⟩
  · rcases get?_reserve hcall target' with hsame | ⟨state, hstate, hkeep, hnone⟩
    · exact .inl hsame
    · exact .inr ⟨state, hstate, isExhausted_of_available (by simpa using hkeep), hnone⟩
  · rcases o with e | _
    · exact fun hr => by rw [eq_of_reserve_error hr hcall]
    · exact count_of_reserve_ok hcall

theorem entry_insert {target' : RuntimeQuotaTarget} :
    entry { r with states := r.states.insert target state } target' =
      if target' = target then some state else r.entry target' := Store.get?_insert ..

theorem ends_recordSnapshot (snapshot : QuotaSnapshot) (clock : Reading) :
    Ends (recordSnapshot snapshot clock) r fun o r' =>
      match o with
      | .ok recorded => recorded = snapshot ∧ NotOlder snapshot (r.entry snapshot.target) ∧
          Stored snapshot r r'
      | .error _ => Failed r r' := by
  refine ends_mapError_bind (fun now _ => ends_get_bind ?_) fun _ => .refl r
  rcases hentry : r.entry snapshot.target with _ | previous
  · refine ends_bind (ends_ensureInsertCapacity now) ?_ ?_
    · rintro _ r₁ ⟨hspared, hnext, hbounded, hroom⟩
      refine ends_modify_bind (ends_pure ⟨rfl, fun state h => ?_, ?_, ?_, hnext, ?_⟩)
      · cases h
      · rw [entry_insert, if_pos rfl]
      · intro target' hne
        rw [entry_insert, if_neg hne]
        exact hspared target'
      · exact fun hr => (hbounded hr).insert hroom
    · rintro e r₁ ⟨hspared, hnext, -, hsame⟩
      exact ⟨hspared, hnext, hsame⟩
  · refine ends_ensure_bind
      (fun hnotOlder => ends_modify_bind (ends_pure ⟨rfl, ?_, ?_, ?_, rfl, ?_⟩))
      fun _ => .refl r
    · intro state h
      cases h
      exact of_decide_eq_true hnotOlder
    · rw [entry_insert, if_pos rfl]
    · intro target' hne
      rw [entry_insert, if_neg hne]
      exact spared_refl _
    · exact fun hr => hr.overwrite hentry

theorem ends_recordRateLimited (observedAtMs : ℤ) (retryAfter : Option Duration)
    (fallback : Duration) (clock : Reading) :
    Ends (recordRateLimited target observedAtMs retryAfter fallback clock) r fun o r' =>
      match o with
      | .ok snapshot => rateLimitedSnapshot target observedAtMs retryAfter fallback = .ok snapshot ∧
          NotOlder snapshot (r.entry snapshot.target) ∧ Stored snapshot r r'
      | .error _ => Failed r r' := by
  refine ends_lift_bind (fun snapshot hsnapshot => ?_) fun _ _ => .refl r
  refine (ends_recordSnapshot snapshot clock).mono fun o r' h => ?_
  rcases o with e | recorded
  · exact h
  · obtain ⟨rfl, h⟩ := h
    exact ⟨hsnapshot, h⟩

/-- A ticket was issued: it took the next number, and its target waits for it. -/
structure Issued (probe : RuntimeQuotaRecoveryProbe) (r r' : RuntimeQuotaRegistry) : Prop where
  target : ∃ state, r.entry probe.target = some state ∧
    r'.entry probe.target =
      some { state with recoveryProbe := some ⟨probe.probeId, probe.expiresAtMs⟩ }
  others : ∀ target ≠ probe.target, r'.entry target = r.entry target
  number : probe.probeId = r.nextRecoveryProbeId
  next : r'.nextRecoveryProbeId = r.nextRecoveryProbeId + 1
  bounded : Bounded r → Bounded r'

theorem ends_beginRecoveryProbe (expiresAtMs : ℤ) (clock : Reading) :
    Ends (beginRecoveryProbe target expiresAtMs clock) r fun o r' =>
      match o with
      | .ok (some probe) => Issued probe r r'
      | _ => r' = r := by
  refine ends_mapError_bind (fun now _ => ?_) fun _ => rfl
  refine ends_ensure_bind (fun _ => ends_get_bind ?_) fun _ => rfl
  rcases hentry : r.entry target with _ | state
  · exact ends_pure rfl
  simp only
  split_ifs with hdue
  swap
  · exact ends_pure rfl
  refine ends_bind (R := fun o r' => match o with
    | .ok probeId => probeId = r.nextRecoveryProbeId ∧
        r' = { r with nextRecoveryProbeId := probeId + 1 }
    | .error _ => r' = r) ?_ ?_ fun _ _ h => h
  · exact ends_get_bind (ends_ensure_bind (fun _ => ends_modify_bind (ends_pure ⟨rfl, rfl⟩))
      fun _ => rfl)
  · rintro probeId r₁ ⟨rfl, rfl⟩
    refine ends_modify_bind (ends_pure ⟨⟨state, hentry, ?_⟩, fun target' hne => ?_, rfl, rfl, ?_⟩)
    · exact entry_insert.trans (if_pos rfl)
    · exact entry_insert.trans (if_neg hne)
    · exact fun hr => Sharded.Bounded.overwrite hr hentry

structure Accepted (probe : RuntimeQuotaRecoveryProbe) (snapshot : QuotaSnapshot) (clock : Reading)
    (r r' : RuntimeQuotaRegistry) : Prop where
  sameTarget : probe.target = snapshot.target
  current : ∃ state, r.entry probe.target = some state ∧
    state.recoveryProbe = some ⟨probe.probeId, probe.expiresAtMs⟩ ∧
    state.snapshot.observedAtMs ≤ snapshot.observedAtMs
  unexpired : ∃ now, clock = .ok now ∧ now < probe.expiresAtMs
  stored : Stored snapshot r r'

theorem ends_completeRecoveryProbe (probe : RuntimeQuotaRecoveryProbe) (snapshot : QuotaSnapshot)
    (clock : Reading) :
    Ends (completeRecoveryProbe probe snapshot clock) r fun o r' =>
      match o with
      | .ok recorded => recorded = snapshot ∧ Accepted probe snapshot clock r r'
      | .error _ => r' = r := by
  refine ends_ensure_bind (fun htarget => ?_) fun _ => rfl
  refine ends_mapError_bind (fun now hclock => ends_get_bind ?_) fun _ => rfl
  refine ends_okOr_bind (fun state hstate => ?_) fun _ => rfl
  refine ends_okOr_bind (fun current hcurrent => ?_) fun _ => rfl
  refine ends_ensure_bind (fun hvalid => ends_modify_bind (ends_pure ⟨rfl, ?_⟩)) fun _ => rfl
  have htarget : probe.target = snapshot.target := of_decide_eq_true htarget
  obtain ⟨⟨⟨hid, hexpires⟩, hnow⟩, hnotOlder⟩ : ((current.probeId = probe.probeId ∧
      current.expiresAtMs = probe.expiresAtMs) ∧ now < current.expiresAtMs) ∧
      state.snapshot.observedAtMs ≤ snapshot.observedAtMs := by simpa using hvalid
  refine ⟨htarget, ⟨state, hstate, ?_, hnotOlder⟩, ⟨now, hclock, hexpires ▸ hnow⟩, ?_, ?_, rfl, ?_⟩
  · rw [hcurrent, ← hid, ← hexpires]
  · rw [entry_insert, if_pos htarget.symm]
  · intro target' hne
    rw [entry_insert, if_neg (htarget ▸ hne)]
    exact spared_refl _
  · exact fun hr => hr.overwrite hstate

/-! ### What a step does -/

/-- What a call with this outcome did to the registry. -/
def Did (l : Label) (r r' : RuntimeQuotaRegistry) : Prop :=
  match l with
  | (⟨_, .recordSnapshot snapshot⟩, .ok (.snapshot recorded)) =>
    recorded = snapshot ∧ NotOlder snapshot (r.entry snapshot.target) ∧ Stored snapshot r r'
  | (⟨_, .recordRateLimited target observedAtMs retryAfter fallback⟩, .ok (.snapshot snapshot)) =>
    rateLimitedSnapshot target observedAtMs retryAfter fallback = .ok snapshot ∧
      NotOlder snapshot (r.entry snapshot.target) ∧ Stored snapshot r r'
  | (⟨_, .beginRecoveryProbe ..⟩, .ok (.probe (some probe))) => Issued probe r r'
  | (⟨_, .beginRecoveryProbe ..⟩, .ok (.probe none)) => r' = r
  | (⟨clock, .completeRecoveryProbe probe snapshot⟩, .ok (.snapshot recorded)) =>
    recorded = snapshot ∧ Accepted probe snapshot clock r r'
  | (_, .error _) => Failed r r'
  -- no other reply is given
  | _ => False

theorem did_of_step (h : Step r l r') : Did l r r' := by
  obtain ⟨⟨clock, request⟩, o⟩ := l
  have hends : Ends (perform ⟨clock, request⟩) r fun o r' => Did (⟨clock, request⟩, o) r r' := by
    cases request with
    | recordSnapshot snapshot =>
      refine ends_map ((ends_recordSnapshot snapshot clock).mono fun o r' h => ?_)
      rcases o with _ | _ <;> exact h
    | recordRateLimited target observedAtMs retryAfter fallback =>
      refine ends_map ((ends_recordRateLimited observedAtMs retryAfter fallback clock).mono
        fun o r' h => ?_)
      rcases o with _ | _ <;> exact h
    | beginRecoveryProbe target expiresAtMs =>
      refine ends_map ((ends_beginRecoveryProbe expiresAtMs clock).mono fun o r' h => ?_)
      rcases o with _ | _ | _
      · exact h ▸ .refl r
      · exact h
      · exact h
    | completeRecoveryProbe probe snapshot =>
      refine ends_map ((ends_completeRecoveryProbe probe snapshot clock).mono fun o r' h => ?_)
      rcases o with _ | _
      · exact h ▸ .refl r
      · exact h
  have heq : (perform ⟨clock, request⟩).call r = (o, r') := h
  rw [Ends, heq] at hends
  exact hends

theorem bounded_of_step (h : Step r l r') (hr : Bounded r) : Bounded r' := by
  have hdid := did_of_step h
  unfold Did at hdid
  split at hdid
  · exact hdid.2.2.bounded hr
  · exact hdid.2.2.bounded hr
  · exact hdid.bounded hr
  · exact hdid ▸ hr
  · exact hdid.2.stored.bounded hr
  · exact (hdid.unchanged hr).symm ▸ hr
  · exact hdid.elim

variable {snapshot : QuotaSnapshot}

theorem change_of_stored (h : Stored snapshot r r')
    (hself : snapshot.target = target → Change target l (r.entry target) (some ⟨snapshot, none⟩))
    (hquiet : snapshot.target ≠ target → ¬ Disturbs target l) :
    Change target l (r.entry target) (r'.entry target) := by
  by_cases heq : snapshot.target = target
  · have hstored := h.target
    rw [heq] at hstored
    rw [hstored]
    exact hself heq
  · exact change_of_spared (h.spared target (Ne.symm heq)) (hquiet heq)

theorem change_of_step (h : Step r l r') (target : RuntimeQuotaTarget) :
    Change target l (r.entry target) (r'.entry target) := by
  have hdid := did_of_step h
  unfold Did at hdid
  split at hdid
  · obtain ⟨rfl, hnotOlder, hstored⟩ := hdid
    refine change_of_stored hstored (fun heq => .recorded (.inl rfl) heq (heq ▸ hnotOlder)) ?_
    simp
  · obtain ⟨-, hnotOlder, hstored⟩ := hdid
    refine change_of_stored hstored (fun heq => .recorded (.inr rfl) heq (heq ▸ hnotOlder)) ?_
    simp
  · rename_i probe
    by_cases heq : probe.target = target
    · obtain ⟨state, hstate, hstate'⟩ := hdid.target
      rw [heq] at hstate hstate'
      rw [hstate, hstate']
      exact .probing rfl heq
    · rw [hdid.others target (Ne.symm heq)]
      exact .rests (by simpa using heq)
  · rw [hdid]
    exact .rests (by simp)
  · obtain ⟨rfl, haccepted⟩ := hdid
    obtain ⟨state, hstate, -⟩ := haccepted.current
    refine change_of_stored haccepted.stored (fun heq => ?_) ?_
    · rw [← heq, ← haccepted.sameTarget, hstate]
      exact .completed ⟨rfl, rfl⟩ rfl
    · simp [haccepted.sameTarget]
  · refine change_of_spared (hdid.spared target) ?_
    simp
  · exact hdid.elim

/-! ### Tickets -/

variable {probe : RuntimeQuotaRecoveryProbe}

theorem accepted_of_completes (h : Step r l r') (hl : Completes probe snapshot l) :
    Accepted probe snapshot l.1.clock r r' := by
  have hdid := did_of_step h
  unfold Completes at hl
  split at hl
  · obtain ⟨rfl, rfl⟩ := hl
    obtain ⟨rfl, haccepted⟩ := hdid
    exact haccepted
  · exact hl.elim

/-- The target waits for the ticket. -/
def Holds (r : RuntimeQuotaRegistry) (probe : RuntimeQuotaRecoveryProbe) : Prop :=
  ∃ state, r.entry probe.target = some state ∧
    state.recoveryProbe = some ⟨probe.probeId, probe.expiresAtMs⟩

theorem holds_of_change {s s' : Option RuntimeQuotaState} (h : Change probe.target l s s')
    (hs' : ∃ state, s' = some state ∧
      state.recoveryProbe = some ⟨probe.probeId, probe.expiresAtMs⟩) :
    Issues probe l ∨ (∃ state, s = some state ∧
      state.recoveryProbe = some ⟨probe.probeId, probe.expiresAtMs⟩) ∧
      ¬ Disturbs probe.target l := by
  obtain ⟨state', hs', hprobe⟩ := hs'
  cases h with
  | rests hquiet => exact .inr ⟨⟨state', hs', hprobe⟩, hquiet⟩
  | @probing state issued hissues htarget =>
    obtain ⟨target, probeId, expires⟩ := issued
    cases hs'
    cases hprobe
    cases htarget
    exact .inl hissues
  | dropped => cases hs'
  | recorded | completed =>
    cases hs'
    cases hprobe

theorem number_of_issues (h : Step r l r') (hl : Issues probe l) :
    probe.probeId = r.nextRecoveryProbeId ∧ r.nextRecoveryProbeId < r'.nextRecoveryProbeId := by
  have hdid := did_of_step h
  unfold Issues at hl
  split at hl
  · subst hl
    have hissued : Issued _ r r' := hdid
    exact ⟨hissued.number, by rw [hissued.next]; omega⟩
  · exact hl.elim

theorem next_le (h : Step r l r') : r.nextRecoveryProbeId ≤ r'.nextRecoveryProbeId := by
  have hdid := did_of_step h
  unfold Did at hdid
  split at hdid
  · exact hdid.2.2.next.ge
  · exact hdid.2.2.next.ge
  · rw [hdid.next]
    omega
  · rw [hdid]
  · exact hdid.2.stored.next.ge
  · exact hdid.next.ge
  · exact hdid.elim

/-- Controlled recoveries. -/
def recoveries : Ticketing Step RuntimeQuotaRecoveryProbe RuntimeQuotaTarget where
  slot := RuntimeQuotaRecoveryProbe.target
  number := RuntimeQuotaRecoveryProbe.probeId
  issues := Issues
  accepts probe l := ∃ snapshot, Completes probe snapshot l
  disturbs := Disturbs
  holds := Holds
  next := nextRecoveryProbeId
  held_of_accepts h := fun ⟨_, hl⟩ => by
    obtain ⟨state, hstate, hprobe, -⟩ := (accepted_of_completes h hl).current
    exact ⟨state, hstate, hprobe⟩
  disturbs_of_issues h := .inr (.inl ⟨_, rfl, h⟩)
  disturbs_of_accepts := fun ⟨snapshot, h⟩ => .inr (.inr ⟨_, snapshot, rfl, h⟩)
  of_holds h := holds_of_change (change_of_step h _)
  number_of_issues := number_of_issues
  next_le := next_le

/-! ### Exhausted targets -/

/-- The target is blocked by an exhausted window. -/
def Blocked (s : Option RuntimeQuotaState) : Prop :=
  ∃ state, s = some state ∧ state.snapshot.isExhausted = true

theorem isExhausted_of_records (h : Step r l r')
    (hl : RecordsRateLimited snapshot l) : snapshot.isExhausted = true := by
  have hdid := did_of_step h
  unfold RecordsRateLimited at hl
  split at hl
  · subst hl
    exact (of_rateLimitedSnapshot hdid.1).2.2
  · exact hl.elim

theorem blocked_of_records (h : Step r l r')
    (hl : RecordsSnapshot snapshot l ∨ RecordsRateLimited snapshot l)
    (hexhausted : snapshot.isExhausted = true) : Blocked (r'.entry snapshot.target) := by
  have hdid := did_of_step h
  have hstored : Stored snapshot r r' := by
    rcases hl with hl | hl
    · unfold RecordsSnapshot at hl
      split at hl
      · subst hl
        obtain ⟨rfl, -, hstored⟩ := hdid
        exact hstored
      · exact hl.elim
    · unfold RecordsRateLimited at hl
      split at hl
      · subst hl
        exact hdid.2.2
      · exact hl.elim
  exact ⟨_, hstored.target, hexhausted⟩

/-- How a target that was exhausted after the history `a` became available in the course of `b`. -/
inductive Released (s₀ : RuntimeQuotaRegistry) (target : RuntimeQuotaTarget) (a b : List Label) :
    Prop
  /-- `recordSnapshot` accepted a snapshot that is not exhausted and not older than the stored one.
  -/
  | recorded {b₁ b₂ : List Label} {l : Label} {s : RuntimeQuotaRegistry} {snapshot : QuotaSnapshot}
      (hb : b = b₁ ++ l :: b₂) (hrun : Run Step s₀ (a ++ b₁) s) (h : RecordsSnapshot snapshot l)
      (htarget : snapshot.target = target) (hfree : snapshot.isExhausted = false)
      (hnotOlder : NotOlder snapshot (s.entry target))
  /-- The current ticket was accepted before it expired, with a snapshot that is not exhausted. -/
  | completed {b₁ b₂ : List Label} {l : Label} {probe : RuntimeQuotaRecoveryProbe}
      {snapshot : QuotaSnapshot} (hb : b = b₁ ++ l :: b₂) (h : Completes probe snapshot l)
      (htarget : probe.target = target) (hfree : snapshot.isExhausted = false)
      (hclock : ∃ now, l.1.clock = .ok now ∧ now < probe.expiresAtMs)
      (hcurrent : Since (Issues probe) (fun l => ¬ Disturbs target l) (a ++ b₁))

section Histories

variable {hash : RuntimeQuotaTarget → ℕ} {shardCount : ℕ} {tr : List Label}

theorem fresh_recoveries : recoveries.Fresh (withShards hash shardCount) :=
  fun _ ⟨_, h, _⟩ => by cases h

theorem Released.snoc {s₀ : RuntimeQuotaRegistry} {a b : List Label}
    (h : Released s₀ target a b) (l : Label) : Released s₀ target a (b ++ [l]) := by
  cases h with
  | recorded hb hrun h htarget hfree hnotOlder =>
    exact .recorded (by rw [hb]; simp; rfl) hrun h htarget hfree hnotOlder
  | completed hb h htarget hfree hclock hcurrent =>
    exact .completed (by rw [hb]; simp; rfl) h htarget hfree hclock hcurrent

theorem blocked_step {s : RuntimeQuotaRegistry} {a b : List Label}
    (hrun : Run Step (withShards hash shardCount) (a ++ b) r)
    (hr : Blocked (r.entry target) ∨ Released (withShards hash shardCount) target a b)
    (hstep : Step r l s) :
    Blocked (s.entry target) ∨ Released (withShards hash shardCount) target a (b ++ [l]) := by
  rcases hr with ⟨state, hstate, hexhausted⟩ | hreleased
  swap
  · exact .inr (hreleased.snoc l)
  have hchange := change_of_step hstep target
  rw [hstate] at hchange
  generalize hs : s.entry target = s' at hchange ⊢
  cases hchange with
  | rests => exact .inl ⟨state, rfl, hexhausted⟩
  | dropped hfree => exact absurd hexhausted (by simp [hfree])
  | probing => exact .inl ⟨_, rfl, hexhausted⟩
  | @recorded _ snapshot hrecords htarget hnotOlder =>
    rcases hsnapshot : snapshot.isExhausted with _ | _
    · rcases hrecords with hrecords | hrecords
      · exact .inr (.recorded rfl hrun hrecords htarget hsnapshot (hstate ▸ hnotOlder))
      · exact absurd (isExhausted_of_records hstep hrecords) (by simp [hsnapshot])
    · exact .inl ⟨_, rfl, hsnapshot⟩
  | @completed _ probe snapshot hcompletes htarget =>
    have haccepted := accepted_of_completes hstep hcompletes
    obtain ⟨current, hcurrent, hprobe, -⟩ := haccepted.current
    rcases hsnapshot : snapshot.isExhausted with _ | _
    · have hsince := recoveries.issued_since fresh_recoveries hrun ⟨current, hcurrent, hprobe⟩
      exact .inr
        (.completed rfl hcompletes htarget hsnapshot haccepted.unexpired (htarget ▸ hsince))
    · exact .inl ⟨_, rfl, hsnapshot⟩

theorem not_available_of_blocked {now : ℤ} (h : Blocked (r.entry target)) :
    r.availabilityAt target now ≠ .available := by
  obtain ⟨state, hstate, hexhausted⟩ := h
  intro havailable
  rw [availabilityAt, hstate] at havailable
  have hfree : state.snapshot.isExhausted = false :=
    isExhausted_of_available (decide_eq_true havailable)
  simp [hexhausted] at hfree

theorem eq_of_error {call : Call} {e : RuntimeQuotaError}
    (hrun : Run Step (withShards hash shardCount) tr r) (h : respond r call = (.error e, r')) :
    r' = r := by
  have hbounded := hrun.keeps (fun _ _ _ hs hstep => bounded_of_step hstep hs)
    (fun _ => Nat.zero_le _)
  have hdid : Did (call, .error e) r r' := did_of_step h
  have hfailed : Failed r r' := by
    obtain ⟨clock, request⟩ := call
    cases request <;> exact hdid
  exact hfailed.unchanged hbounded

/-- **Exhausted targets.** A target that was recorded exhausted is available later only if it was
released by fresh evidence, and a failing call changes nothing. -/
theorem exhausted_until_released (hrun : Run Step (withShards hash shardCount) tr r) :
    (∀ a l b snapshot now, tr = a ++ l :: b →
      RecordsSnapshot snapshot l ∨ RecordsRateLimited snapshot l → snapshot.isExhausted = true →
      r.availabilityAt snapshot.target now = .available →
      Released (withShards hash shardCount) snapshot.target (a ++ [l]) b) ∧
    ∀ call e r', respond r call = (.error e, r') → r' = r := by
  refine ⟨?_, fun call e r' h => eq_of_error hrun h⟩
  rintro a l b snapshot now rfl hrecords hexhausted havailable
  obtain ⟨s, s', hbefore, hstep, hafter⟩ := hrun.at_label
  have hinv := hafter.invariant (I := fun b r => Blocked (r.entry snapshot.target) ∨
      Released (withShards hash shardCount) snapshot.target (a ++ [l]) b)
    (.inl (blocked_of_records hstep hrecords hexhausted))
    fun hr hblocked hstep' => blocked_step ((hbefore.snoc hstep).append hr) hblocked hstep'
  rcases hinv with hblocked | hreleased
  · exact absurd havailable (not_available_of_blocked hblocked)
  · exact hreleased

def sampleTarget : RuntimeQuotaTarget :=
  .endpointCredential (.lit "e") (.lit "c")

/-- A snapshot without windows, taken at 5. -/
def sampleFree : QuotaSnapshot :=
  ⟨sampleTarget, [], .header, .observed, 5, by decide, rfl, by decide⟩

/-- A response is rate limited at 0, for a millisecond; a snapshot taken at 5 has nothing to say
against the target. -/
def sampleCalls : List Call :=
  [⟨.ok 0, .recordRateLimited sampleTarget 0 none ⟨10 ^ 6⟩⟩, ⟨.ok 5, .recordSnapshot sampleFree⟩]

theorem exhausted_until_released_sample :
    ∃ snapshot, Released (withShards (fun _ => 0) 64) sampleTarget
      [(⟨.ok 0, .recordRateLimited sampleTarget 0 none ⟨10 ^ 6⟩⟩, .ok (.snapshot snapshot))]
      [(⟨.ok 5, .recordSnapshot sampleFree⟩, .ok (.snapshot sampleFree))] :=
  ⟨_, (exhausted_until_released (run_play respond sampleCalls (withShards (fun _ => 0) 64))).1
    [] _ _ _ 6 rfl (.inr rfl) (by decide) (by decide)⟩

/-- **Recovery tickets.** After any calls, with any readings of the clock, a recovery can be
completed only with a ticket that was issued, that was not completed before, and since whose issue
its target got neither another ticket nor a snapshot. No shard is over its capacity. -/
theorem recovery_tickets (hash : RuntimeQuotaTarget → ℕ) (shardCount : ℕ) (calls : List Call) :
    let (tr, r) := play respond (withShards hash shardCount) calls
    Bounded r ∧ ∀ l r' probe snapshot, Step r l r' → Completes probe snapshot l →
      (∃ before issue since, tr = before ++ issue :: since ∧ Issues probe issue ∧
        ∀ l' ∈ since, ¬ Disturbs probe.target l') ∧
      ∀ l' ∈ tr, ∀ other, ¬ Completes probe other l' := by
  have hrun := run_play respond calls (withShards hash shardCount)
  refine ⟨hrun.keeps (fun _ _ _ hs h => bounded_of_step h hs) fun _ => Nat.zero_le _, ?_⟩
  intro l r' probe snapshot hstep hcompletes
  have hheld := recoveries.held_of_accepts hstep ⟨snapshot, hcompletes⟩
  refine ⟨recoveries.issued_since fresh_recoveries hrun hheld, fun l' hl' other hother => ?_⟩
  exact recoveries.not_holds_of_accepted fresh_recoveries hrun ⟨l', hl', other, hother⟩ hheld

theorem recovery_tickets_sample :
    let calls := sampleCalls.take 1 ++ [⟨.ok 5, .beginRecoveryProbe sampleTarget 10⟩]
    ∃ before issue since, (play respond (withShards (fun _ => 0) 64) calls).1 = before ++
      issue :: since ∧
      Issues ⟨sampleTarget, 1, 10⟩ issue ∧ ∀ l ∈ since, ¬ Disturbs sampleTarget l := by
  intro calls
  exact ((recovery_tickets (fun _ => 0) 64 calls).2
    (⟨.ok 6, .completeRecoveryProbe ⟨sampleTarget, 1, 10⟩
    sampleFree⟩, .ok (.snapshot sampleFree)) _ _ _ rfl ⟨rfl, rfl⟩).1

end Histories

end CpaGateway.Router.QuotaHistory
