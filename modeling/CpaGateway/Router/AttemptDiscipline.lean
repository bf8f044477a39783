import CpaGateway.Lib.Logged
import CpaGateway.Router.AttemptOrchestrator

/-! # What a call of the orchestrator may do

Whatever the environment answers, the trace of a call is one of the traces that `Turns` describes:
turns that start the driver with a binding not tried before, report the outcome and drop the lease,
up to one that ends the call. What the gate, the budget, the events and the leases have to do with
each other is read off these traces. -/

namespace CpaGateway.Router.AttemptDiscipline

open Core.Error Core.GatewayEvent Core.Identity Lib.Effect Lib.Fallible Lib.Logged
open Upstream.CredentialPool Router.AttemptOrchestrator Router.CredentialScheduler
open Router.RouteScheduler Router.Schedule Router.Snapshot
open Router.RuntimeQuota (Duration RuntimeQuotaRecoveryProbe)

variable {snapshot : RouteSnapshot} {ω Output α : Type} {env : Environment snapshot ω Output}
  {request : Request}

/-! ### Traces -/

def binding (selection : SelectedRouteCredential) : RouteCandidateId × CredentialId :=
  (selection.candidate.id, selection.lease.credentialId)

/-- A question to the gate. -/
def IsQuestion : Action → Prop
  | .askedCancelled _ | .askedRetry _ => True
  | .acquired _ | .released _ | .started _ | .emitted _ => False

/-- The event is about the invocation of the driver. -/
structure IsEventOf (requestId : RequestId) (start : Start) (event : AttemptEvent) : Prop where
  request : event.requestId = requestId
  number : event.attemptNumber = start.attemptNumber
  binding : (event.routeCandidateId, event.credentialId) = binding start.selection
  time : event.startedAtMs = start.startedAtMs

/-- The report of an invocation: one event, where the request has an identity. -/
def Reports (requestId : Option RequestId) (start : Start) (report : List Action) : Prop :=
  match requestId with
  | none => report = []
  | some requestId => ∃ event, report = [.emitted event] ∧ IsEventOf requestId start event

/-- What follows an invocation of the driver. -/
inductive Settled (requestId : Option RequestId) (start : Start) :
    Except GatewayError (Turn Output) → List Action → Prop
  | succeeded {output report} (h : Reports requestId start report) :
      Settled requestId start (.ok (.succeeded output)) (.askedCancelled false :: report)
  | retry {failure report} (h : Reports requestId start report) :
      Settled requestId start (.ok (.retry failure))
        (.askedCancelled false :: .askedRetry true :: report)
  | failed {error questions report} (hquestions : ∀ action ∈ questions, IsQuestion action)
      (h : Reports requestId start report) :
      Settled requestId start (.error error) (questions ++ report)

/-- The invocation is within the limit and the deadline, and its binding was not tried before. -/
structure Admitted (limit : ℕ) (deadlineMs : ℤ) (tried : List (RouteCandidateId × CredentialId))
    (start : Start) : Prop where
  number : start.attemptNumber = tried.length + 1
  limited : tried.length < limit
  inTime : start.startedAtMs < deadlineMs
  fresh : binding start.selection ∉ tried

/-- What a turn shows that ends the call without an invocation. -/
inductive Idle : List Action → Prop
  | refused (answer : Bool) : Idle [.askedCancelled answer]
  | returned (selection : SelectedRouteCredential) :
      Idle [.askedCancelled false, .acquired selection, .released selection]

/-- A turn with an invocation, up to its report. -/
def turn (start : Start) (questions report : List Action) : List Action :=
  .askedCancelled false :: .acquired start.selection :: .started start :: questions ++ report

/-- The turns of a call that has tried some bindings, and the selection that it returns. -/
inductive Turns (requestId : Option RequestId) (limit : ℕ) (deadlineMs : ℤ) :
    List (RouteCandidateId × CredentialId) → Except GatewayError SelectedRouteCredential →
      List Action → Prop
  | idle {tried error actions} (h : Idle actions) :
      Turns requestId limit deadlineMs tried (.error error) actions
  | failed {tried start error questions report} (hstart : Admitted limit deadlineMs tried start)
      (hquestions : ∀ action ∈ questions, IsQuestion action) (h : Reports requestId start report) :
      Turns requestId limit deadlineMs tried (.error error)
        (turn start questions report ++ [.released start.selection])
  | succeeded {tried start report} (hstart : Admitted limit deadlineMs tried start)
      (h : Reports requestId start report) :
      Turns requestId limit deadlineMs tried (.ok start.selection)
        (turn start [.askedCancelled false] report)
  | retry {tried start report answer actions} (hstart : Admitted limit deadlineMs tried start)
      (h : Reports requestId start report)
      (hrest : Turns requestId limit deadlineMs (binding start.selection :: tried) answer actions) :
      Turns requestId limit deadlineMs tried answer
        (turn start [.askedCancelled false, .askedRetry true] report ++
          .released start.selection :: actions)

/-! ### What the operations show -/

theorem keeps_ask (question : ω → α × ω) :
    Keeps Call.trace (ask question : Orchestration snapshot ω α) := fun _ => rfl

theorem keeps_nowMs : Keeps Call.trace (nowMs env) :=
  keeps_bind (keeps_ask _) fun _ => keeps_lift _

theorem keeps_onHealth (operation : RuntimeHealth.Reading → RuntimeHealth.Operation α) :
    Keeps Call.trace (onHealth env operation) :=
  keeps_bind (keeps_modify fun _ => rfl) fun _ => keeps_bind (keeps_ask _) fun _ _ => rfl

theorem keeps_onQuota (operation : RuntimeHealth.Reading → RuntimeQuota.Operation α) :
    Keeps Call.trace (onQuota env operation) :=
  keeps_bind (keeps_modify fun _ => rfl) fun _ => keeps_bind (keeps_ask _) fun _ _ => rfl

theorem keeps_recordRuntimeState (selection : SelectedRouteCredential) (failure : AttemptFailure) :
    Keeps Call.trace (recordRuntimeState env request selection failure) := by
  cases failure with
  | nonRetryable error =>
    simp only [recordRuntimeState]
    split_ifs
    · exact keeps_onHealth _
    · exact keeps_onHealth _
    · exact keeps_pure _
  | rateLimited retryAfter =>
    exact keeps_bind keeps_nowMs fun _ => keeps_bind (keeps_onQuota _) fun _ => keeps_pure _
  | connection | serverError | bootstrapTruncated =>
    exact keeps_bind keeps_nowMs fun _ => keeps_bind (keeps_lift _) fun _ => keeps_onHealth _
  | cancelled => exact keeps_pure _

theorem shows_ask (question : ω → α × ω) :
    Shows Call.trace (ask question : Orchestration snapshot ω α) fun o added =>
      ∃ a, o = .ok a ∧ added = [] :=
  fun _ => ⟨[], (List.append_nil _).symm, _, rfl, rfl⟩

theorem shows_note (action : Action) :
    Shows Call.trace (note action : Orchestration snapshot ω Unit) fun o added =>
      ∃ u, o = .ok u ∧ added = [action] :=
  fun _ => ⟨_, rfl, _, rfl, rfl⟩

theorem shows_drop (selection : SelectedRouteCredential) :
    Shows Call.trace (modify (·.drop selection) : Orchestration snapshot ω Unit) fun o added =>
      ∃ u, o = .ok u ∧ added = [.released selection] :=
  fun _ => ⟨_, rfl, _, rfl, rfl⟩

theorem shows_isCancelled : Shows Call.trace (isCancelled env) fun o added =>
    ∃ answer, o = .ok answer ∧ added = [.askedCancelled answer] :=
  fun _ => ⟨_, rfl, _, rfl, rfl⟩

theorem shows_allowsTransparentRetry : Shows Call.trace (allowsTransparentRetry env) fun o added =>
    ∃ answer, o = .ok answer ∧ added = [.askedRetry answer] :=
  fun _ => ⟨_, rfl, _, rfl, rfl⟩

variable {m : Orchestration snapshot ω α}

theorem shows_outcomeOf {P : Except GatewayError α → List Action → Prop}
    (h : Shows Call.trace m P) :
    Shows Call.trace (outcomeOf m) fun o added => ∃ x, o = .ok x ∧ P x added := by
  intro call
  obtain ⟨added, hlog, hP⟩ := h call
  exact ⟨added, hlog, _, rfl, hP⟩

theorem shows_completeQuotaRecoveryProbe (probe : RuntimeQuotaRecoveryProbe) :
    Shows Call.trace (completeQuotaRecoveryProbe env probe) fun o added =>
      ∃ u, o = .ok u ∧ added = [] := by
  refine shows_ok_bind (R := fun _ added => added = [])
    (shows_outcomeOf (shows_of_keeps ?_ fun _ => rfl)) ?_
  · exact keeps_bind keeps_nowMs fun _ => keeps_bind (keeps_lift _) fun _ => keeps_onQuota _
  · rintro _ _ rfl
    exact shows_pure ⟨(), rfl, rfl⟩

variable (start : Start)

theorem shows_emitAttempt (outcome : AttemptOutcome) (decision : AttemptRetryDecision) :
    Shows Call.trace (emitAttempt env request start outcome decision) fun o added =>
      ∃ u, o = .ok u ∧ Reports request.requestId start added := by
  unfold emitAttempt Reports
  cases request.requestId with
  | none => exact shows_pure ⟨(), rfl, rfl⟩
  | some requestId => exact fun _ => ⟨_, rfl, (), rfl, _, rfl, ⟨rfl, rfl, rfl, rfl⟩⟩

theorem shows_failWith (reported : GatewayError) (decision : AttemptRetryDecision)
    (error : GatewayError) :
    Shows Call.trace
      (failWith env request start reported decision error : Orchestration snapshot ω α)
      fun o added => o = .error error ∧ Reports request.requestId start added := by
  refine shows_ok_bind (shows_emitAttempt start _ decision) fun _ report hreport => ?_
  exact shows_throw ⟨rfl, by rwa [List.append_nil]⟩

/-! ### What a selection shows -/

/-- A selection that succeeds has acquired one lease, for a binding that is not excluded. -/
def Selects (exclusions : AttemptExclusionSet) :
    Except GatewayError SelectedRouteCredential → List Action → Prop
  | .ok selection, added => added = [.acquired selection] ∧ binding selection ∉ exclusions.bindings
  | .error _, added => added = []

/-- No lease was taken yet. -/
def Searching (trace : List Action) (s : Call snapshot ω × Option CredentialLease) : Prop :=
  s.2 = none ∧ s.1.trace = trace

def Took (trace : List Action) (isBindingEligible : SnapshotRouteCandidate → CredentialId → Bool)
    (candidate : SnapshotRouteCandidate) (s : Call snapshot ω × Option CredentialLease) : Prop :=
  ∃ lease, s.2 = some lease ∧ s.1.trace = trace ++ [.acquired ⟨candidate, lease⟩] ∧
    isBindingEligible candidate lease.credentialId

variable {trace : List Action}

theorem leaseUnderWay_ends (env : Environment snapshot ω Output)
    (quotaAdmits : Runtime → EndpointId → CredentialId → Bool) (observedAtMs : ℤ)
    (isCandidateEligible : SnapshotRouteCandidate → Bool)
    (isBindingEligible : SnapshotRouteCandidate → CredentialId → Bool)
    (candidate : SnapshotRouteCandidate) (s : Call snapshot ω × Option CredentialLease)
    (hs : Searching trace s) :
    Answered (Searching trace) (Took trace isBindingEligible candidate)
      (leaseUnderWay env quotaAdmits observedAtMs isCandidateEligible isBindingEligible
        candidate s) := by
  obtain ⟨call, _⟩ := s
  obtain ⟨rfl, rfl⟩ := hs
  simp only [leaseUnderWay]
  generalize Runtime.mk _ _ _ = runtime
  obtain ⟨pools, hlease⟩ | ⟨pools, lease, hlease, heligible⟩ := leaseFrom_eq observedAtMs
    (runtime.admitsCandidate isCandidateEligible)
      (runtime.admitsBinding quotaAdmits isBindingEligible)
    candidate (call.disturbed env).shared.credentialPools
  · rw [hlease]
    exact ⟨rfl, List.append_nil _⟩
  · rw [hlease]
    simp only [Runtime.admitsBinding, Bool.and_eq_true] at heligible
    exact ⟨lease, rfl, rfl, heligible.1.1.1.1⟩

theorem shows_selectAndLease (quotaAdmits : Runtime → EndpointId → CredentialId → Bool)
    (routeId : RouteId) (observedAtMs : ℤ) (isCandidateEligible : SnapshotRouteCandidate → Bool)
    (exclusions : AttemptExclusionSet) :
    Shows Call.trace (selectAndLease env quotaAdmits routeId observedAtMs isCandidateEligible
      fun candidate credentialId => !exclusions.contains candidate credentialId)
    (Selects exclusions) := by
  intro call
  have hends := (call.disturbed env).shared.candidates.selectEligible_ends routeId
    (leaseUnderWay_ends env quotaAdmits observedAtMs isCandidateEligible
      fun candidate credentialId => !exclusions.contains candidate credentialId)
    (s := (call.disturbed env, none)) ⟨rfl, rfl⟩
  simp only [selectAndLease, call_of]
  generalize RouteCandidateScheduler.selectEligible _ routeId _ _ = answer at hends ⊢
  obtain ⟨_ | candidate, candidates, call', lease⟩ := answer
  · exact ⟨[], hends.2.trans (List.append_nil _).symm, rfl⟩
  · obtain ⟨lease, rfl, htrace, hadmitted⟩ := hends
    refine ⟨_, htrace, rfl, ?_⟩
    simpa [AttemptExclusionSet.contains, binding] using hadmitted

/-- What the choice of a binding shows: a lease of a fresh binding, or at most one that was dropped.
-/
def Chooses (exclusions : AttemptExclusionSet) :
    Except GatewayError (SelectedRouteCredential × Option RuntimeQuotaRecoveryProbe) →
      List Action → Prop
  | .ok (selection, _), added =>
    added = [.acquired selection] ∧ binding selection ∉ exclusions.bindings
  | .error _, added => added = [] ∨ ∃ selection, added = [.acquired selection, .released selection]

variable {selection : SelectedRouteCredential}

theorem shows_holding {P R : Except GatewayError α → List Action → Prop} (hm : Shows Call.trace m R)
    (hok : ∀ a added, R (.ok a) added → P (.ok a) added)
    (herr : ∀ e added, R (.error e) added → P (.error e) (added ++ [.released selection])) :
    Shows Call.trace (holding selection m) P :=
  shows_orRestore hm (fun _ _ => rfl) hok herr

theorem shows_beginQuotaRecoveryProbeSelection (exclusions : AttemptExclusionSet) (observedAtMs : ℤ)
    (startCeiling : Duration) :
    Shows Call.trace
      (beginQuotaRecoveryProbeSelection env request exclusions observedAtMs startCeiling)
      fun o added => Chooses exclusions (o.map fun (selection, probe) => (selection, some probe))
        added := by
  refine shows_bind (shows_selectAndLease _ _ _ _ exclusions) ?_ ?_
  · rintro selection _ ⟨rfl, hfresh⟩
    refine shows_holding (R := fun o added => added = [] ∧ ∀ a, o = .ok a → a.1 = selection)
      ?_ ?_ ?_
    · refine shows_lift_bind (fun expiresAtMs _ => ?_) fun e => ⟨rfl, nofun⟩
      refine shows_keeps_bind (keeps_onQuota _) (fun probe => ?_) fun e => ⟨rfl, nofun⟩
      refine shows_okOr_bind (fun probe _ => ?_) ⟨rfl, nofun⟩
      exact shows_pure ⟨rfl, by rintro _ ⟨⟩; rfl⟩
    · rintro ⟨_, probe⟩ _ ⟨rfl, hselection⟩
      obtain rfl : _ = selection := hselection _ rfl
      exact ⟨rfl, hfresh⟩
    · rintro e _ ⟨rfl, -⟩
      exact .inr ⟨selection, rfl⟩
  · rintro e _ rfl
    exact .inl rfl

variable (budget : RetryBudget)

theorem shows_selectBinding (exclusions : AttemptExclusionSet)
    (lastFailure : Option GatewayError) (observedAtMs : ℤ) :
    Shows Call.trace (selectBinding env request budget exclusions lastFailure observedAtMs)
      (Chooses exclusions) := by
  refine shows_ok_bind (shows_outcomeOf (shows_selectAndLease _ _ _ _ exclusions)) ?_
  rintro (error | selection) first hselects
  · obtain rfl : first = [] := hselects
    refine shows_lift_bind (fun remaining _ => ?_) fun e => .inl rfl
    refine shows_keeps_bind (keeps_ask _) (fun startCeiling => ?_) fun e => .inl rfl
    refine shows_ok_bind (shows_outcomeOf
      (shows_beginQuotaRecoveryProbeSelection exclusions observedAtMs startCeiling)) ?_
    rintro (error | chosen) added hchooses
    · exact shows_throw (by rwa [List.append_nil])
    · exact shows_pure (by rwa [List.append_nil])
  · exact shows_pure (by rwa [List.append_nil])

/-! ### What an Attempt shows -/

theorem settled_failWith (questions : List Action)
    (hquestions : ∀ action ∈ questions, IsQuestion action) (start : Start) (reported : GatewayError)
    (decision : AttemptRetryDecision) (error : GatewayError) :
    Shows Call.trace (failWith env request start reported decision error :
      Orchestration snapshot ω (Turn Output))
      fun o rest => Settled request.requestId start o (questions ++ rest) := by
  refine (shows_failWith start reported decision error).mono ?_
  rintro _ report ⟨rfl, hreport⟩
  exact .failed hquestions hreport

theorem shows_succeed (quotaProbe : Option RuntimeQuotaRecoveryProbe) (output : Output) :
    Shows Call.trace (succeed env request start quotaProbe output)
      (Settled request.requestId start) := by
  have hcomplete : Shows Call.trace (quotaProbe.forM (completeQuotaRecoveryProbe env))
      fun o added =>
      ∃ u, o = .ok u ∧ added = [] := by
    cases quotaProbe with
    | none => exact shows_pure ⟨_, rfl, rfl⟩
    | some probe => exact shows_completeQuotaRecoveryProbe probe
  refine shows_ok_bind hcomplete fun _ _ h => ?_
  obtain rfl := h
  refine shows_ok_bind shows_isCancelled fun cancelled _ h => ?_
  obtain rfl := h
  refine shows_ite (fun _ => ?_) fun hcancelled => ?_
  · exact settled_failWith [.askedCancelled cancelled] (by simp [IsQuestion]) start _ _ _
  · subst hcancelled
    refine shows_ok_bind (shows_emitAttempt start _ _) fun _ report hreport => ?_
    exact shows_pure (by rw [List.append_nil]; exact .succeeded hreport)

theorem shows_retryOrFail (failure : AttemptFailure) :
    Shows Call.trace (retryOrFail env request start failure)
      (@Settled Output request.requestId start) := by
  refine shows_ok_bind shows_isCancelled fun cancelled _ h => ?_
  obtain rfl := h
  refine shows_ite (fun _ => ?_) fun hcancelled => ?_
  · exact settled_failWith [.askedCancelled cancelled] (by simp [IsQuestion]) start _ _ _
  · subst hcancelled
    refine shows_ite (fun _ => ?_) fun _ => ?_
    · refine shows_ok_bind shows_allowsTransparentRetry fun allowed _ h => ?_
      obtain rfl := h
      refine shows_ite (fun hallowed => ?_) fun _ => ?_
      · subst hallowed
        refine shows_ok_bind (shows_emitAttempt start _ _) fun _ report hreport => ?_
        exact shows_pure (by rw [List.append_nil]; exact .retry hreport)
      · exact settled_failWith [.askedCancelled false, .askedRetry allowed]
          (by simp [IsQuestion]) start
          _ _ _
    · exact settled_failWith [.askedCancelled false] (by simp [IsQuestion]) start _ _ _

theorem shows_fail (failure : AttemptFailure) :
    Shows Call.trace (fail env request start failure)
      (@Settled Output request.requestId start) := by
  unfold fail
  split
  · exact settled_failWith [] (by simp) start _ _ _
  · have hrecord : Shows Call.trace
        (outcomeOf (recordRuntimeState env request start.selection failure))
        fun o added => ∃ x, o = .ok x ∧ added = [] :=
      shows_outcomeOf (shows_of_keeps (keeps_recordRuntimeState _ _) fun _ => rfl)
    refine shows_ok_bind hrecord ?_
    rintro (error | _) _ rfl
    · exact settled_failWith [] (by simp) start error .infrastructureFailure error
    · exact shows_retryOrFail start failure

structure Next (budget : RetryBudget) (selection : SelectedRouteCredential) (start : Start) :
    Prop where
  selection : start.selection = selection
  number : start.attemptNumber = budget.attemptsStarted + 1
  limited : budget.attemptsStarted < budget.maxAttempts
  inTime : start.startedAtMs < budget.deadlineMs

/-- What one turn shows from the selection of a binding on. -/
inductive Attempted (requestId : Option RequestId) (budget : RetryBudget)
    (selection : SelectedRouteCredential) : Except GatewayError (Turn Output) → List Action → Prop
  | refused {error} : Attempted requestId budget selection (.error error) []
  | settled {start outcome actions} (hstart : Next budget selection start)
      (h : Settled requestId start outcome actions) :
      Attempted requestId budget selection outcome (.started start :: actions)

theorem shows_attempt (lastFailure : Option GatewayError)
    (selection : SelectedRouteCredential) (quotaProbe : Option RuntimeQuotaRecoveryProbe) :
    Shows Call.trace (attempt env request budget lastFailure selection quotaProbe)
      (Attempted request.requestId budget selection) := by
  refine shows_keeps_bind keeps_nowMs (fun startedAtMs => ?_) fun e => .refused
  refine shows_ensure_bind (fun hstart => ?_) fun _ => .refused
  refine shows_lift_bind (fun remainingBootstrap _ => ?_) fun e => .refused
  refine shows_keeps_bind (keeps_ask _) (fun timeout => ?_) fun e => .refused
  have hnumber := budget.attemptsStarted_recordStart hstart
  simp only [RetryBudget.canStartAt, Bool.and_eq_true, decide_eq_true_eq] at hstart
  refine shows_ok_bind (shows_note _) ?_
  rintro _ _ rfl
  refine shows_ok_bind (shows_ask _) ?_
  rintro race _ rfl
  have hsettled : ∀ {m : Orchestration snapshot ω (Turn Output)},
      Shows Call.trace m (Settled request.requestId
        ⟨budget.recordStart.attemptsStarted, startedAtMs, selection⟩) →
      Shows Call.trace m fun o rest => Attempted request.requestId budget selection o
        ([.started ⟨budget.recordStart.attemptsStarted, startedAtMs, selection⟩] ++ ([] ++ rest)) :=
    fun h => h.mono fun _ _ h => .settled ⟨rfl, hnumber, hstart.1, hstart.2⟩ h
  split
  · exact hsettled (shows_succeed _ _ _)
  · exact hsettled (shows_fail _ _)

/-- In its scope, a selection is dropped by a failure. -/
def AttemptedHolding (requestId : Option RequestId) (budget : RetryBudget)
    (selection : SelectedRouteCredential) : Except GatewayError (Turn Output) → List Action → Prop
  | .ok turn, added => Attempted requestId budget selection (.ok turn) added
  | .error error, added => ∃ actions, added = actions ++ [.released selection] ∧
      Attempted requestId budget selection
        (.error error : Except GatewayError (Turn Output)) actions

/-! ### What the loop shows -/

/-- The budget and the exclusions are those of a call that has tried the bindings. -/
structure Tracks (limit : ℕ) (deadlineMs : ℤ) (tried : List (RouteCandidateId × CredentialId))
    (budget : RetryBudget) (exclusions : AttemptExclusionSet) : Prop where
  limit : budget.maxAttempts = limit
  deadline : budget.deadlineMs = deadlineMs
  started : budget.attemptsStarted = tried.length
  excluded : exclusions.bindings = tried.toFinset

variable {tried : List (RouteCandidateId × CredentialId)} {deadlineMs : ℤ} {limit : ℕ}
  {budget : RetryBudget} {exclusions : AttemptExclusionSet} {actions : List Action}
  {error : GatewayError}

section

variable (h : Tracks limit deadlineMs tried budget exclusions)

include h

theorem Tracks.recordStart {nowMs : ℤ} (hstart : budget.canStartAt nowMs)
    (selection : SelectedRouteCredential) :
    Tracks limit deadlineMs (binding selection :: tried) budget.recordStart
      (exclusions.insert selection.candidate selection.lease.credentialId) where
  limit := h.limit
  deadline := h.deadline
  started := by rw [budget.attemptsStarted_recordStart hstart, h.started, List.length_cons]
  excluded := by
    rw [AttemptExclusionSet.insert, h.excluded, List.toFinset_cons]
    rfl

theorem Tracks.admitted {start : Start}
    (hfresh : binding selection ∉ exclusions.bindings) (hstart : Next budget selection start) :
    Admitted limit deadlineMs tried start where
  number := by rw [hstart.number, h.started]
  limited := by
    have := hstart.limited
    rwa [h.started, h.limit] at this
  inTime := by
    have := hstart.inTime
    rwa [h.deadline] at this
  fresh := by rwa [h.excluded, List.mem_toFinset, ← hstart.selection] at hfresh

/-- What a failed turn shows, when the lease that it held is dropped. -/
theorem Tracks.failed {requestId : Option RequestId}
    (hfresh : binding selection ∉ exclusions.bindings)
    (hattempted : Attempted requestId budget selection
      (.error error : Except _ (Turn Output)) actions) :
    Turns requestId limit deadlineMs tried (.error error)
      (.askedCancelled false :: .acquired selection :: (actions ++ [.released selection])) := by
  cases hattempted with
  | refused => exact .idle (.returned selection)
  | settled hstart hsettled =>
    have hadmitted := h.admitted hfresh hstart
    obtain rfl := hstart.selection
    cases hsettled with
    | failed hquestions hreport =>
      have hturns : Turns requestId limit deadlineMs tried (.error error) _ :=
        .failed hadmitted hquestions hreport
      simpa [turn] using hturns

end

theorem shows_attempts (budget : RetryBudget)
    (exclusions : AttemptExclusionSet) (lastFailure : Option GatewayError)
    (tried : List (RouteCandidateId × CredentialId))
    (htracks : Tracks limit deadlineMs tried budget exclusions) :
    Shows Call.trace (attempts env request budget exclusions lastFailure) fun o added =>
      Turns request.requestId limit deadlineMs tried (o.map (·.selection)) added := by
  induction budget, exclusions, lastFailure using attempts.induct generalizing tried with
  | case1 budget exclusions lastFailure ih =>
    rw [attempts]
    refine shows_ok_bind shows_isCancelled fun cancelled _ h => ?_
    obtain rfl := h
    refine shows_ensure_bind (fun hcancelled => ?_) fun _ => .idle (.refused _)
    obtain rfl : cancelled = false := by simpa using hcancelled
    refine shows_keeps_bind keeps_nowMs (fun observedAtMs => ?_) fun _ => .idle (.refused _)
    split
    · rename_i hstart
      refine shows_bind (shows_selectBinding budget exclusions lastFailure observedAtMs) ?_ ?_
      · rintro ⟨selection, quotaProbe⟩ _ ⟨rfl, hfresh⟩
        refine shows_bind (shows_holding (P := AttemptedHolding request.requestId budget selection)
          (shows_attempt budget lastFailure selection quotaProbe) (fun _ _ h => h)
          fun _ actions h => ⟨actions, rfl, h⟩) ?_ ?_
        · rintro turn _ (hattempted : Attempted _ _ _ (.ok turn) _)
          cases hattempted with
          | settled hnext hsettled =>
            have hadmitted := htracks.admitted hfresh hnext
            obtain rfl := hnext.selection
            cases hsettled with
            | succeeded hreport =>
              exact shows_pure (by simpa [turn, Except.map] using Turns.succeeded hadmitted hreport)
            | retry hreport =>
              refine shows_ok_bind (shows_drop _) ?_
              rintro _ _ rfl
              refine (ih observedAtMs hstart _ _ _ (htracks.recordStart hstart _)).mono ?_
              intro o rest hrest
              simpa [turn] using Turns.retry hadmitted hreport hrest
        · rintro error _ ⟨actions, rfl, hattempted⟩
          exact htracks.failed hfresh hattempted
      · rintro error added (rfl | ⟨selection, rfl⟩)
        · exact .idle (.refused false)
        · exact .idle (.returned selection)
    · exact shows_throw (.idle (.refused _))

/-! ### What such traces have in common -/

def startOf : Action → Option Start
  | .started start => some start
  | _ => none

def eventOf : Action → Option AttemptEvent
  | .emitted event => some event
  | _ => none

def acquisitionOf : Action → Option SelectedRouteCredential
  | .acquired selection => some selection
  | _ => none

def releaseOf : Action → Option SelectedRouteCredential
  | .released selection => some selection
  | _ => none

/-- The invocations of the driver. -/
def starts (trace : List Action) : List Start := trace.filterMap startOf

/-- The events that were emitted. -/
def events (trace : List Action) : List AttemptEvent := trace.filterMap eventOf

/-- The selections whose leases were acquired. -/
def acquired (trace : List Action) : List SelectedRouteCredential := trace.filterMap acquisitionOf

/-- The selections whose leases were dropped. -/
def released (trace : List Action) : List SelectedRouteCredential := trace.filterMap releaseOf

/-- Since the last invocation, or the beginning, the gate has last answered that the request is not
cancelled before every invocation (`asked`), and that a retry is allowed (`allowed`). -/
def Guarded : (asked allowed : Bool) → List Action → Prop
  | _, _, [] => True
  | _, allowed, .askedCancelled answer :: trace => Guarded (!answer) allowed trace
  | asked, _, .askedRetry answer :: trace => Guarded asked answer trace
  | asked, allowed, .started _ :: trace => asked = true ∧ allowed = true ∧ Guarded false false trace
  | asked, allowed, .acquired _ :: trace => Guarded asked allowed trace
  | asked, allowed, .released _ :: trace => Guarded asked allowed trace
  | asked, allowed, .emitted _ :: trace => Guarded asked allowed trace

section Turns

variable {requestId : Option RequestId} {limit : ℕ}
  {answer : Except GatewayError SelectedRouteCredential} {actions questions report : List Action}
  {start : Start}

theorem filterMap_turn {β : Type} {pick : Action → Option β}
    (hpick : ∀ action, IsQuestion action → pick action = none)
    (hquestions : ∀ action ∈ questions, IsQuestion action) (rest : List Action) :
    (turn start questions report ++ rest).filterMap pick =
      (pick (.acquired start.selection)).toList ++ (pick (.started start)).toList ++
        report.filterMap pick ++ rest.filterMap pick := by
  have hnone : questions.filterMap pick = [] :=
    List.filterMap_eq_nil_iff.mpr fun action haction => hpick action (hquestions action haction)
  have hfirst : pick (.askedCancelled false) = none := hpick _ trivial
  simp only [turn, List.cons_append, List.filterMap_append, List.filterMap_cons, hnone, hfirst]
  cases pick (.acquired start.selection) <;> cases pick (.started start) <;> rfl

theorem filterMap_report {β : Type} {pick : Action → Option β}
    (hpick : ∀ event, pick (.emitted event) = none) (h : Reports requestId start report) :
    report.filterMap pick = [] := by
  cases requestId with
  | none =>
    obtain rfl : report = [] := h
    rfl
  | some requestId =>
    obtain ⟨event, rfl, -⟩ := h
    exact List.filterMap_cons_none (hpick event)

theorem readings_turn (hquestions : ∀ action ∈ questions, IsQuestion action)
    (h : Reports requestId start report) (rest : List Action) :
    starts (turn start questions report ++ rest) = start :: starts rest ∧
      events (turn start questions report ++ rest) = events report ++ events rest ∧
      acquired (turn start questions report ++ rest) = start.selection :: acquired rest ∧
      released (turn start questions report ++ rest) = released rest := by
  have hskip : ∀ action, IsQuestion action → startOf action = none ∧ eventOf action = none ∧
      acquisitionOf action = none ∧ releaseOf action = none := by
    intro action haction
    cases action <;> first | exact ⟨rfl, rfl, rfl, rfl⟩ | exact haction.elim
  refine ⟨?_, ?_, ?_, ?_⟩
  · rw [starts, filterMap_turn (fun a ha => (hskip a ha).1) hquestions,
      filterMap_report (fun _ => rfl) h]
    rfl
  · rw [events, filterMap_turn (fun a ha => (hskip a ha).2.1) hquestions]
    rfl
  · rw [acquired, filterMap_turn (fun a ha => (hskip a ha).2.2.1) hquestions,
      filterMap_report (fun _ => rfl) h]
    rfl
  · rw [released, filterMap_turn (fun a ha => (hskip a ha).2.2.2) hquestions,
      filterMap_report (fun _ => rfl) h]
    rfl

/-- The events are those of the invocations, in order. -/
def Reported (requestId : Option RequestId) (starts : List Start) (events : List AttemptEvent) :
    Prop :=
  match requestId with
  | none => events = []
  | some requestId => List.Forall₂ (IsEventOf requestId) starts events

theorem reported_nil : Reported requestId [] [] := by
  cases requestId with
  | none => rfl
  | some _ => exact .nil

theorem Reports.cons {rest : List Start} {later : List AttemptEvent}
    (h : Reports requestId start report) (hrest : Reported requestId rest later) :
    Reported requestId (start :: rest) (events report ++ later) := by
  cases requestId with
  | none =>
    obtain rfl : report = [] := h
    exact hrest
  | some requestId =>
    obtain ⟨event, rfl, hevent⟩ := h
    exact .cons hevent hrest

/-- The leases that a call has not dropped when it returns. -/
def kept : Except GatewayError SelectedRouteCredential → List SelectedRouteCredential
  | .ok selection => [selection]
  | .error _ => []

/-- What the invocations and events of a call satisfy that has tried some bindings before. -/
structure Orderly (requestId : Option RequestId) (limit : ℕ) (deadlineMs : ℤ)
    (tried : List (RouteCandidateId × CredentialId)) (trace : List Action) : Prop where
  bounded : (starts trace).length ≤ limit - tried.length
  inTime : ∀ start ∈ starts trace, start.startedAtMs < deadlineMs
  distinct : ((starts trace).map fun start => binding start.selection).Nodup
  fresh : ∀ start ∈ starts trace, binding start.selection ∉ tried
  numbered : (starts trace).map (·.attemptNumber) = List.range' (tried.length + 1)
    (starts trace).length
  reported : Reported requestId (starts trace) (events trace)

theorem orderly_of_nil (hstarts : starts actions = []) (hevents : events actions = []) :
    Orderly requestId limit deadlineMs tried actions := by
  constructor <;> simp [hstarts, hevents, reported_nil]

theorem Orderly.turn {rest : List Action} (hstart : Admitted limit deadlineMs tried start)
    (hquestions : ∀ action ∈ questions, IsQuestion action) (h : Reports requestId start report)
    (hrest : Orderly requestId limit deadlineMs (binding start.selection :: tried) rest) :
    Orderly requestId limit deadlineMs tried
      (AttemptDiscipline.turn start questions report ++ rest) := by
  obtain ⟨hstarts, hevents, -, -⟩ := readings_turn hquestions h rest
  have hlimited := hstart.limited
  have hbounded := hrest.bounded
  rw [List.length_cons] at hbounded
  constructor
  · rw [hstarts, List.length_cons]
    omega
  · rw [hstarts]
    exact List.forall_mem_cons.mpr ⟨hstart.inTime, hrest.inTime⟩
  · rw [hstarts, List.map_cons, List.nodup_cons]
    refine ⟨fun hmem => ?_, hrest.distinct⟩
    obtain ⟨other, hother, hbinding⟩ := List.mem_map.mp hmem
    exact hrest.fresh other hother (hbinding ▸ List.mem_cons_self)
  · rw [hstarts]
    exact List.forall_mem_cons.mpr ⟨hstart.fresh, fun other hother hmem =>
      hrest.fresh other hother (List.mem_cons_of_mem _ hmem)⟩
  · rw [hstarts, List.map_cons, hrest.numbered, hstart.number]
    rfl
  · rw [hstarts, hevents]
    exact h.cons hrest.reported

theorem isQuestion_notCancelled : ∀ action ∈ [Action.askedCancelled false], IsQuestion action := by
  simp [IsQuestion]

theorem isQuestion_retryAllowed :
    ∀ action ∈ [Action.askedCancelled false, Action.askedRetry true], IsQuestion action := by
  simp [IsQuestion]

theorem Turns.orderly (h : Turns requestId limit deadlineMs tried answer actions) :
    Orderly requestId limit deadlineMs tried actions := by
  induction h with
  | idle h => exact orderly_of_nil (by cases h <;> rfl) (by cases h <;> rfl)
  | failed hstart hquestions h => exact .turn hstart hquestions h (orderly_of_nil rfl rfl)
  | succeeded hstart h =>
    have hturn := Orderly.turn hstart isQuestion_notCancelled h
      (orderly_of_nil (rfl : starts [] = []) rfl)
    rwa [List.append_nil] at hturn
  | retry hstart h _ ih =>
    exact .turn hstart isQuestion_retryAllowed h
      ⟨ih.bounded, ih.inTime, ih.distinct, ih.fresh, ih.numbered, ih.reported⟩

/-- The leases that are acquired are dropped one after another, up to the one that is returned. -/
theorem Turns.leases (h : Turns requestId limit deadlineMs tried answer actions) :
    acquired actions = released actions ++ kept answer := by
  induction h with
  | idle h => cases h <;> rfl
  | failed hstart hquestions h =>
    obtain ⟨-, -, hacquired, hreleased⟩ := readings_turn hquestions h _
    rw [hacquired, hreleased]
    rfl
  | succeeded hstart h =>
    obtain ⟨-, -, hacquired, hreleased⟩ := readings_turn isQuestion_notCancelled h []
    rw [List.append_nil] at hacquired hreleased
    rw [hacquired, hreleased]
    rfl
  | retry hstart h _ ih =>
    obtain ⟨-, -, hacquired, hreleased⟩ := readings_turn isQuestion_retryAllowed h _
    rw [hacquired, hreleased]
    exact congrArg _ ih

theorem guarded_of_starts_nil {asked allowed : Bool} (h : starts trace = []) :
    Guarded asked allowed trace := by
  induction trace generalizing asked allowed with
  | nil => trivial
  | cons action trace ih =>
    cases action with
    | started start => cases h
    | askedCancelled _ | askedRetry _ | acquired _ | released _ | emitted _ => exact ih h

theorem guarded_turn {asked : Bool} {rest : List Action}
    (h : Guarded false false (questions ++ report ++ rest)) :
    Guarded asked true (AttemptDiscipline.turn start questions report ++ rest) :=
  ⟨rfl, rfl, h⟩

theorem Turns.guarded (h : Turns requestId limit deadlineMs tried answer actions) (asked : Bool) :
    Guarded asked true actions := by
  induction h generalizing asked with
  | idle h => exact guarded_of_starts_nil (by cases h <;> rfl)
  | @failed _ start _ _ _ hstart hquestions h =>
    have hnone := (readings_turn hquestions h [.released start.selection]).1
    exact guarded_turn (guarded_of_starts_nil (List.cons.inj hnone).2)
  | succeeded hstart h =>
    have hnone := (readings_turn isQuestion_notCancelled h []).1
    rw [← List.append_nil (AttemptDiscipline.turn ..)]
    exact guarded_turn (guarded_of_starts_nil (List.cons.inj hnone).2)
  | retry hstart h _ ih =>
    refine guarded_turn ?_
    cases requestId with
    | none =>
      obtain rfl := h
      exact ih true
    | some _ =>
      obtain ⟨_, rfl, -⟩ := h
      exact ih true

end Turns

/-! ### One call -/

/-- What one call satisfies, whatever the environment does. -/
structure Disciplined (env : Environment snapshot ω Output) (request : Request)
    (call : Call snapshot ω) (answer : Except GatewayError (StartedAttempt Output))
    (trace : List Action) : Prop where
  /-- The deadline is that of the first reading of the clock. -/
  budget : starts trace = [] ∨ ∃ route observedAtMs, snapshot.route request.routeId = some route ∧
    (env.nowMs (env.isCancelled call.world).2).1 = .ok observedAtMs ∧
    (starts trace).length ≤ route.maxAttempts ∧
    ∀ start ∈ starts trace, start.startedAtMs < observedAtMs + route.bootstrapTimeoutMs
  distinct : ((starts trace).map fun start => binding start.selection).Nodup
  numbered : (starts trace).map (·.attemptNumber) = List.range' 1 (starts trace).length
  reported : Reported request.requestId (starts trace) (events trace)
  leases : acquired trace = released trace ++ kept (answer.map (·.selection))
  guarded : Guarded false true trace

variable {call : Call snapshot ω}

theorem disciplined_of_error (cancelled : Bool) :
    Disciplined env request call (.error error) [.askedCancelled cancelled] where
  budget := .inl rfl
  distinct := .nil
  numbered := rfl
  reported := reported_nil
  leases := rfl
  guarded := trivial

variable {route : SnapshotRoute} {observedAtMs : ℤ}

theorem RetryBudget.tracks_of_fromRoute
    (h : RetryBudget.fromRoute route observedAtMs = .ok budget) :
    Tracks route.maxAttempts.toNat (observedAtMs + route.bootstrapTimeoutMs) [] budget .new ∧
      0 ≤ route.maxAttempts := by
  unfold RetryBudget.fromRoute at h
  split_ifs at h with hfits
  simp only [except_ok] at h
  obtain ⟨-, -, -, -, rfl⟩ := h
  exact ⟨⟨rfl, rfl, rfl, rfl⟩, hfits.1⟩

/-- What the loop shows in a call whose budget is that of its first reading of the clock. -/
theorem disciplined_of_turns {answer : Except GatewayError (StartedAttempt Output)}
    (hroute : snapshot.route request.routeId = some route)
    (hclock : (env.nowMs (env.isCancelled call.world).2).1 = .ok observedAtMs)
    (hmax : 0 ≤ route.maxAttempts)
    (h : Turns request.requestId route.maxAttempts.toNat
      (observedAtMs + route.bootstrapTimeoutMs) []
      (answer.map (·.selection)) actions) :
    Disciplined env request call answer (.askedCancelled false :: actions) where
  budget := by
    have hbounded : (starts actions).length ≤ route.maxAttempts.toNat := h.orderly.bounded
    exact .inr
      ⟨route, observedAtMs, hroute, hclock, (Int.le_toNat hmax).mp hbounded, h.orderly.inTime⟩
  distinct := h.orderly.distinct
  numbered := h.orderly.numbered
  reported := h.orderly.reported
  leases := h.leases
  guarded := h.guarded true

/-- **Every call is disciplined**, in every environment. -/
theorem start_disciplined (env : Environment snapshot ω Output) (request : Request)
    (call : Call snapshot ω) :
    ∃ added, ((startInner env request).call call).2.trace = call.trace ++ added ∧
      Disciplined env request call ((startInner env request).call call).1 added := by
  change Ends (startInner env request) call fun answer call' => ∃ added,
    call'.trace = call.trace ++ added ∧ Disciplined env request call answer added
  refine ends_bind (R := fun o call' => o = .ok (env.isCancelled call.world).1 ∧
    call'.world = (env.isCancelled call.world).2 ∧
    call'.trace = call.trace ++ [.askedCancelled (env.isCancelled call.world).1])
    ⟨rfl, rfl, rfl⟩ ?_ nofun
  rintro _ call' ⟨⟨⟩, hworld, htrace⟩
  refine ends_ensure_bind (fun hcancelled => ?_) fun _ => ⟨_, htrace, disciplined_of_error _⟩
  rw [Bool.not_eq_true'] at hcancelled
  refine ends_okOr_bind (fun route hroute => ?_) fun _ => ⟨_, htrace, disciplined_of_error _⟩
  refine ends_bind (R := fun o call'' => call''.trace = call'.trace ∧ ∀ observedAtMs,
    o = .ok observedAtMs → (env.nowMs call'.world).1 = .ok observedAtMs)
    ⟨keeps_nowMs call', fun observedAtMs h => mapError_ok_iff.mp h⟩ ?_ ?_
  · rintro observedAtMs call'' ⟨htrace', hclock⟩
    rw [htrace, hcancelled] at htrace'
    refine ends_lift_bind (fun budget hbudget => ?_) fun _ _ => ⟨_, htrace', disciplined_of_error _⟩
    obtain ⟨htracks, hmax⟩ := RetryBudget.tracks_of_fromRoute hbudget
    have hshows : Shows Call.trace (attempts env request budget .new none) _ :=
      shows_attempts budget .new none [] htracks
    obtain ⟨actions, hactions, hturns⟩ := hshows call''
    refine ⟨.askedCancelled false :: actions, ?_,
      disciplined_of_turns hroute (hworld ▸ hclock observedAtMs rfl) hmax hturns⟩
    rw [hactions, htrace', List.append_assoc]
    rfl
  · rintro error call'' ⟨htrace', -⟩
    exact ⟨_, htrace'.trans htrace, disciplined_of_error _⟩

/-- A closed gate, a request that is cancelled after the second question, and a clock that counts
the questions. -/
def closedGate (snapshot : RouteSnapshot) : Environment snapshot ℕ Unit where
  isCancelled asked := (decide (2 ≤ asked), asked + 1)
  allowsTransparentRetry asked := (false, asked)
  nowMs asked := (.ok asked, asked)
  startTimeout remaining asked := (remaining, asked)
  race _ _ _ asked := (.cancelled, asked)
  interfere shared asked := (shared, asked)

def sampleRequest : Request where
  config := .default
  requestId := some (.lit "request")
  routeId := .lit "route"
  isCandidateEligible _ := true

/-- What a call with the sample scheduler shares at first. -/
def sampleShared : Shared (sampleScheduler false).1 where
  candidates := (sampleScheduler false).2.candidates
  credentialPools := (sampleScheduler false).2.credentialPools
  health := RuntimeHealth.new fun _ => 0
  quota := RuntimeQuota.new fun _ => 0

def closedGateTrace : List Action :=
  ((startInner (closedGate (sampleScheduler false).1) sampleRequest).call
    ⟨0, sampleShared, []⟩).2.trace

/-- The driver is started although the gate was never open, and after the request was cancelled. -/
theorem started_behind_closed_gate :
    (∀ snapshot asked, ((closedGate snapshot).allowsTransparentRetry asked).1 = false) ∧
    (∀ snapshot asked, 2 ≤ asked → ((closedGate snapshot).isCancelled asked).1 = true) ∧
    (∀ snapshot asked, (closedGate snapshot).nowMs asked = (.ok asked, asked)) ∧
    (starts closedGateTrace).map (·.startedAtMs) = [2] := by
  refine ⟨fun _ _ => rfl, fun _ _ h => decide_eq_true h, fun _ _ => rfl, ?_⟩
  decide +kernel

end CpaGateway.Router.AttemptDiscipline
