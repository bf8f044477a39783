import CpaGateway.Router.RateLimitRace

/-! # The deadlines that a failure records

A failure that is retried is recorded first: as a cooldown of the Endpoint, or as a rate limit with
its reset. The spans are durations, which must not be zero; the deadlines are in milliseconds, and
must be in the future. A span under a millisecond passes the first check and not the second, and the
request ends with an internal error instead of being retried. -/

namespace CpaGateway.Router.RecordedDeadlines

open Core.Error Lib.Effect Lib.Fallible Router.AttemptOrchestrator Router.CredentialScheduler
open Router.RateLimitRace Router.RuntimeQuota Router.Snapshot
open Router.RuntimeHealth (coolDownUntil)

variable {snapshot : RouteSnapshot} {request : Request} {start : Start} {failure : AttemptFailure}
  {shared : Shared snapshot} {now later : ℤ} {span : Duration}

/-- How long from now the deadline is that a failure records. -/
def recordedSpan (config : AttemptOrchestratorConfig) : AttemptFailure → Option Duration
  | .rateLimited retryAfter =>
    some (rateLimitEvidence retryAfter config.rateLimitFallbackCooldown).1
  | failure => (failure.cooldown config).map fun | .endpoint duration => duration

/-- Nothing but its deadline can speak against the record of what was observed `now`: there is room
for it `later`, and it is not older than what is stored. -/
def Unobstructed (shared : Shared snapshot) (selection : SelectedRouteCredential) (now later : ℤ) :
    AttemptFailure → Prop
  | .rateLimited _ =>
    (∀ state, shared.quota.entry (quotaTarget selection) = some state →
      state.snapshot.observedAtMs ≤ now) ∧
    (shared.quota.entry (quotaTarget selection) = none →
      HasRoom shared.quota (quotaTarget selection) later)
  | _ => ((RuntimeHealth.ensureInsertCapacity (.endpoint selection.candidate.endpointId) later).call
      shared.health).1 = .ok ()

theorem coolDownUntil_ok_iff {r : RuntimeHealth.RuntimeHealthRegistry}
    {key : RuntimeHealth.RuntimeHealthKey} {untilMs : ℤ}
    (hroom : ((RuntimeHealth.ensureInsertCapacity key now).call r).1 = .ok ()) :
    ((coolDownUntil key untilMs (.ok now)).call r).1 = .ok () ↔ now < untilMs := by
  have hclock : (RuntimeHealth.nowMs (.ok now)).call r = (.ok now, r) := rfl
  simp only [coolDownUntil, RuntimeHealth.validateDeadline, call_eq, hclock, decide_eq_true_eq]
  split_ifs with hfuture
  · refine iff_of_true ?_ hfuture
    simp only []
    split
    case h_7 =>
      rw [call_bind]
      rcases hcall : (RuntimeHealth.ensureInsertCapacity key now).call r with ⟨_ | _, r'⟩
      · rw [hcall] at hroom
        cases hroom
      · rfl
    all_goals rfl
  · simp [hfuture]

theorem retried_iff_of_cooldown (hretryable : failure.isRetryable = true)
    (hcooldown : failure.cooldown request.config = some (.endpoint span))
    (hroom : Unobstructed shared start.selection now later .connection)
    (hfits : now + span.asMillis ≤ maxTimestampMs) (horder : now ≤ later)
    (hbefore : 0 < span.asMillis → later < now + span.asMillis) :
    ((fail openGate request start failure).call ⟨[now, later], shared, []⟩).1 =
        .ok (.retry failure.safeError) ↔
      0 < span.asMillis ∧ (span.asMillis : ℤ) ≤ maxTimestampMs := by
  have hrecord : ((recordRuntimeState openGate request start.selection failure).call
      ⟨[now, later], shared, []⟩).1 = (do
        let untilMs ← AttemptOrchestrator.addDurationToTimestamp now span
        ((coolDownUntil (.endpoint start.selection.candidate.endpointId) untilMs (.ok later)).call
          shared.health).1.mapError fun _ => internalError) := by
    have hclock : (AttemptOrchestrator.nowMs openGate).call ⟨[now, later], shared, []⟩ =
      (.ok now, ⟨[later], shared, []⟩) := rfl
    cases failure with
    | rateLimited | cancelled | nonRetryable => cases hcooldown
    | _ =>
      cases hcooldown
      simp only [recordRuntimeState, AttemptFailure.cooldown, call_bind, hclock]
      cases AttemptOrchestrator.addDurationToTimestamp now request.config.transientCooldown <;> rfl
  have hok : ((recordRuntimeState openGate request start.selection failure).call
      ⟨[now, later], shared, []⟩).1 = .ok () ↔
        0 < span.asMillis ∧ (span.asMillis : ℤ) ≤ maxTimestampMs := by
    simp only [hrecord, AttemptOrchestrator.addDurationToTimestamp, except_ok,
      coolDownUntil_ok_iff hroom, decide_eq_true_eq]
    constructor
    · rintro ⟨_, ⟨-, hspan, -, -, rfl⟩, hfuture⟩
      exact ⟨by omega, hspan⟩
    · rintro ⟨hpositive, hspan⟩
      exact ⟨_, ⟨(), hspan, (), hfits, rfl⟩, hbefore hpositive⟩
  rw [(fail_eq failure hretryable _).1, ← hok]
  rcases ((recordRuntimeState openGate request start.selection failure).call _).1 with _ | _ <;>
    simp [Except.map]

/-- **When a failure is retried**, with a span that leads to a timestamp, and recorded before that
deadline if there is one: when the span has a whole millisecond at least, and is itself a number of
milliseconds of 64 bits. The clock is read for the deadline, and again by the registry. -/
theorem retried_iff (hspan : recordedSpan request.config failure = some span)
    (hfits : now + span.asMillis ≤ maxTimestampMs)
    (hfree : Unobstructed shared start.selection now later failure) (horder : now ≤ later)
    (hbefore : 0 < span.asMillis → later < now + span.asMillis) :
    ((fail openGate request start failure).call ⟨[now, later], shared, []⟩).1 =
        .ok (.retry failure.safeError) ↔
      0 < span.asMillis ∧ (span.asMillis : ℤ) ≤ maxTimestampMs := by
  cases failure with
  | rateLimited retryAfter =>
    cases hspan
    have hgoes := goesOn_iff ⟨request, start, retryAfter⟩ now later shared
    refine hgoes.trans ⟨fun h => ?_, fun h => ?_⟩
    · have hrecorded := exists_rateLimitedSnapshot.mp h.representable
      exact ⟨hrecorded.1, hrecorded.2.1⟩
    · exact ⟨exists_rateLimitedSnapshot.mpr ⟨h.1, h.2, hfits⟩, hfree.1, hfree.2⟩
  | cancelled | nonRetryable => cases hspan
  | _ =>
    cases hspan
    exact retried_iff_of_cooldown rfl rfl hfree hfits horder hbefore

/-- Half a millisecond is not zero. -/
def shortConfig : AttemptOrchestratorConfig := ⟨⟨500000⟩, ⟨500000⟩, by decide, by decide⟩

open AttemptDiscipline (sampleRequest sampleShared)

/-- The configuration is accepted, and no failure is retried with it; nor is, with any
configuration, a rate limit of half a millisecond. -/
theorem short_spans_not_retried :
    AttemptOrchestratorConfig.tryNew ⟨500000⟩ ⟨500000⟩ = .ok shortConfig ∧
      ((fail openGate { sampleRequest with config := shortConfig } sampleRacer.start
        .connection).call
        ⟨[0, 0], sampleShared, []⟩).1 = .error internalError ∧
      ((fail openGate sampleRequest sampleRacer.start (.rateLimited (some ⟨500000⟩))).call
        ⟨[0, 0], sampleShared, []⟩).1 = .error internalError :=
  ⟨rfl, rfl, rfl⟩

theorem retried_iff_sample :
    ((fail openGate sampleRequest sampleRacer.start .connection).call
      ⟨[0, 5], sampleShared, []⟩).1 =
      .ok (.retry egressUnavailableError) := by
  have hspan : recordedSpan sampleRequest.config .connection = some defaultTransientCooldown := rfl
  have hfree : Unobstructed sampleShared sampleRacer.start.selection 0 5 .connection := rfl
  exact (retried_iff hspan (by decide) hfree (by decide) (by decide)).mpr (by decide)

end CpaGateway.Router.RecordedDeadlines
