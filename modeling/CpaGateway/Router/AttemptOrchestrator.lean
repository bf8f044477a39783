import CpaGateway.Core.GatewayEvent
import CpaGateway.Router.CredentialScheduler

/-! # Attempt orchestration

The retry loop of one request: it selects a binding, starts the driver with it, and on a retryable
failure goes on with another binding, within the budget of the route. Everything outside the loop is
the environment: the downstream gate, the clock, the driver, and the other requests, which may
change the registries, the pools and the cursors at any moment. A call keeps a trace of what it
does. -/

namespace CpaGateway.Router.AttemptOrchestrator

open Core.Error Core.GatewayEvent Core.Identity Lib.Effect Lib.Fallible Upstream.CredentialPool
open Router.Schedule Router.Snapshot Router.RouteScheduler Router.CredentialScheduler
open Router.RuntimeHealth Router.RuntimeQuota

/-! ### Durations, errors and failures -/

def ofMillis (milliseconds : ℕ) : Duration := ⟨milliseconds * 10 ^ 6⟩

/-- The longest duration: a 64-bit number of seconds and less than one more second. -/
def maxDurationNanos : ℕ := 2 ^ 64 * 10 ^ 9 - 1

def saturatingAdd (a b : Duration) : Duration := ⟨min (a.asNanos + b.asNanos) maxDurationNanos⟩

def defaultRateLimitCooldown : Duration := ofMillis 30000

def defaultTransientCooldown : Duration := ofMillis 5000

def quotaRecoveryProbeGrace : Duration := ofMillis 30000

inductive AttemptOrchestratorConfigError
  | zeroRateLimitCooldown
  | zeroTransientCooldown
  deriving DecidableEq

structure AttemptOrchestratorConfig where
  rateLimitFallbackCooldown : Duration
  transientCooldown : Duration
  positive : rateLimitFallbackCooldown.isZero = false
  transientPositive : transientCooldown.isZero = false

def AttemptOrchestratorConfig.tryNew (rateLimitFallbackCooldown transientCooldown : Duration) :
    Except AttemptOrchestratorConfigError AttemptOrchestratorConfig :=
  if h : rateLimitFallbackCooldown.isZero then .error .zeroRateLimitCooldown
  else if h' : transientCooldown.isZero then .error .zeroTransientCooldown
  else .ok ⟨rateLimitFallbackCooldown, transientCooldown, by simpa using h, by simpa using h'⟩

def AttemptOrchestratorConfig.default : AttemptOrchestratorConfig where
  rateLimitFallbackCooldown := defaultRateLimitCooldown
  transientCooldown := defaultTransientCooldown
  positive := by decide
  transientPositive := by decide

def egressUnavailableError : GatewayError := ⟨.egressUnavailable, .egress⟩

def providerRateLimitedError : GatewayError := ⟨.providerRateLimited, .provider⟩

def providerTransientError : GatewayError := ⟨.providerTransient, .provider⟩

def requestCancelledError : GatewayError := ⟨.cancelled, .request⟩

inductive CooldownScope
  | endpoint (duration : Duration)

/-- How an invocation of the driver can fail. -/
inductive AttemptFailure
  | connection
  | rateLimited (retryAfter : Option Duration)
  | serverError
  | bootstrapTruncated
  | cancelled
  | nonRetryable (error : GatewayError)

namespace AttemptFailure

def isRetryable : AttemptFailure → Bool
  | connection | rateLimited _ | serverError | bootstrapTruncated => true
  | cancelled | nonRetryable _ => false

def safeError : AttemptFailure → GatewayError
  | connection => egressUnavailableError
  | rateLimited _ => providerRateLimitedError
  | serverError => providerTransientError
  | bootstrapTruncated => streamTruncatedError
  | cancelled => requestCancelledError
  | nonRetryable error => error

def cooldown (config : AttemptOrchestratorConfig) : AttemptFailure → Option CooldownScope
  | connection | serverError | bootstrapTruncated => some (.endpoint config.transientCooldown)
  | rateLimited _ | cancelled | nonRetryable _ => none

end AttemptFailure

def addDurationToTimestamp (nowMs : ℤ) (duration : Duration) : Except GatewayError ℤ := do
  ensure (decide ((duration.asMillis : ℤ) ≤ maxTimestampMs)) internalError
  ensure (decide (nowMs + duration.asMillis ≤ maxTimestampMs)) internalError
  return nowMs + duration.asMillis

/-! ### The budget of a request -/

/-- The largest count. -/
def maxUsize : ℕ := 2 ^ 64 - 1

structure RetryBudget where
  maxAttempts : ℕ
  attemptsStarted : ℕ
  deadlineMs : ℤ
  fits : maxAttempts ≤ maxUsize

namespace RetryBudget

def fromRoute (route : SnapshotRoute) (nowMs : ℤ) : Except GatewayError RetryBudget :=
  if h : 0 ≤ route.maxAttempts ∧ route.maxAttempts ≤ maxUsize then do
    ensure (decide (0 ≤ route.bootstrapTimeoutMs)) internalError
    ensure (decide (nowMs + route.bootstrapTimeoutMs ≤ maxTimestampMs)) internalError
    return {
      maxAttempts := route.maxAttempts.toNat
      attemptsStarted := 0
      deadlineMs := nowMs + route.bootstrapTimeoutMs
      fits := Int.toNat_le.mpr h.2 }
  else .error internalError

variable (budget : RetryBudget)

def canStartAt (nowMs : ℤ) : Bool :=
  decide (budget.attemptsStarted < budget.maxAttempts) && decide (nowMs < budget.deadlineMs)

def remainingAt (nowMs : ℤ) : Except GatewayError Duration :=
  let remainingMs := budget.deadlineMs - nowMs
  if 0 < remainingMs ∧ remainingMs ≤ maxTimestampMs then .ok (ofMillis remainingMs.toNat)
  else .error egressUnavailableError

def recordStart : RetryBudget :=
  { budget with attemptsStarted := min (budget.attemptsStarted + 1) maxUsize }

theorem attemptsStarted_recordStart {nowMs : ℤ} (h : budget.canStartAt nowMs) :
    budget.recordStart.attemptsStarted = budget.attemptsStarted + 1 := by
  have hfits := budget.fits
  simp only [canStartAt, Bool.and_eq_true, decide_eq_true_eq] at h
  simp only [recordStart]
  omega

end RetryBudget

/-! ### Calls and their environment -/

/-- An invocation of the driver. -/
structure Start where
  attemptNumber : ℕ
  startedAtMs : ℤ
  selection : SelectedRouteCredential

/-- What a call does. -/
inductive Action
  | askedCancelled (answer : Bool)
  | askedRetry (answer : Bool)
  | acquired (selection : SelectedRouteCredential)
  | released (selection : SelectedRouteCredential)
  | started (start : Start)
  | emitted (event : AttemptEvent)

/-- What a call shares with other requests. -/
structure Shared (snapshot : RouteSnapshot) where
  candidates : RouteCandidateScheduler snapshot
  credentialPools : EndpointCredentialPools
  health : RuntimeHealthRegistry
  quota : RuntimeQuotaRegistry

/-- How the race between the cancellation, the driver and its timeout ends. -/
inductive Race (Output : Type)
  | cancelled
  | finished (result : Except AttemptFailure Output)
  | timedOut

def Race.result {Output : Type} : Race Output → Except AttemptFailure Output
  | cancelled => .error .cancelled
  | finished result => result
  | timedOut => .error .connection

/-- The answers of everything outside the call, which has the state `ω`. -/
structure Environment (snapshot : RouteSnapshot) (ω Output : Type) where
  isCancelled : ω → Bool × ω
  allowsTransparentRetry : ω → Bool × ω
  nowMs : ω → Reading × ω
  startTimeout : Duration → ω → Duration × ω
  /-- The driver is started with the selection and the time that remains, under a timeout. -/
  race : SelectedRouteCredential → Duration → Duration → ω → Race Output × ω
  /-- Other requests go on. -/
  interfere : Shared snapshot → ω → Shared snapshot × ω

structure Call (snapshot : RouteSnapshot) (ω : Type) where
  world : ω
  shared : Shared snapshot
  trace : List Action

variable {snapshot : RouteSnapshot} {ω Output α : Type}

abbrev Orchestration (snapshot : RouteSnapshot) (ω α : Type) :=
  Method (Call snapshot ω) GatewayError α

/-- Something is asked of the environment. -/
def ask (question : ω → α × ω) : Orchestration snapshot ω α :=
  .of fun call => (.ok (question call.world).1, { call with world := (question call.world).2 })

def note (action : Action) : Orchestration snapshot ω Unit :=
  modify fun call => { call with trace := call.trace ++ [action] }

/-- A failure is a result like any other. -/
def outcomeOf (m : Orchestration snapshot ω α) : Orchestration snapshot ω (Except GatewayError α) :=
  .of fun call => (.ok (m.call call).1, (m.call call).2)

def Call.drop (call : Call snapshot ω) (selection : SelectedRouteCredential) : Call snapshot ω where
  world := call.world
  shared := { call.shared with
    credentialPools := call.shared.credentialPools.release selection.candidate.endpointId
      selection.lease.credentialId }
  trace := call.trace ++ [.released selection]

/-- The scope of a selection: a failure drops it. -/
def holding (selection : SelectedRouteCredential) (m : Orchestration snapshot ω α) :
    Orchestration snapshot ω α :=
  m.orRestore fun _ after => after.drop selection

section Operations

variable (env : Environment snapshot ω Output)

def isCancelled : Orchestration snapshot ω Bool := do
  let answer ← ask env.isCancelled
  note (.askedCancelled answer)
  return answer

def allowsTransparentRetry : Orchestration snapshot ω Bool := do
  let answer ← ask env.allowsTransparentRetry
  note (.askedRetry answer)
  return answer

def nowMs : Orchestration snapshot ω ℤ := do
  let reading ← ask env.nowMs
  liftM (reading.mapError fun _ => internalError)

def Call.disturbed (call : Call snapshot ω) : Call snapshot ω :=
  { call with
    shared := (env.interfere call.shared call.world).1
    world := (env.interfere call.shared call.world).2 }

/-- An operation of the health registry, which reads the clock itself. -/
def onHealth (operation : Reading → RuntimeHealth.Operation α) : Orchestration snapshot ω α := do
  modify (·.disturbed env)
  let reading ← ask env.nowMs
  .onPart (·.shared.health) (fun call health => { call with shared := { call.shared with health } })
    (fun _ => internalError) (operation reading)

def onQuota (operation : Reading → RuntimeQuota.Operation α) : Orchestration snapshot ω α := do
  modify (·.disturbed env)
  let reading ← ask env.nowMs
  .onPart (·.shared.quota) (fun call quota => { call with shared := { call.shared with quota } })
    (fun _ => internalError) (operation reading)

/-! ### Selections -/

/-- The predicate of a selection during which other requests go on before every candidate. -/
def leaseUnderWay (quotaAdmits : Runtime → EndpointId → CredentialId → Bool) (observedAtMs : ℤ)
    (isCandidateEligible : SnapshotRouteCandidate → Bool)
    (isBindingEligible : SnapshotRouteCandidate → CredentialId → Bool)
    (candidate : SnapshotRouteCandidate) (s : Call snapshot ω × Option CredentialLease) :
    Bool × Call snapshot ω × Option CredentialLease :=
  let call := s.1.disturbed env
  let runtime : Runtime := ⟨call.shared.health, call.shared.quota, (env.nowMs call.world).1⟩
  let (accepted, credentialPools, lease) := leaseFrom observedAtMs
    (runtime.admitsCandidate isCandidateEligible)
      (runtime.admitsBinding quotaAdmits isBindingEligible)
    candidate (call.shared.credentialPools, s.2)
  (accepted,
    { world := (env.nowMs call.world).2
      shared := { call.shared with credentialPools }
      trace := call.trace ++ if accepted then (lease.map fun lease =>
        Action.acquired ⟨candidate, lease⟩).toList else [] },
    lease)

def selectAndLease (quotaAdmits : Runtime → EndpointId → CredentialId → Bool) (routeId : RouteId)
    (observedAtMs : ℤ) (isCandidateEligible : SnapshotRouteCandidate → Bool)
    (isBindingEligible : SnapshotRouteCandidate → CredentialId → Bool) :
    Orchestration snapshot ω SelectedRouteCredential :=
  .of fun call =>
    let disturbed := call.disturbed env
    let (candidate, candidates, call', lease) := disturbed.shared.candidates.selectEligible routeId
      (leaseUnderWay env quotaAdmits observedAtMs isCandidateEligible isBindingEligible)
      (disturbed, none)
    (match candidate, lease with
      | some candidate, some lease => .ok { candidate, lease }
      | _, _ => .error credentialUnavailableError,
      { call' with shared := { call'.shared with candidates } })

/-- The fixed arguments of a call. -/
structure Request where
  config : AttemptOrchestratorConfig
  requestId : Option RequestId
  routeId : RouteId
  isCandidateEligible : SnapshotRouteCandidate → Bool

variable (request : Request)

def selectEligibleAndLease (exclusions : AttemptExclusionSet) (observedAtMs : ℤ) :
    Orchestration snapshot ω SelectedRouteCredential :=
  selectAndLease env bindingQuotaIsAvailable request.routeId observedAtMs
    request.isCandidateEligible
    fun candidate credentialId => !exclusions.contains candidate credentialId

def selectEligibleAndLeaseForQuotaRecovery (exclusions : AttemptExclusionSet) (observedAtMs : ℤ) :
    Orchestration snapshot ω SelectedRouteCredential :=
  selectAndLease env bindingQuotaIsRecoveryDue request.routeId observedAtMs
    request.isCandidateEligible fun candidate credentialId =>
      !exclusions.contains candidate credentialId

def quotaTarget (selection : SelectedRouteCredential) : RuntimeQuotaTarget :=
  .endpointCredential selection.candidate.endpointId selection.lease.credentialId

/-- A binding whose quota is past its reset, with the ticket for its recovery. Every failure of this
admits nothing. -/
def beginQuotaRecoveryProbeSelection (exclusions : AttemptExclusionSet) (observedAtMs : ℤ)
    (startCeiling : Duration) :
    Orchestration snapshot ω (SelectedRouteCredential × RuntimeQuotaRecoveryProbe) := do
  let selection ← selectEligibleAndLeaseForQuotaRecovery env request exclusions observedAtMs
  holding selection do
    let expiresAtMs ← liftM (addDurationToTimestamp observedAtMs
      (saturatingAdd startCeiling quotaRecoveryProbeGrace))
    let probe ← onQuota env (beginRecoveryProbe (quotaTarget selection) expiresAtMs)
    let probe ← okOr probe credentialUnavailableError
    return (selection, probe)

/-- A binding for the next Attempt: an ordinary one, or else one for a quota recovery. -/
def selectBinding (budget : RetryBudget) (exclusions : AttemptExclusionSet)
    (lastFailure : Option GatewayError) (observedAtMs : ℤ) :
    Orchestration snapshot ω (SelectedRouteCredential × Option RuntimeQuotaRecoveryProbe) := do
  match ← outcomeOf (selectEligibleAndLease env request exclusions observedAtMs) with
  | .ok selection => return (selection, none)
  | .error error =>
    let remaining ← liftM ((budget.remainingAt observedAtMs).mapError fun _ =>
      lastFailure.getD error)
    let startCeiling ← ask (env.startTimeout remaining)
    match ← outcomeOf (beginQuotaRecoveryProbeSelection env request exclusions observedAtMs
      startCeiling) with
    | .ok (selection, probe) => return (selection, some probe)
    | .error _ => throw (lastFailure.getD error)

/-- The recovery of a target is reported; where that fails the target stays blocked. -/
def completeQuotaRecoveryProbe (probe : RuntimeQuotaRecoveryProbe) :
    Orchestration snapshot ω Unit := do
  let _ ← outcomeOf (do
    let observedAtMs ← nowMs env
    let recovered ← liftM ((QuotaSnapshot.tryNew probe.target [] .estimated .estimated
      observedAtMs).mapError fun _ => internalError)
    onQuota env (completeRecoveryProbe probe recovered))

/-! ### One Attempt -/

def recordRuntimeState (selection : SelectedRouteCredential) (failure : AttemptFailure) :
    Orchestration snapshot ω Unit :=
  let endpointId := selection.candidate.endpointId
  let credentialId := selection.lease.credentialId
  match failure with
  | .nonRetryable error =>
    if error.code = .credentialUnauthorized then
      onHealth env (markCredentialUnauthorized endpointId credentialId)
    else if error.code = .credentialForbidden then
      onHealth env (markCredentialForbidden endpointId credentialId)
    else
      return ()
  | .rateLimited retryAfter => do
    let observedAtMs ← nowMs env
    let _ ← onQuota env (recordRateLimited (quotaTarget selection) observedAtMs retryAfter
      request.config.rateLimitFallbackCooldown)
  | failure =>
    match failure.cooldown request.config with
    | none => return ()
    | some (.endpoint duration) => do
      let observedAtMs ← nowMs env
      let untilMs ← liftM (addDurationToTimestamp observedAtMs duration)
      onHealth env (coolDownUntil (.endpoint endpointId) untilMs)

/-- Reports the outcome of an invocation of the driver, where the request has an identity. -/
def emitAttempt (start : Start) (outcome : AttemptOutcome) (retryDecision : AttemptRetryDecision) :
    Orchestration snapshot ω Unit :=
  match request.requestId with
  | none => return ()
  | some requestId => do
    let reading ← ask env.nowMs
    let endedAtMs := match reading with
      | .ok endedAtMs => endedAtMs
      | .error _ => start.startedAtMs
    let candidate := start.selection.candidate
    note (.emitted (AttemptEvent.new requestId start.attemptNumber request.routeId candidate.id
      start.selection.lease.credentialId candidate.endpointId candidate.upstreamId
      candidate.upstreamModel start.startedAtMs endedAtMs outcome retryDecision))

/-- The call ends with an error, which is reported. -/
def failWith (start : Start) (reported : GatewayError) (retryDecision : AttemptRetryDecision)
    (error : GatewayError) : Orchestration snapshot ω α := do
  emitAttempt env request start (.failed reported) retryDecision
  throw error

/-- How an Attempt can leave the loop going. -/
inductive Turn (Output : Type)
  | succeeded (output : Output)
  | retry (failure : GatewayError)

def succeed (start : Start) (quotaProbe : Option RuntimeQuotaRecoveryProbe) (output : Output) :
    Orchestration snapshot ω (Turn Output) := do
  quotaProbe.forM (completeQuotaRecoveryProbe env)
  if ← isCancelled env then
    failWith env request start requestCancelledError .cancelled requestCancelledError
  else do
    emitAttempt env request start .succeeded .completed
    return .succeeded output

/-- A failure after the runtime state was recorded. The source asks for the cancellation in both of
its branches. -/
def retryOrFail (start : Start) (failure : AttemptFailure) :
    Orchestration snapshot ω (Turn Output) := do
  if ← isCancelled env then
    failWith env request start failure.safeError .cancelled requestCancelledError
  else if failure.isRetryable then
    if ← allowsTransparentRetry env then do
      emitAttempt env request start (.failed failure.safeError) .retryEligible
      return .retry failure.safeError
    else
      failWith env request start failure.safeError .retryClosed failure.safeError
  else
    failWith env request start failure.safeError .nonRetryable failure.safeError

def fail (start : Start) (failure : AttemptFailure) : Orchestration snapshot ω (Turn Output) :=
  match failure with
  | .cancelled => failWith env request start requestCancelledError .cancelled requestCancelledError
  | failure => do
    match ← outcomeOf (recordRuntimeState env request start.selection failure) with
    | .error error => failWith env request start error .infrastructureFailure error
    | .ok () => retryOrFail env request start failure

/-- One turn of the loop, from the selection of a binding on. -/
def attempt (budget : RetryBudget) (lastFailure : Option GatewayError)
    (selection : SelectedRouteCredential) (quotaProbe : Option RuntimeQuotaRecoveryProbe) :
    Orchestration snapshot ω (Turn Output) := do
  let startedAtMs ← nowMs env
  ensure (budget.canStartAt startedAtMs) (lastFailure.getD egressUnavailableError)
  let remainingBootstrap ← liftM (budget.remainingAt startedAtMs)
  -- the count is a 64-bit number already, so that its conversion never fails
  let start : Start := ⟨budget.recordStart.attemptsStarted, startedAtMs, selection⟩
  let timeout ← ask (env.startTimeout remainingBootstrap)
  note (.started start)
  let race ← ask (env.race selection timeout remainingBootstrap)
  match race.result with
  | .ok output => succeed env request start quotaProbe output
  | .error failure => fail env request start failure

/-! ### The loop -/

structure StartedAttempt (Output : Type) where
  selection : SelectedRouteCredential
  output : Output
  attemptsStarted : ℕ

/-- The loop. Every turn that goes on has started the driver once more. -/
def attempts (budget : RetryBudget) (exclusions : AttemptExclusionSet)
    (lastFailure : Option GatewayError) : Orchestration snapshot ω (StartedAttempt Output) := do
  ensure (!(← isCancelled env)) requestCancelledError
  let observedAtMs ← nowMs env
  if _ : budget.canStartAt observedAtMs then do
    let (selection, quotaProbe) ← selectBinding env request budget exclusions lastFailure
      observedAtMs
    match ← holding selection (attempt env request budget lastFailure selection quotaProbe) with
    | .succeeded output => return ⟨selection, output, budget.recordStart.attemptsStarted⟩
    | .retry failure =>
      modify (·.drop selection)
      attempts budget.recordStart
        (exclusions.insert selection.candidate selection.lease.credentialId) (some failure)
  else throw (lastFailure.getD egressUnavailableError)
termination_by budget.maxAttempts - budget.attemptsStarted
decreasing_by
  have h : budget.canStartAt observedAtMs = true := by assumption
  have hstarted := budget.attemptsStarted_recordStart h
  simp only [RetryBudget.canStartAt, Bool.and_eq_true, decide_eq_true_eq] at h
  have hmax : budget.recordStart.maxAttempts = budget.maxAttempts := rfl
  omega

/-- One call: with `Request.requestId` the source's `start_with_event_sink`, without it `start`. -/
def startInner : Orchestration snapshot ω (StartedAttempt Output) := do
  ensure (!(← isCancelled env)) requestCancelledError
  let route ← okOr (snapshot.route request.routeId) credentialUnavailableError
  let observedAtMs ← nowMs env
  let budget ← liftM (RetryBudget.fromRoute route observedAtMs)
  attempts env request budget .new none

end Operations

end CpaGateway.Router.AttemptOrchestrator
