import CpaGateway.Router.RuntimeHealth

/-! # The runtime quota registry

Quota snapshots of the bindings of Credentials to Endpoints, and the controlled recovery of a
binding whose quota was exhausted. A snapshot and its windows can only be built by their checked
constructors; the structures carry what those check. As in the health registry, an operation gets
the reading of the clock as an argument, and runs under the lock of one shard. -/

namespace CpaGateway.Router.RuntimeQuota

open Core.Identity Router.RuntimeHealth Lib.Effect Lib.Fallible Lib.Sharded

/-! ### Targets, windows and snapshots -/

/-- What a quota belongs to. -/
inductive RuntimeQuotaTarget
  | endpointCredential (endpointId : EndpointId) (credentialId : CredentialId)
  | endpointCredentialModel (endpointId : EndpointId) (credentialId : CredentialId)
      (upstreamModel : String) (nonempty : upstreamModel ≠ "")
  deriving DecidableEq

inductive RuntimeQuotaTargetError
  | emptyUpstreamModel
  deriving DecidableEq

/-- The checked constructor of a target for one model. -/
def RuntimeQuotaTarget.tryEndpointCredentialModel (endpointId : EndpointId)
    (credentialId : CredentialId) (upstreamModel : String) :
    Except RuntimeQuotaTargetError RuntimeQuotaTarget :=
  if h : upstreamModel = "" then .error .emptyUpstreamModel
  else .ok (.endpointCredentialModel endpointId credentialId upstreamModel h)

inductive QuotaSource
  | header
  | billing
  | rest
  | grpc
  | estimated
  deriving DecidableEq

inductive QuotaConfidence
  | authoritative
  | observed
  | estimated
  deriving DecidableEq

def maxQuotaWindowsPerSnapshot : ℕ := 8

def maxQuotaWindowLabelBytes : ℕ := 64

inductive QuotaWindowError
  | emptyLabel
  | labelTooLong
  | remainingExceedsLimit
  deriving DecidableEq

/-- What remains cannot exceed the limit, when both are reported. -/
def withinLimit (limit remaining : Option ℕ) : Bool :=
  match limit, remaining with
  | some limit, some remaining => remaining ≤ limit
  | _, _ => true

/-- One quota window, as a source reported it. -/
structure QuotaWindow where
  label : String
  limit : Option ℕ
  remaining : Option ℕ
  resetAtMs : Option ℤ
  named : label ≠ ""
  short : label.utf8ByteSize ≤ maxQuotaWindowLabelBytes
  within : withinLimit limit remaining = true
  deriving DecidableEq

def QuotaWindow.tryNew (label : String) (limit remaining : Option ℕ) (resetAtMs : Option ℤ) :
    Except QuotaWindowError QuotaWindow :=
  if hnamed : label = "" then .error .emptyLabel
  else if hshort : maxQuotaWindowLabelBytes < label.utf8ByteSize then .error .labelTooLong
  else if hwithin : withinLimit limit remaining = true then
    .ok ⟨label, limit, remaining, resetAtMs, hnamed, Nat.le_of_not_lt hshort, hwithin⟩
  else .error .remainingExceedsLimit

def QuotaWindow.isExhausted (window : QuotaWindow) : Bool := window.remaining = some 0

inductive QuotaSnapshotError
  | tooManyWindows
  | duplicateWindowLabel
  | exhaustedWindowWithoutFutureReset
  | estimatedSourceConfidenceMismatch
  deriving DecidableEq

/-- An exhausted window says when it is reset, and that is after the observation. -/
def hasFutureReset (observedAtMs : ℤ) (window : QuotaWindow) : Bool :=
  !window.isExhausted || match window.resetAtMs with
    | some resetAtMs => observedAtMs < resetAtMs
    | none => false

/-- The checks of the windows in turn; `labels` are those already seen. -/
def checkWindows (observedAtMs : ℤ) : List String → List QuotaWindow →
      Except QuotaSnapshotError Unit
  | _, [] => .ok ()
  | labels, window :: windows =>
    if window.label ∈ labels then .error .duplicateWindowLabel
    else if hasFutureReset observedAtMs window then
      checkWindows observedAtMs (window.label :: labels) windows
    else .error .exhaustedWindowWithoutFutureReset

/-- The quota of a target, as observed at one time. -/
structure QuotaSnapshot where
  target : RuntimeQuotaTarget
  windows : List QuotaWindow
  source : QuotaSource
  confidence : QuotaConfidence
  observedAtMs : ℤ
  bounded : windows.length ≤ maxQuotaWindowsPerSnapshot
  checked : checkWindows observedAtMs [] windows = .ok ()
  estimated : source = .estimated ↔ confidence = .estimated
  deriving DecidableEq

def QuotaSnapshot.tryNew (target : RuntimeQuotaTarget) (windows : List QuotaWindow)
    (source : QuotaSource) (confidence : QuotaConfidence) (observedAtMs : ℤ) :
    Except QuotaSnapshotError QuotaSnapshot :=
  if hbounded : maxQuotaWindowsPerSnapshot < windows.length then .error .tooManyWindows
  else match hchecked : checkWindows observedAtMs [] windows with
    | .error e => .error e
    | .ok () =>
      if hestimated : source = .estimated ↔ confidence = .estimated then
        .ok ⟨target, windows, source, confidence, observedAtMs, Nat.le_of_not_lt hbounded, hchecked,
          hestimated⟩
      else .error .estimatedSourceConfidenceMismatch

variable {observedAtMs : ℤ} {windows : List QuotaWindow}

theorem checkWindows_ok_iff {labels : List String} :
    checkWindows observedAtMs labels windows = .ok () ↔
      (∀ window ∈ windows, window.label ∉ labels) ∧ (windows.map (·.label)).Nodup ∧
        ∀ window ∈ windows, hasFutureReset observedAtMs window = true := by
  induction windows generalizing labels with
  | nil => simp [checkWindows]
  | cons window windows ih =>
    rw [checkWindows]
    split_ifs with hseen hreset
    · simp [hseen]
    · rw [ih]
      rw [List.forall_mem_cons, List.forall_mem_cons, List.map_cons, List.nodup_cons]
      simp only [List.mem_cons, not_or]
      constructor
      · rintro ⟨hfresh, hnodup, hall⟩
        refine ⟨⟨hseen, fun w hw => (hfresh w hw).2⟩, ⟨fun hmem => ?_, hnodup⟩, hreset, hall⟩
        obtain ⟨w, hw, heq⟩ := List.mem_map.mp hmem
        exact (hfresh w hw).1 heq
      · rintro ⟨⟨-, hold⟩, ⟨hne, hnodup⟩, -, hall⟩
        refine ⟨fun w hw => ⟨fun heq => ?_, hold w hw⟩, hnodup, hall⟩
        exact hne (List.mem_map.mpr ⟨w, hw, heq⟩)
    · simp [hreset]

variable {target : RuntimeQuotaTarget} {snapshot : QuotaSnapshot}

theorem QuotaSnapshot.tryNew_ok_iff {source : QuotaSource} {confidence : QuotaConfidence} :
    tryNew target windows source confidence observedAtMs = .ok snapshot ↔
      windows.length ≤ maxQuotaWindowsPerSnapshot ∧ checkWindows observedAtMs [] windows = .ok () ∧
        (source = .estimated ↔ confidence = .estimated) ∧ snapshot.target = target ∧
        snapshot.windows = windows ∧ snapshot.source = source ∧ snapshot.confidence = confidence ∧
        snapshot.observedAtMs = observedAtMs := by
  unfold tryNew
  constructor
  · intro h
    split_ifs at h with hlong hestimated
    all_goals split at h
    all_goals cases h
    exact ⟨Nat.le_of_not_lt hlong, ‹_›, hestimated, rfl, rfl, rfl, rfl, rfl⟩
  · rintro ⟨hshort, hchecked, hestimated, rfl, rfl, rfl, rfl, rfl⟩
    rw [dif_neg (Nat.not_lt.mpr hshort)]
    split
    · rename_i e he
      rw [hchecked] at he
      cases he
    · rw [dif_pos hestimated]

/-- The last reset of the exhausted windows. -/
def QuotaSnapshot.blockingResetAtMs (snapshot : QuotaSnapshot) : Option ℤ :=
  ((snapshot.windows.filter QuotaWindow.isExhausted).filterMap QuotaWindow.resetAtMs).max?

/-- Some window is exhausted. -/
def QuotaSnapshot.isExhausted (snapshot : QuotaSnapshot) : Bool :=
  snapshot.windows.any QuotaWindow.isExhausted

/-- A snapshot with an exhausted window says when its block ends, and only such a snapshot does. -/
theorem QuotaSnapshot.blockingResetAtMs_eq_none (snapshot : QuotaSnapshot) :
    snapshot.blockingResetAtMs = none ↔ snapshot.isExhausted = false := by
  unfold blockingResetAtMs isExhausted
  rw [List.max?_eq_none_iff, List.filterMap_eq_nil_iff, List.any_eq_false]
  constructor
  · intro h window hw hexhausted
    have hreset := (checkWindows_ok_iff.mp snapshot.checked).2.2 window hw
    have hnone := h window (List.mem_filter.mpr ⟨hw, hexhausted⟩)
    simp [hasFutureReset, hexhausted, hnone] at hreset
  · intro h window hw
    exact absurd (List.mem_filter.mp hw).2 (h window (List.mem_filter.mp hw).1)

/-! ### The registry -/

/-- The effective quota state of a target. -/
inductive RuntimeQuotaAvailability
  | available
  | exhausted (resetAtMs : ℤ)
  | recoveryRequired (resetAtMs : ℤ)
  | recoveryProbeInFlight (resetAtMs expiresAtMs : ℤ)
  deriving DecidableEq

def RuntimeQuotaAvailability.isAvailable (availability : RuntimeQuotaAvailability) : Bool :=
  availability = .available

/-- The ticket of a controlled recovery. -/
structure RuntimeQuotaRecoveryProbe where
  target : RuntimeQuotaTarget
  probeId : ℕ
  expiresAtMs : ℤ
  deriving DecidableEq

inductive RuntimeQuotaError
  | clock (error : RuntimeHealthClockError)
  | shardCapacityExceeded
  | observationTimeRegressed
  | recoveryProbeDeadlineNotInFuture
  | recoveryProbeIdOverflow
  | staleRecoveryProbe
  | recoverySnapshotTargetMismatch
  | fallbackDurationOverflow
  | fallbackDurationNotPositive
  deriving DecidableEq

/-- The ticket that a target waits for. -/
structure RuntimeQuotaRecoveryProbeState where
  probeId : ℕ
  expiresAtMs : ℤ
  deriving DecidableEq

structure RuntimeQuotaState where
  snapshot : QuotaSnapshot
  recoveryProbe : Option RuntimeQuotaRecoveryProbeState
  deriving DecidableEq

def RuntimeQuotaState.availabilityAt (nowMs : ℤ) (state : RuntimeQuotaState) :
    RuntimeQuotaAvailability :=
  match state.snapshot.blockingResetAtMs with
  | none => .available
  | some resetAtMs =>
    if nowMs < resetAtMs then .exhausted resetAtMs
    else match state.recoveryProbe with
      | some probe =>
        if nowMs < probe.expiresAtMs then .recoveryProbeInFlight resetAtMs probe.expiresAtMs
        else .recoveryRequired resetAtMs
      | none => .recoveryRequired resetAtMs

def defaultRuntimeQuotaShardCount : ℕ := 64

def maxRuntimeQuotaEntriesPerShard : ℕ := 1024

structure RuntimeQuotaRegistry where
  states : Store RuntimeQuotaTarget RuntimeQuotaState
  nextRecoveryProbeId : ℕ

/-- A registry without entries. -/
def withShards (hash : RuntimeQuotaTarget → ℕ) (shardCount : ℕ) : RuntimeQuotaRegistry where
  states := .empty (maskedIndex hash shardCount)
  nextRecoveryProbeId := 1

def new (hash : RuntimeQuotaTarget → ℕ) : RuntimeQuotaRegistry :=
  withShards hash defaultRuntimeQuotaShardCount

namespace RuntimeQuotaRegistry

variable (r : RuntimeQuotaRegistry)

def entry (target : RuntimeQuotaTarget) : Option RuntimeQuotaState :=
  r.states.get? target

def availabilityAt (target : RuntimeQuotaTarget) (nowMs : ℤ) : RuntimeQuotaAvailability :=
  match r.entry target with
  | some state => state.availabilityAt nowMs
  | none => .available

def availability (target : RuntimeQuotaTarget) (clock : Reading) :
    Except RuntimeQuotaError RuntimeQuotaAvailability :=
  (clock.mapError .clock).map (r.availabilityAt target)

/-- Whether a target is available; a failure of the clock counts as unavailable. -/
def isAvailable (target : RuntimeQuotaTarget) (clock : Reading) : Bool :=
  (r.availability target clock).toOption.any (·.isAvailable)

def endpointCredentialIsAvailable (endpointId : EndpointId)
    (credentialId : CredentialId) (clock : Reading) : Bool :=
  r.isAvailable (.endpointCredential endpointId credentialId) clock

/-- An empty model label counts as unavailable. -/
def endpointCredentialModelIsAvailable (endpointId : EndpointId)
    (credentialId : CredentialId) (upstreamModel : String) (clock : Reading) : Bool :=
  (RuntimeQuotaTarget.tryEndpointCredentialModel endpointId credentialId
    upstreamModel).toOption.any (r.isAvailable · clock)

end RuntimeQuotaRegistry

/-! ### Operations -/

abbrev Operation (α : Type) := Method RuntimeQuotaRegistry RuntimeQuotaError α

def nowMs (clock : Reading) : Operation ℤ := liftM (clock.mapError RuntimeQuotaError.clock)

def insertState (target : RuntimeQuotaTarget) (state : RuntimeQuotaState) : Operation Unit :=
  modify fun r => { r with states := r.states.insert target state }

/-- Room is made by dropping what is available anyway. -/
def ensureInsertCapacity (target : RuntimeQuotaTarget) (nowMs : ℤ) : Operation Unit :=
  .onPart RuntimeQuotaRegistry.states (fun r states => { r with states := states }) id
    (reserve maxRuntimeQuotaEntriesPerShard (fun state => !(state.availabilityAt nowMs).isAvailable)
      .shardCapacityExceeded target)

def recordSnapshot (snapshot : QuotaSnapshot) (clock : Reading) : Operation QuotaSnapshot := do
  let target := snapshot.target
  let now ← nowMs clock
  match (← get).entry target with
  | some previous =>
    ensure (decide (previous.snapshot.observedAtMs ≤ snapshot.observedAtMs))
      .observationTimeRegressed
  | none => ensureInsertCapacity target now
  insertState target ⟨snapshot, none⟩
  return snapshot

/-- A time span, to the nanosecond. -/
structure Duration where
  asNanos : ℕ
  deriving DecidableEq

def Duration.isZero (duration : Duration) : Bool := duration.asNanos = 0

def Duration.asMillis (duration : Duration) : ℕ := duration.asNanos / 10 ^ 6

/-- The largest timestamp. -/
def maxTimestampMs : ℤ := 2 ^ 63 - 1

def addDurationToTimestamp (nowMs : ℤ) (duration : Duration) : Except RuntimeQuotaError ℤ := do
  ensure (decide ((duration.asMillis : ℤ) ≤ maxTimestampMs)) .fallbackDurationOverflow
  ensure (decide (nowMs + duration.asMillis ≤ maxTimestampMs)) .fallbackDurationOverflow
  return nowMs + duration.asMillis

/-- The span after which a rate limit is reset, and where it is known from. -/
def rateLimitEvidence (retryAfter : Option Duration) (fallback : Duration) :
    Duration × QuotaSource × QuotaConfidence :=
  match retryAfter.filter (!·.isZero) with
  | some duration => (duration, .header, .observed)
  | none => (fallback, .estimated, .estimated)

/-- The snapshot of a rate-limited response: one window without anything remaining. -/
def rateLimitedSnapshot (target : RuntimeQuotaTarget) (observedAtMs : ℤ)
    (retryAfter : Option Duration) (fallback : Duration) :
    Except RuntimeQuotaError QuotaSnapshot := do
  let (duration, source, confidence) := rateLimitEvidence retryAfter fallback
  ensure (!duration.isZero) .fallbackDurationNotPositive
  let resetAtMs ← addDurationToTimestamp observedAtMs duration
  let window ← (QuotaWindow.tryNew "rate_limit" none (some 0) (some resetAtMs)).mapError
    fun _ => .fallbackDurationOverflow
  (QuotaSnapshot.tryNew target [window] source confidence observedAtMs).mapError
    fun _ => .fallbackDurationOverflow

variable {retryAfter : Option Duration} {fallback : Duration}

theorem of_rateLimitedSnapshot
    (h : rateLimitedSnapshot target observedAtMs retryAfter fallback = .ok snapshot) :
    snapshot.target = target ∧ snapshot.observedAtMs = observedAtMs ∧
      snapshot.isExhausted = true := by
  simp only [rateLimitedSnapshot, except_ok, QuotaSnapshot.tryNew_ok_iff] at h
  obtain ⟨-, -, resetAtMs, -, window, hwindow, -, -, -, htarget, hwindows, -, -, hobserved⟩ := h
  refine ⟨htarget, hobserved, ?_⟩
  unfold QuotaWindow.tryNew at hwindow
  split_ifs at hwindow
  cases hwindow
  simp [QuotaSnapshot.isExhausted, hwindows, QuotaWindow.isExhausted]

/-- A rate limit can be recorded when it lasts a whole millisecond at least. -/
theorem exists_rateLimitedSnapshot :
    (∃ snapshot, rateLimitedSnapshot target observedAtMs retryAfter fallback = .ok snapshot) ↔
      let span := (rateLimitEvidence retryAfter fallback).1
      0 < span.asMillis ∧ (span.asMillis : ℤ) ≤ maxTimestampMs ∧
        observedAtMs + span.asMillis ≤ maxTimestampMs := by
  rcases hevidence : rateLimitEvidence retryAfter fallback with ⟨span, source, confidence⟩
  have hestimated : source = .estimated ↔ confidence = .estimated := by
    unfold rateLimitEvidence at hevidence
    split at hevidence <;> cases hevidence <;> simp
  obtain ⟨window, hwindow, hreset⟩ : ∃ window,
      QuotaWindow.tryNew "rate_limit" none (some 0) (some (observedAtMs + span.asMillis)) =
        .ok window ∧
        hasFutureReset observedAtMs window = decide (observedAtMs < observedAtMs + span.asMillis) :=
    ⟨_, rfl, rfl⟩
  have hchecked : checkWindows observedAtMs [] [window] = .ok () ↔ 0 < span.asMillis := by
    have hlt : observedAtMs < observedAtMs + span.asMillis ↔ 0 < span.asMillis := by omega
    simp [checkWindows_ok_iff, hreset, hlt]
  simp only [rateLimitedSnapshot, hevidence, addDurationToTimestamp, except_ok, decide_eq_true_eq]
  constructor
  · rintro ⟨recorded, -, -, _, ⟨-, hspan, -, hfits, rfl⟩, _, hok, hsnapshot⟩
    cases hok.symm.trans hwindow
    exact ⟨hchecked.mp (QuotaSnapshot.tryNew_ok_iff.mp hsnapshot).2.1, hspan, hfits⟩
  · rintro ⟨hpositive, hspan, hfits⟩
    have hnonzero : span.isZero = false := decide_eq_false fun hzero => by
      simp [Duration.asMillis, hzero] at hpositive
    have hshort : [window].length ≤ maxQuotaWindowsPerSnapshot := by
      simp [maxQuotaWindowsPerSnapshot]
    exact ⟨⟨target, [window], source, confidence, observedAtMs, hshort, hchecked.mpr hpositive,
      hestimated⟩, (), by simp [hnonzero], _, ⟨(), hspan, (), hfits, rfl⟩, window, hwindow,
      QuotaSnapshot.tryNew_ok_iff.mpr
      ⟨hshort, hchecked.mpr hpositive, hestimated, rfl, rfl, rfl, rfl, rfl⟩⟩

def recordRateLimited (target : RuntimeQuotaTarget) (observedAtMs : ℤ)
    (retryAfter : Option Duration) (fallback : Duration) (clock : Reading) :
    Operation QuotaSnapshot := do
  let snapshot ← liftM (rateLimitedSnapshot target observedAtMs retryAfter fallback)
  recordSnapshot snapshot clock

def takeRecoveryProbeId : Operation ℕ := do
  let probeId := (← get).nextRecoveryProbeId
  ensure (decide (probeId < maxProbeId)) .recoveryProbeIdOverflow
  modify fun r => { r with nextRecoveryProbeId := probeId + 1 }
  return probeId

/-- All exhausted windows have been reset, and no ticket is under way. -/
def RuntimeQuotaState.dueForRecovery (nowMs : ℤ) (state : RuntimeQuotaState) : Bool :=
  match state.snapshot.blockingResetAtMs with
  | none => false
  | some resetAtMs => resetAtMs ≤ nowMs &&
    match state.recoveryProbe with
    | some probe => probe.expiresAtMs ≤ nowMs
    | none => true

def beginRecoveryProbe (target : RuntimeQuotaTarget) (expiresAtMs : ℤ) (clock : Reading) :
    Operation (Option RuntimeQuotaRecoveryProbe) := do
  let now ← nowMs clock
  ensure (decide (now < expiresAtMs)) .recoveryProbeDeadlineNotInFuture
  match (← get).entry target with
  | none => return none
  | some state =>
    if state.dueForRecovery now then do
      let probeId ← takeRecoveryProbeId
      insertState target { state with recoveryProbe := some ⟨probeId, expiresAtMs⟩ }
      return some ⟨target, probeId, expiresAtMs⟩
    else
      return none

def completeRecoveryProbe (probe : RuntimeQuotaRecoveryProbe) (snapshot : QuotaSnapshot)
    (clock : Reading) : Operation QuotaSnapshot := do
  ensure (decide (probe.target = snapshot.target)) .recoverySnapshotTargetMismatch
  let now ← nowMs clock
  let state ← okOr ((← get).entry probe.target) .staleRecoveryProbe
  let current ← okOr state.recoveryProbe .staleRecoveryProbe
  ensure (!(current.probeId != probe.probeId || current.expiresAtMs != probe.expiresAtMs ||
    decide (current.expiresAtMs ≤ now) ||
    decide (snapshot.observedAtMs < state.snapshot.observedAtMs))) .staleRecoveryProbe
  insertState probe.target ⟨snapshot, none⟩
  return snapshot

end CpaGateway.Router.RuntimeQuota
