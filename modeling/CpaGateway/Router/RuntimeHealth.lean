import CpaGateway.Core.Identity
import CpaGateway.Lib.Sharded

/-! # The runtime health registry

Transient availability of Endpoints and Credentials: cooldowns, circuits with their half-open
recovery probes, and blocked provider accounts with their recovery tickets. Every operation takes
the lock of one shard, so concurrent callers run some sequence of the methods below. The clock is
read before the lock is taken; a method gets its reading as an argument. No code panics under a
lock, so locks are never poisoned. Times are unbounded integers: they are only compared. -/

namespace CpaGateway.Router.RuntimeHealth

open Core.Identity Lib.Effect Lib.Fallible Lib.Sharded

/-! ### Keys and states -/

/-- What a state belongs to. -/
inductive RuntimeHealthKey
  | endpoint (endpointId : EndpointId)
  | endpointCredential (endpointId : EndpointId) (credentialId : CredentialId)
  | endpointCredentialModel (endpointId : EndpointId) (credentialId : CredentialId)
      (upstreamModel : String)
  deriving DecidableEq

/-- The effective eligibility of a key. -/
inductive RuntimeHealthAvailability
  | available
  | coolingDown (untilMs : ℤ)
  | circuitOpen (retryAfterMs : ℤ)
  | accountForbidden
  | credentialUnauthorized
  | accountRecoveryInFlight (expiresAtMs : ℤ)
  deriving DecidableEq

/-- Everything else blocks. -/
def RuntimeHealthAvailability.isAvailable (availability : RuntimeHealthAvailability) : Bool :=
  availability = .available

/-- The account status of one binding of a Credential to an Endpoint. -/
inductive RuntimeCredentialAccountStatus
  | available
  | forbidden
  | unauthorized
  | recoveryInFlight (expiresAtMs : ℤ)
  deriving DecidableEq

/-- The ticket of a half-open probe. -/
structure RuntimeHealthCircuitProbe where
  key : RuntimeHealthKey
  probeId : ℕ
  expiresAtMs : ℤ
  deriving DecidableEq

/-- The ticket of a recovery. -/
structure RuntimeHealthAccountRecoveryProbe where
  key : RuntimeHealthKey
  probeId : ℕ
  expiresAtMs : ℤ
  deriving DecidableEq

/-- What a probe found. -/
inductive RuntimeHealthCircuitProbeResult
  | healthy
  | unhealthy (retryAfterMs : ℤ)
  deriving DecidableEq

/-- What a recovery found. -/
inductive RuntimeHealthAccountRecoveryResult
  | allowed
  | forbidden
  deriving DecidableEq

/-- The clock has no time to offer. -/
inductive RuntimeHealthClockError
  | unavailable
  deriving DecidableEq

/-- Why a call is refused. -/
inductive RuntimeHealthError
  | clock (error : RuntimeHealthClockError)
  | deadlineNotInFuture
  | shardCapacityExceeded
  | circuitProbeIdOverflow
  | staleCircuitProbe
  | accountRecoveryProbeIdOverflow
  | staleAccountRecoveryProbe
  deriving DecidableEq

/-- The stored state of a key. -/
inductive RuntimeHealthState
  | coolingDown (untilMs : ℤ)
  | circuitOpen (retryAfterMs : ℤ)
  | circuitHalfOpen (retryAfterMs : ℤ) (probeId : ℕ) (probeExpiresAtMs : ℤ)
  | accountForbidden
  | credentialUnauthorized
  | accountRecoveryInFlight (probeId : ℕ) (recoveryExpiresAtMs : ℤ)
  deriving DecidableEq

namespace RuntimeHealthState

/-- A half-open circuit is still open for others. -/
def availabilityAt (nowMs : ℤ) : RuntimeHealthState → RuntimeHealthAvailability
  | coolingDown untilMs => if nowMs < untilMs then .coolingDown untilMs else .available
  | circuitOpen retryAfterMs | circuitHalfOpen retryAfterMs _ _ => .circuitOpen retryAfterMs
  | accountRecoveryInFlight _ expiresAtMs =>
    if nowMs < expiresAtMs then .accountRecoveryInFlight expiresAtMs else .accountForbidden
  | credentialUnauthorized => .credentialUnauthorized
  | accountForbidden => .accountForbidden

/-- Cooldowns and circuits say nothing about the account. -/
def accountStatusAt (nowMs : ℤ) : RuntimeHealthState → RuntimeCredentialAccountStatus
  | accountRecoveryInFlight _ expiresAtMs =>
    if nowMs < expiresAtMs then .recoveryInFlight expiresAtMs else .forbidden
  | credentialUnauthorized => .unauthorized
  | accountForbidden => .forbidden
  | coolingDown _ | circuitOpen _ | circuitHalfOpen .. => .available

/-- A state that can be dropped. -/
def isExpiredCooldown (nowMs : ℤ) : RuntimeHealthState → Bool
  | coolingDown untilMs => untilMs ≤ nowMs
  | _ => false

/-- The retry time that a half-open state keeps. -/
def retryAfterMs : RuntimeHealthState → ℤ
  | circuitOpen retryAfterMs | circuitHalfOpen retryAfterMs _ _ => retryAfterMs
  | coolingDown untilMs => untilMs
  | accountForbidden | credentialUnauthorized => 0
  | accountRecoveryInFlight _ expiresAtMs => expiresAtMs

end RuntimeHealthState

/-! ### The registry -/

/-- The shards of a registry. -/
def defaultRuntimeHealthShardCount : ℕ := 64

/-- The keys of a shard. -/
def maxRuntimeHealthEntriesPerShard : ℕ := 1024

/-- The states of the keys, and the next ticket of each of the two sequences. -/
structure RuntimeHealthRegistry where
  states : Store RuntimeHealthKey RuntimeHealthState
  nextCircuitProbeId : ℕ
  nextAccountRecoveryProbeId : ℕ

/-- A registry without entries. -/
def withShards (hash : RuntimeHealthKey → ℕ) (shardCount : ℕ) : RuntimeHealthRegistry where
  states := .empty (maskedIndex hash shardCount)
  nextCircuitProbeId := 1
  nextAccountRecoveryProbeId := 1

/-- A registry of the usual size. -/
def new (hash : RuntimeHealthKey → ℕ) : RuntimeHealthRegistry :=
  withShards hash defaultRuntimeHealthShardCount

namespace RuntimeHealthRegistry

variable (r : RuntimeHealthRegistry)

/-- The state of a key. -/
def entry (key : RuntimeHealthKey) : Option RuntimeHealthState :=
  r.states.get? key

/-- A key without a state is available. -/
def availabilityAt (key : RuntimeHealthKey) (nowMs : ℤ) : RuntimeHealthAvailability :=
  match r.entry key with
  | some state => state.availabilityAt nowMs
  | none => .available

/-- So is an account without one. -/
def credentialAccountStatusAt (endpointId : EndpointId)
    (credentialId : CredentialId) (nowMs : ℤ) : RuntimeCredentialAccountStatus :=
  match r.entry (.endpointCredential endpointId credentialId) with
  | some state => state.accountStatusAt nowMs
  | none => .available

end RuntimeHealthRegistry

/-! ### Operations -/

/-- A reading of the clock. -/
abbrev Reading := Except RuntimeHealthClockError ℤ

namespace RuntimeHealthRegistry

variable (r : RuntimeHealthRegistry)

/-- The availability at the time read. -/
def availability (key : RuntimeHealthKey) (clock : Reading) :
    Except RuntimeHealthError RuntimeHealthAvailability :=
  (clock.mapError .clock).map (r.availabilityAt key)

/-- Whether a key is available; a failure of the clock counts as unavailable. -/
def isAvailable (key : RuntimeHealthKey) (clock : Reading) : Bool :=
  (r.availability key clock).toOption.any (·.isAvailable)

/-- The check of an Endpoint. -/
def endpointIsAvailable (endpointId : EndpointId) (clock : Reading) : Bool :=
  r.isAvailable (.endpoint endpointId) clock

/-- The check of a binding. -/
def endpointCredentialIsAvailable (endpointId : EndpointId)
    (credentialId : CredentialId) (clock : Reading) : Bool :=
  r.isAvailable (.endpointCredential endpointId credentialId) clock

/-- The check of a model of a binding. -/
def endpointCredentialModelIsAvailable (endpointId : EndpointId)
    (credentialId : CredentialId) (upstreamModel : String) (clock : Reading) : Bool :=
  r.isAvailable (.endpointCredentialModel endpointId credentialId upstreamModel) clock

end RuntimeHealthRegistry

/-- A call on the registry. -/
abbrev Operation (α : Type) := Method RuntimeHealthRegistry RuntimeHealthError α

/-- A clock that fails refuses the call. -/
def nowMs (clock : Reading) : Operation ℤ := liftM (clock.mapError RuntimeHealthError.clock)

/-- A deadline lies in the future. -/
def validateDeadline (untilMs nowMs : ℤ) : Operation Unit :=
  ensure (decide (nowMs < untilMs)) .deadlineNotInFuture

/-- Sets the state of a key. -/
def insertState (key : RuntimeHealthKey) (state : RuntimeHealthState) : Operation Unit :=
  modify fun r => { r with states := r.states.insert key state }

/-- Makes a key available. -/
def removeState (key : RuntimeHealthKey) : Operation Unit :=
  modify fun r => { r with states := r.states.remove key }

/-- Room for a new key; a full shard drops its expired cooldowns first. -/
def ensureInsertCapacity (key : RuntimeHealthKey) (nowMs : ℤ) : Operation Unit :=
  .onPart RuntimeHealthRegistry.states (fun r states => { r with states := states }) id
    (reserve maxRuntimeHealthEntriesPerShard (fun state => !state.isExpiredCooldown nowMs)
      .shardCapacityExceeded key)

/-- Records a state for a key whatever its state was. -/
def markCredential (state : RuntimeHealthState) (endpointId : EndpointId)
    (credentialId : CredentialId) (clock : Reading) : Operation Unit := do
  let key := .endpointCredential endpointId credentialId
  let now ← nowMs clock
  match (← get).entry key with
  | some _ => insertState key state
  | none => do
    ensureInsertCapacity key now
    insertState key state

/-- The provider has refused the account. -/
def markCredentialForbidden : EndpointId → CredentialId → Reading → Operation Unit :=
  markCredential .accountForbidden

/-- The provider does not know the Credential. -/
def markCredentialUnauthorized : EndpointId → CredentialId → Reading → Operation Unit :=
  markCredential .credentialUnauthorized

/-- The largest value of the ticket sequences. -/
def maxProbeId : ℕ := 2 ^ 64 - 1

/-- The next number of a recovery. -/
def takeAccountRecoveryProbeId : Operation ℕ := do
  let probeId := (← get).nextAccountRecoveryProbeId
  ensure (decide (probeId < maxProbeId)) .accountRecoveryProbeIdOverflow
  modify fun r => { r with nextAccountRecoveryProbeId := probeId + 1 }
  return probeId

/-- The next number of a probe. -/
def takeCircuitProbeId : Operation ℕ := do
  let probeId := (← get).nextCircuitProbeId
  ensure (decide (probeId < maxProbeId)) .circuitProbeIdOverflow
  modify fun r => { r with nextCircuitProbeId := probeId + 1 }
  return probeId

/-- A blocked account may be recovered, and so may one whose last ticket has expired. -/
def dueForRecovery (nowMs : ℤ) : RuntimeHealthState → Bool
  | .accountForbidden | .credentialUnauthorized => true
  | .accountRecoveryInFlight _ existingExpiresAtMs => existingExpiresAtMs ≤ nowMs
  | .coolingDown _ | .circuitOpen _ | .circuitHalfOpen .. => false

/-- A ticket for a blocked account, if it is due. -/
def beginAccountRecovery (endpointId : EndpointId) (credentialId : CredentialId)
    (recoveryExpiresAtMs : ℤ) (clock : Reading) :
    Operation (Option RuntimeHealthAccountRecoveryProbe) := do
  let key := .endpointCredential endpointId credentialId
  let now ← nowMs clock
  validateDeadline recoveryExpiresAtMs now
  match (← get).entry key with
  | none => return none
  | some state =>
    if dueForRecovery now state then do
      let probeId ← takeAccountRecoveryProbeId
      insertState key (.accountRecoveryInFlight probeId recoveryExpiresAtMs)
      return some ⟨key, probeId, recoveryExpiresAtMs⟩
    else
      return none

/-- Only the current ticket counts, and only in time. -/
def completeAccountRecovery (probe : RuntimeHealthAccountRecoveryProbe)
    (result : RuntimeHealthAccountRecoveryResult) (clock : Reading) : Operation Unit := do
  let now ← nowMs clock
  match (← get).entry probe.key with
  | some (.accountRecoveryInFlight probeId recoveryExpiresAtMs) => do
    ensure (!(probeId != probe.probeId || recoveryExpiresAtMs != probe.expiresAtMs ||
      decide (recoveryExpiresAtMs ≤ now))) .staleAccountRecoveryProbe
    match result with
    | .allowed => removeState probe.key
    | .forbidden => insertState probe.key .accountForbidden
  | _ => throw .staleAccountRecoveryProbe

/-- A cooldown never shortens another, nor replaces a worse state. -/
def coolDownUntil (key : RuntimeHealthKey) (untilMs : ℤ) (clock : Reading) : Operation Unit := do
  let now ← nowMs clock
  validateDeadline untilMs now
  match (← get).entry key with
  | some (.circuitOpen _) | some (.circuitHalfOpen ..) | some .credentialUnauthorized
  | some .accountForbidden | some (.accountRecoveryInFlight ..) => return
  | some (.coolingDown existingUntilMs) =>
    insertState key (.coolingDown (max existingUntilMs untilMs))
  | none => do
    ensureInsertCapacity key now
    insertState key (.coolingDown untilMs)

/-- An open circuit outweighs a cooldown, not a blocked account. -/
def openCircuitUntil (key : RuntimeHealthKey) (retryAfterMs : ℤ) (clock : Reading) :
    Operation Unit := do
  let now ← nowMs clock
  validateDeadline retryAfterMs now
  match (← get).entry key with
  | some (.circuitOpen existingRetryAfterMs) | some (.circuitHalfOpen existingRetryAfterMs _ _) =>
    insertState key (.circuitOpen (max existingRetryAfterMs retryAfterMs))
  | some (.coolingDown _) => insertState key (.circuitOpen retryAfterMs)
  | some .credentialUnauthorized | some .accountForbidden | some (.accountRecoveryInFlight ..) =>
    return
  | none => do
    ensureInsertCapacity key now
    insertState key (.circuitOpen retryAfterMs)

/-- A success does not unblock an account. -/
def markHealthy (key : RuntimeHealthKey) : Operation Unit := do
  match (← get).entry key with
  | some .accountForbidden | some .credentialUnauthorized | some (.accountRecoveryInFlight ..) =>
    return
  | _ => removeState key

/-- A circuit may be probed from its retry time on, and again when its last ticket has expired. -/
def dueForProbe (nowMs : ℤ) : RuntimeHealthState → Bool
  | .circuitOpen retryAfterMs => retryAfterMs ≤ nowMs
  | .circuitHalfOpen _ _ probeExpiresAtMs => probeExpiresAtMs ≤ nowMs
  | .coolingDown _ | .credentialUnauthorized | .accountForbidden
  | .accountRecoveryInFlight .. => false

/-- A ticket for an open circuit, if it is due. -/
def beginCircuitProbe (key : RuntimeHealthKey) (probeExpiresAtMs : ℤ) (clock : Reading) :
    Operation (Option RuntimeHealthCircuitProbe) := do
  let now ← nowMs clock
  validateDeadline probeExpiresAtMs now
  match (← get).entry key with
  | none => return none
  | some state =>
    if dueForProbe now state then do
      let probeId ← takeCircuitProbeId
      insertState key (.circuitHalfOpen state.retryAfterMs probeId probeExpiresAtMs)
      return some ⟨key, probeId, probeExpiresAtMs⟩
    else
      return none

/-- A failed probe opens the circuit again. -/
def completeCircuitProbe (probe : RuntimeHealthCircuitProbe)
    (result : RuntimeHealthCircuitProbeResult) (clock : Reading) : Operation Unit := do
  let now ← nowMs clock
  match (← get).entry probe.key with
  | some (.circuitHalfOpen _ probeId probeExpiresAtMs) => do
    ensure (!(probeId != probe.probeId || probeExpiresAtMs != probe.expiresAtMs ||
      decide (probeExpiresAtMs ≤ now))) .staleCircuitProbe
    match result with
    | .healthy => removeState probe.key
    | .unhealthy retryAfterMs => do
      validateDeadline retryAfterMs now
      insertState probe.key (.circuitOpen retryAfterMs)
  | _ => throw .staleCircuitProbe

end CpaGateway.Router.RuntimeHealth
