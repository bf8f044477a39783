import CpaGateway.Core.Error
import CpaGateway.Router.RouteScheduler
import CpaGateway.Router.RuntimeQuota
import CpaGateway.Upstream.CredentialPool

/-! # Selecting a candidate and leasing a Credential

The two stages of a selection: the schedule of the route proposes a candidate, and the pool of its
Endpoint is searched for a Credential. A candidate whose pool yields no lease is passed over; the
search has then still advanced the cursors of that pool. The runtime registries are read with the
clock standing at one reading during a selection. -/

namespace CpaGateway.Router.CredentialScheduler

open Core.Identity Core.Error Upstream.CredentialPool Router.Schedule Router.Snapshot
open Router.RouteScheduler Router.RuntimeHealth Router.RuntimeQuota EndpointCredentialPool

/-- The bindings that one request must not try again. -/
structure AttemptExclusionSet where
  bindings : Finset (RouteCandidateId × CredentialId)

namespace AttemptExclusionSet

def new : AttemptExclusionSet := ⟨∅⟩

def insert (exclusions : AttemptExclusionSet) (candidate : SnapshotRouteCandidate)
    (credentialId : CredentialId) : AttemptExclusionSet :=
  ⟨Insert.insert (candidate.id, credentialId) exclusions.bindings⟩

def contains (exclusions : AttemptExclusionSet) (candidate : SnapshotRouteCandidate)
    (credentialId : CredentialId) : Bool :=
  decide ((candidate.id, credentialId) ∈ exclusions.bindings)

end AttemptExclusionSet

structure RouteCredentialScheduler (snapshot : RouteSnapshot) where
  candidates : RouteCandidateScheduler snapshot
  credentialPools : EndpointCredentialPools

structure SelectedRouteCredential where
  candidate : SnapshotRouteCandidate
  lease : CredentialLease
  deriving DecidableEq

def credentialUnavailableError : GatewayError := ⟨.credentialUnavailable, .credential⟩

/-- What the selections for one request can ask besides the tables of the snapshot. -/
structure Runtime where
  health : RuntimeHealthRegistry
  quota : RuntimeQuotaRegistry
  clock : Reading

/-- The predicate that takes a lease: it accepts a candidate if its pool yields one, and keeps it.
-/
def leaseFrom (observedAtMs : ℤ) (isCandidateEligible : SnapshotRouteCandidate → Bool)
    (isBindingEligible : SnapshotRouteCandidate → CredentialId → Bool)
    (candidate : SnapshotRouteCandidate) (s : EndpointCredentialPools × Option CredentialLease) :
    Bool × EndpointCredentialPools × Option CredentialLease :=
  if isCandidateEligible candidate then
    match s.1.tryLeaseEligibleAt candidate.endpointId observedAtMs
      (isBindingEligible candidate) with
    | (some lease, pools) => (true, pools, some lease)
    | (none, pools) => (false, pools, s.2)
  else (false, s)

namespace RouteCredentialScheduler

variable {snapshot : RouteSnapshot}

def new (snapshot : RouteSnapshot) (credentialPools : EndpointCredentialPools) :
    RouteCredentialScheduler snapshot where
  candidates := .new snapshot
  credentialPools := credentialPools

/-- The selection that the methods below share. -/
def selectAndLease (scheduler : RouteCredentialScheduler snapshot) (routeId : RouteId)
    (observedAtMs : ℤ) (isCandidateEligible : SnapshotRouteCandidate → Bool)
    (isBindingEligible : SnapshotRouteCandidate → CredentialId → Bool) :
    Except GatewayError SelectedRouteCredential × RouteCredentialScheduler snapshot :=
  let (candidate, candidates, pools, lease) := scheduler.candidates.selectEligible routeId
    (leaseFrom observedAtMs isCandidateEligible isBindingEligible) (scheduler.credentialPools, none)
  (match candidate, lease with
    | some candidate, some lease => .ok { candidate, lease }
    | _, _ => .error credentialUnavailableError,
    { candidates, credentialPools := pools })

def selectEligibleAndLeaseWithRuntimeHealthQuotaAndBindingAt
    (scheduler : RouteCredentialScheduler snapshot) (routeId : RouteId) (runtime : Runtime)
    (observedAtMs : ℤ) (isCandidateEligible : SnapshotRouteCandidate → Bool)
    (isBindingEligible : SnapshotRouteCandidate → CredentialId → Bool) :
    Except GatewayError SelectedRouteCredential × RouteCredentialScheduler snapshot :=
  scheduler.selectAndLease routeId observedAtMs
    (fun candidate => isCandidateEligible candidate &&
      runtime.health.endpointIsAvailable candidate.endpointId runtime.clock)
    fun candidate credentialId => isBindingEligible candidate credentialId &&
      runtime.health.endpointCredentialIsAvailable candidate.endpointId credentialId
        runtime.clock &&
      runtime.health.endpointCredentialModelIsAvailable candidate.endpointId credentialId
        candidate.upstreamModel runtime.clock &&
      runtime.quota.endpointCredentialIsAvailable candidate.endpointId credentialId runtime.clock &&
      runtime.quota.endpointCredentialModelIsAvailable candidate.endpointId credentialId
        candidate.upstreamModel runtime.clock

end RouteCredentialScheduler

/-! ### The admission of a candidate and of a binding

The same checks as predicates of the runtime, for selections during which the runtime changes. -/

def Runtime.admitsCandidate (runtime : Runtime)
    (isCandidateEligible : SnapshotRouteCandidate → Bool) (candidate : SnapshotRouteCandidate) :
    Bool :=
  isCandidateEligible candidate &&
    runtime.health.endpointIsAvailable candidate.endpointId runtime.clock

/-- Both selections check the Health of the binding and the quota of its model; they differ in what
they ask of the quota of the binding itself. -/
def Runtime.admitsBinding (quotaAdmits : Runtime → EndpointId → CredentialId → Bool)
    (isBindingEligible : SnapshotRouteCandidate → CredentialId → Bool) (runtime : Runtime)
    (candidate : SnapshotRouteCandidate) (credentialId : CredentialId) : Bool :=
  isBindingEligible candidate credentialId &&
    runtime.health.endpointCredentialIsAvailable candidate.endpointId credentialId runtime.clock &&
    runtime.health.endpointCredentialModelIsAvailable candidate.endpointId credentialId
      candidate.upstreamModel runtime.clock &&
    quotaAdmits runtime candidate.endpointId credentialId &&
    runtime.quota.endpointCredentialModelIsAvailable candidate.endpointId credentialId
      candidate.upstreamModel runtime.clock

/-- An ordinary selection asks for an available quota. -/
def bindingQuotaIsAvailable (runtime : Runtime) (endpointId : EndpointId)
    (credentialId : CredentialId) : Bool :=
  runtime.quota.endpointCredentialIsAvailable endpointId credentialId runtime.clock

/-- A selection for a quota recovery asks for a quota that is past its reset. -/
def bindingQuotaIsRecoveryDue (runtime : Runtime) (endpointId : EndpointId)
    (credentialId : CredentialId) : Bool :=
  (runtime.quota.availability (.endpointCredential endpointId credentialId)
    runtime.clock).toOption.any fun availability =>
      match availability with
      | .recoveryRequired _ => true
      | _ => false

theorem leaseFrom_eq (observedAtMs : ℤ) (isCandidateEligible : SnapshotRouteCandidate → Bool)
    (isBindingEligible : SnapshotRouteCandidate → CredentialId → Bool)
    (candidate : SnapshotRouteCandidate) (pools : EndpointCredentialPools) :
    (∃ pools', leaseFrom observedAtMs isCandidateEligible isBindingEligible candidate
      (pools, none) =
      (false, pools', none)) ∨
    ∃ pools' lease, leaseFrom observedAtMs isCandidateEligible isBindingEligible candidate
      (pools, none) = (true, pools', some lease) ∧
        isBindingEligible candidate lease.credentialId := by
  unfold leaseFrom
  split_ifs with heligible
  · cases hpool : pools.pool candidate.endpointId with
    | none => exact .inl ⟨pools, by simp only [EndpointCredentialPools.tryLeaseEligibleAt, hpool]⟩
    | some pool =>
      simp only [EndpointCredentialPools.tryLeaseEligibleAt, hpool]
      cases hlease : (pool.tryLeaseEligibleAt observedAtMs (isBindingEligible candidate)).1 with
      | none => exact .inl ⟨_, rfl⟩
      | some lease =>
        refine .inr ⟨_, lease, rfl, ?_⟩
        rw [tryLeaseEligibleAt, tryLeaseSlots_fst,
          Option.map_eq_some_iff] at hlease
        obtain ⟨credential, hfirst, rfl⟩ := hlease
        obtain ⟨-, hadmits, -⟩ := of_firstFrom hfirst
        exact (Bool.and_eq_true_iff.mp hadmits).2
  · exact .inl ⟨pools, rfl⟩

/-! ### A sample

One route with two candidates on one Endpoint, whose pool has two Credentials. -/

def sampleCandidate (id : RouteCandidateId) : SnapshotRouteCandidate where
  id := id
  endpointId := .lit "endpoint"
  upstreamId := .lit "upstream"
  upstreamModel := "model"
  priority := 0
  weight := 1
  catalogAdmission := .listed .fresh
  activeBindingCount := 2

def sampleInput : RouteSnapshotInput where
  publicModels := [⟨.lit "public", "public", .lit "route"⟩]
  aliases := []
  routes := [{
    id := .lit "route"
    publicModelId := .lit "public"
    policy := .roundRobin
    maxAttempts := 2
    bootstrapTimeoutMs := 1000
    candidates := [sampleCandidate (.lit "a"), sampleCandidate (.lit "b")] }]
  accessGroups := []
  clientKeys := []

def sampleCredential (id : CredentialId) (expiresAtMs : Option ℤ) : EndpointCredentialInput where
  credentialId := id
  credentialKind := "key"
  credentialRevision := 0
  priority := 0
  weight := 1
  concurrency := 1
  expiresAtMs := expiresAtMs

/-- A new scheduler for the sample route, whose Endpoint has two Credentials. -/
def assemble (expiresAtMs : Option ℤ) :
    Option ((snapshot : RouteSnapshot) × RouteCredentialScheduler snapshot) := do
  let snapshot ← (RouteSnapshot.tryNew sampleInput).toOption
  let pool ← (tryNew (.lit "endpoint")
    [sampleCredential (.lit "1") expiresAtMs, sampleCredential (.lit "2") none]).toOption
  let pools ← (EndpointCredentialPools.tryNew [pool]).toOption
  return ⟨snapshot, .new snapshot pools⟩

/-- A new scheduler whose first Credential has expired if `expired`. -/
def sampleScheduler (expired : Bool) :
    (snapshot : RouteSnapshot) × RouteCredentialScheduler snapshot :=
  (assemble (if expired then some 5 else none)).get (by revert expired; decide +kernel)

end CpaGateway.Router.CredentialScheduler
