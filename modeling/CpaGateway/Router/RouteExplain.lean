import CpaGateway.Router.CredentialScheduler

/-! # Explaining a route

What a selection on a route would do at a given time, worked out without taking a lease or moving a
cursor: for every candidate the reasons against it and against its Credentials, and the pair that
the schedule would select when its tiers and those of the pools are visited from given starts. -/

namespace CpaGateway.Router.RouteExplain

open Core.Identity Lib.Fallible Lib.Rotation Upstream.CredentialPool Router.Schedule Router.Snapshot
open Router.CredentialScheduler Router.RuntimeHealth Router.RuntimeQuota

/-- The route, the time and the starts of the two rotations. -/
structure RouteExplainInput where
  routeId : RouteId
  observedAtMs : ℤ
  candidateScheduleStart : UInt64
  credentialScheduleStart : UInt64

/-- Why there is nothing to explain. -/
inductive RouteExplainError
  | unknownRoute
  | missingRouteSchedule
  deriving DecidableEq

/-- A reason against a candidate. -/
inductive RouteExplainCandidateReason
  | notHardEligible
  | endpointHealth (availability : RuntimeHealthAvailability)
  | missingCredentialPool
  | noEligibleCredential
  deriving DecidableEq

/-- A reason against a Credential for a candidate. -/
inductive RouteExplainCredentialReason
  | requestExcluded
  | saturated
  | credentialHealth (availability : RuntimeHealthAvailability)
  | modelHealth (availability : RuntimeHealthAvailability)
  | bindingQuota (availability : RuntimeQuotaAvailability)
  | modelQuota (availability : RuntimeQuotaAvailability)
  | bindingQuotaUnavailable
  | modelQuotaUnavailable
  deriving DecidableEq

/-- A Credential of a candidate, with the reasons against it. -/
structure RouteExplainCredential where
  credentialId : CredentialId
  priority : ℤ
  weight : ℕ
  maximumConcurrency : ℕ
  activeLeases : ℕ
  reasons : List RouteExplainCredentialReason
  deriving DecidableEq

/-- Nothing speaks against it. -/
def RouteExplainCredential.isEligible (credential : RouteExplainCredential) : Bool :=
  credential.reasons.isEmpty

/-- A candidate, its reasons and its Credentials. -/
structure RouteExplainCandidate where
  candidateId : RouteCandidateId
  endpointId : EndpointId
  upstreamId : UpstreamId
  upstreamModel : String
  priority : ℤ
  weight : ℤ
  catalogAdmission : SnapshotCatalogAdmission
  activeBindingCount : ℕ
  reasons : List RouteExplainCandidateReason
  credentials : List RouteExplainCredential
  deriving DecidableEq

namespace RouteExplainCandidate

/-- Nothing speaks against the candidate, and some Credential is left. -/
def isEligible (candidate : RouteExplainCandidate) : Bool :=
  candidate.reasons.isEmpty && candidate.credentials.any (·.isEligible)

/-- The Credential is listed, without a reason. -/
def credentialIsEligible (candidate : RouteExplainCandidate) (credentialId : CredentialId) : Bool :=
  candidate.credentials.any fun credential =>
    decide (credential.credentialId = credentialId) && credential.isEligible

end RouteExplainCandidate

/-- The pair that would be selected. -/
structure RouteExplainProjectedSelection where
  candidateId : RouteCandidateId
  endpointId : EndpointId
  upstreamId : UpstreamId
  upstreamModel : String
  credentialId : CredentialId
  deriving DecidableEq

/-- The whole explanation. -/
structure RouteExplainSnapshot where
  routeId : RouteId
  observedAtMs : ℤ
  candidates : List RouteExplainCandidate
  projectedSelection : Option RouteExplainProjectedSelection

/-! ### Reasons

The registries of the model answer every read at a given time, so the reasons for a read that failed
do not occur, except for a model without a label. -/

/-- A blocked health is a reason. -/
def healthReason {ρ : Type} (availability : RuntimeHealthAvailability)
    (blocked : RuntimeHealthAvailability → ρ) : List ρ :=
  if availability.isAvailable then [] else [blocked availability]

/-- So is a quota that is blocked, or cannot be read. -/
def quotaReason (availability : Option RuntimeQuotaAvailability)
    (blocked : RuntimeQuotaAvailability → RouteExplainCredentialReason)
    (unavailable : RouteExplainCredentialReason) : List RouteExplainCredentialReason :=
  match availability with
  | some availability => if availability.isAvailable then [] else [blocked availability]
  | none => [unavailable]

section Explain

variable (health : RuntimeHealthRegistry) (quota : RuntimeQuotaRegistry) (observedAtMs : ℤ)
  (exclusions : AttemptExclusionSet)

/-- The reasons in the order of the checks. -/
def explainCredential (candidate : SnapshotRouteCandidate) (entry : CredentialSlot) :
    RouteExplainCredential where
  credentialId := entry.credentialId
  priority := entry.priority
  weight := entry.weight
  maximumConcurrency := entry.maximumConcurrency
  activeLeases := entry.activeLeases
  reasons :=
    (if exclusions.contains candidate entry.credentialId then [.requestExcluded] else []) ++
    (if entry.hasCapacity then [] else [.saturated]) ++
    healthReason (health.availabilityAt
      (.endpointCredential candidate.endpointId entry.credentialId) observedAtMs)
      .credentialHealth ++
    healthReason (health.availabilityAt
      (.endpointCredentialModel candidate.endpointId entry.credentialId candidate.upstreamModel)
      observedAtMs) .modelHealth ++
    quotaReason (some (quota.availabilityAt
      (.endpointCredential candidate.endpointId entry.credentialId) observedAtMs)) .bindingQuota
      .bindingQuotaUnavailable ++
    quotaReason ((RuntimeQuotaTarget.tryEndpointCredentialModel candidate.endpointId
      entry.credentialId candidate.upstreamModel).toOption.map
      (quota.availabilityAt · observedAtMs))
      .modelQuota .modelQuotaUnavailable

/-- A candidate without a pool has no Credentials. -/
def explainCandidate (pools : EndpointCredentialPools) (candidate : SnapshotRouteCandidate) :
    RouteExplainCandidate :=
  let credentials := (pools.pool candidate.endpointId).map fun pool =>
    pool.credentials.map (explainCredential health quota observedAtMs exclusions candidate)
  { candidateId := candidate.id
    endpointId := candidate.endpointId
    upstreamId := candidate.upstreamId
    upstreamModel := candidate.upstreamModel
    priority := candidate.priority
    weight := candidate.weight
    catalogAdmission := candidate.catalogAdmission
    activeBindingCount := candidate.activeBindingCount
    reasons :=
      (if candidate.isHardEligible then [] else [.notHardEligible]) ++
      healthReason (health.availabilityAt (.endpoint candidate.endpointId) observedAtMs)
        .endpointHealth ++
      (if credentials.isSome then [] else [.missingCredentialPool]) ++
      (if (credentials.getD []).any (·.isEligible) then [] else [.noEligibleCredential])
    credentials := credentials.getD [] }

end Explain

/-! ### The projection -/

/-- The visit of one slot by the projection. -/
def probeProjection (candidates : List RouteExplainCandidate) (pools : EndpointCredentialPools)
    (credentialScheduleStart : UInt64) (candidateIndex : ℕ) (s : Unit) :
    Step RouteExplainProjectedSelection × Unit :=
  match candidates[candidateIndex]? with
  | none => (.stop, s)
  | some candidate =>
    if candidate.isEligible then
      match pools.pool candidate.endpointId with
      | none => (.next, s)
      | some pool =>
        match pool.peekEligibleFrom credentialScheduleStart candidate.credentialIsEligible with
        | none => (.next, s)
        | some credential => (.found {
            candidateId := candidate.candidateId
            endpointId := candidate.endpointId
            upstreamId := candidate.upstreamId
            upstreamModel := candidate.upstreamModel
            credentialId := credential.credentialId }, s)
    else (.next, s)

/-- Every tier is visited from the same start. -/
def projectSelection (schedule : SnapshotRouteSchedule) (candidates : List RouteExplainCandidate)
    (pools : EndpointCredentialPools) (candidateScheduleStart credentialScheduleStart : UInt64) :
    Option RouteExplainProjectedSelection :=
  (scanTiers (·.slotIndexes) (probeProjection candidates pools credentialScheduleStart)
    schedule.priorityTiers (schedule.priorityTiers.map fun _ => candidateScheduleStart)
    ()).1.toOption

/-- Reads the snapshot, the pools and the registries only. -/
def explain (snapshot : RouteSnapshot) (pools : EndpointCredentialPools)
    (health : RuntimeHealthRegistry) (quota : RuntimeQuotaRegistry) (input : RouteExplainInput)
    (exclusions : AttemptExclusionSet) : Except RouteExplainError RouteExplainSnapshot := do
  let route ← okOr (snapshot.route input.routeId) .unknownRoute
  let schedule ← okOr (snapshot.routeSchedule input.routeId) .missingRouteSchedule
  let candidates := route.candidates.map
    (explainCandidate health quota input.observedAtMs exclusions pools)
  return {
    routeId := input.routeId
    observedAtMs := input.observedAtMs
    candidates
    projectedSelection := projectSelection schedule candidates pools input.candidateScheduleStart
      input.credentialScheduleStart }

end CpaGateway.Router.RouteExplain
