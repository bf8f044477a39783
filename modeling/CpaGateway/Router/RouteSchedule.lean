import CpaGateway.Core.Identity
import CpaGateway.Lib.Fallible
import CpaGateway.Lib.Tiers

/-! # Compiled schedules of routes

A route lists the candidates that can serve it. Its schedule is compiled once, with the snapshot it
belongs to: the candidates of one priority share a tier, tiers are in ascending priority, and the
slots of a tier rotate over its candidates by the policy of the route (`compiled_of_tryCompile`). -/

namespace CpaGateway.Router.Schedule

open Core.Identity Lib.Fallible Lib Tiers

/-! ### Candidates and routes -/

/-- How current the entry of a model in a catalogue is. -/
inductive CatalogModelState
  | manual
  | fresh
  | stale
  | expired
  deriving DecidableEq

/-- Anything but expired. -/
def CatalogModelState.isHardEligible : CatalogModelState → Bool
  | .manual | .fresh | .stale => true
  | .expired => false

/-- What made a candidate eligible when it was compiled. -/
inductive SnapshotCatalogAdmission
  | listed (state : CatalogModelState)
  | allowedUnlisted
  deriving DecidableEq

/-- How the slots of a tier rotate. -/
inductive SnapshotRoutePolicy
  | roundRobin
  | smoothWeightedRoundRobin
  | priorityFailover
  deriving DecidableEq

/-- A model of an endpoint that can serve a route. -/
structure SnapshotRouteCandidate where
  id : RouteCandidateId
  endpointId : EndpointId
  upstreamId : UpstreamId
  upstreamModel : String
  priority : ℤ
  weight : ℤ
  catalogAdmission : SnapshotCatalogAdmission
  activeBindingCount : ℕ
  deriving DecidableEq

/-- It has a credential, and its model is admitted. -/
def SnapshotRouteCandidate.isHardEligible (candidate : SnapshotRouteCandidate) : Bool :=
  decide (0 < candidate.activeBindingCount) &&
    match candidate.catalogAdmission with
    | .listed state => state.isHardEligible
    | .allowedUnlisted => true

/-- The candidates of a public model, with limits. -/
structure SnapshotRoute where
  id : RouteId
  publicModelId : PublicModelId
  policy : SnapshotRoutePolicy
  maxAttempts : ℤ
  bootstrapTimeoutMs : ℤ
  candidates : List SnapshotRouteCandidate
  deriving DecidableEq

/-- Some candidate can be used. -/
def SnapshotRoute.hasHardEligibleCandidate (route : SnapshotRoute) : Bool :=
  route.candidates.any (·.isHardEligible)

/-- Why a snapshot is refused. -/
inductive RouteSnapshotBuildError
  | duplicatePublicModelName
  | duplicatePublicModelId
  | duplicateRoute
  | unknownRoutePublicModel
  | publicModelMissingRoute
  | publicModelRouteMismatch
  | routeHasNoCandidates
  | invalidCandidatePriority
  | invalidCandidateWeight
  | routeScheduleTooLarge
  | duplicateCandidate
  | aliasConflictsPublicModel
  | duplicateAlias
  | unknownAliasPublicModel
  | duplicateAccessGroup
  | accessGroupReferencesUnknownRoute
  | duplicateClientKeyPrefix
  | duplicateClientKeyId
  | clientKeyReferencesUnknownAccessGroup
  | clientKeyRoutePermissionsMismatch
  deriving DecidableEq

/-! ### Schedules -/

/-- The limit of the slots of a tier. -/
def maxScheduleSlotsPerPriorityTier : ℕ := 1024

/-- The slots of one priority, as indexes of the candidates of the route. -/
structure SnapshotPriorityTierSchedule where
  priority : ℤ
  slotIndexes : List ℕ
  deriving DecidableEq

/-- The tiers of a route. -/
structure SnapshotRouteSchedule where
  priorityTiers : List SnapshotPriorityTierSchedule
  deriving DecidableEq

/-- A candidate with its index in the route. The source keeps the indexes and looks the candidates
up; here they stay together until the slots are compiled. -/
abbrev Entry := SnapshotRouteCandidate × ℕ

/-- Every candidate by its weight, spread evenly. -/
def smoothWeightedSlots (entries : List Entry) : Except RouteSnapshotBuildError (List ℕ) := do
  let weights : List ℤ := entries.map (·.1.weight)
  -- the source compares with the limit weight by weight; the weights are positive, so the whole sum
  -- decides
  ensure (decide (weights.sum ≤ maxScheduleSlotsPerPriorityTier)) .routeScheduleTooLarge
  return weightedSlots (·.weight) entries

/-- Puts a candidate with the others of its priority. -/
def place (byPriority : Tiers.Groups SnapshotRouteCandidate) (entry : Entry) :
    Except RouteSnapshotBuildError (Tiers.Groups SnapshotRouteCandidate) := do
  ensure (decide (0 ≤ entry.1.priority)) .invalidCandidatePriority
  ensure (decide (0 < entry.1.weight)) .invalidCandidateWeight
  return push (·.priority) byPriority entry

/-- The order of the slots does not depend on that of the route. -/
def sortedById (entries : List Entry) : List Entry :=
  entries.insertionSort fun left right => (compare left.1.id right.1.id).isLE

/-- The slots of a tier, by the policy. -/
def tierSlots (policy : SnapshotRoutePolicy) (entries : List Entry) :
    Except RouteSnapshotBuildError (List ℕ) :=
  match policy with
  | .roundRobin | .priorityFailover => do
    ensure (decide (entries.length ≤ maxScheduleSlotsPerPriorityTier)) .routeScheduleTooLarge
    return entries.map (·.2)
  | .smoothWeightedRoundRobin => smoothWeightedSlots entries

/-- A tier of one priority. -/
def compileTier (policy : SnapshotRoutePolicy) (tier : ℤ × List Entry) :
    Except RouteSnapshotBuildError SnapshotPriorityTierSchedule := do
  let slotIndexes ← tierSlots policy (sortedById tier.2)
  return { priority := tier.1, slotIndexes }

/-- The schedule of a route. -/
def SnapshotRouteSchedule.tryCompile (route : SnapshotRoute) :
    Except RouteSnapshotBuildError SnapshotRouteSchedule := do
  let byPriority ← route.candidates.zipIdx.foldlM place ∅
  let priorityTiers ← byPriority.toList.mapM (compileTier route.policy)
  return { priorityTiers }

/-- What a compiled schedule is: tiers in ascending priority, one for every priority of a candidate,
and in each tier a bounded number of slots for exactly the candidates of its priority. -/
structure Compiled (route : SnapshotRoute) (schedule : SnapshotRouteSchedule) : Prop where
  ascending : schedule.priorityTiers.Pairwise (·.priority < ·.priority)
  covers : ∀ candidate ∈ route.candidates,
    ∃ tier ∈ schedule.priorityTiers, tier.priority = candidate.priority
  occupied : ∀ tier ∈ schedule.priorityTiers, tier.slotIndexes ≠ []
  bounded : ∀ tier ∈ schedule.priorityTiers, tier.slotIndexes.length ≤
    maxScheduleSlotsPerPriorityTier
  slots : ∀ tier ∈ schedule.priorityTiers, ∀ i, i ∈ tier.slotIndexes ↔
    ∃ candidate, route.candidates[i]? = some candidate ∧ candidate.priority = tier.priority

variable {route : SnapshotRoute} {schedule : SnapshotRouteSchedule}
  {tier : SnapshotPriorityTierSchedule}

/-- After the loop over `done`, the map holds the entries of each priority that occurred. -/
structure Placed (done : List Entry) (byPriority : Tiers.Groups SnapshotRouteCandidate) : Prop where
  grouped : Tiers.Grouped (·.priority) done byPriority
  weighted : ∀ entry ∈ done, 0 < entry.1.weight

theorem Placed.place {done : List Entry}
    {byPriority byPriority' : Tiers.Groups SnapshotRouteCandidate} {entry : Entry}
    (h : Placed done byPriority) (hplace : Schedule.place byPriority entry = .ok byPriority') :
    Placed (done ++ [entry]) byPriority' := by
  simp only [Schedule.place, except_ok, decide_eq_true_eq] at hplace
  obtain ⟨-, -, -, hweight, rfl⟩ := hplace
  refine ⟨h.grouped.push entry, fun e he => ?_⟩
  rcases List.mem_append.mp he with he | he
  · exact h.weighted e he
  · rwa [List.mem_singleton.mp he]

variable {policy : SnapshotRoutePolicy} {entries : List Entry}

theorem mem_tierSlots {slots : List ℕ} (hpos : ∀ entry ∈ entries, 0 < entry.1.weight)
    (h : tierSlots policy entries = .ok slots) (i : ℕ) :
    i ∈ slots ↔ ∃ entry ∈ entries, entry.2 = i := by
  cases policy with
  | smoothWeightedRoundRobin =>
    simp only [tierSlots, smoothWeightedSlots, except_ok] at h
    obtain ⟨-, -, rfl⟩ := h
    exact mem_weightedSlots hpos i
  | _ =>
    simp only [tierSlots, except_ok] at h
    obtain ⟨-, -, rfl⟩ := h
    exact List.mem_map

theorem length_tierSlots_le {slots : List ℕ}
    (h : tierSlots policy entries = .ok slots) :
    slots.length ≤ maxScheduleSlotsPerPriorityTier := by
  cases policy with
  | smoothWeightedRoundRobin =>
    simp only [tierSlots, smoothWeightedSlots, except_ok, decide_eq_true_eq] at h
    obtain ⟨-, hsum, rfl⟩ := h
    exact (length_weightedSlots_le entries).trans (Int.toNat_le.mpr hsum)
  | _ =>
    simp only [tierSlots, except_ok, decide_eq_true_eq] at h
    obtain ⟨-, hlen, rfl⟩ := h
    rwa [List.length_map]

theorem mem_sortedById {entry : Entry} :
    entry ∈ sortedById entries ↔ entry ∈ entries := List.mem_insertionSort _

variable {group : ℤ × List Entry}

theorem priority_compileTier
    (h : compileTier policy group = .ok tier) : tier.priority = group.1 := by
  simp only [compileTier, except_ok] at h
  obtain ⟨-, -, rfl⟩ := h
  rfl

theorem mem_compileTier
    (hpos : ∀ entry ∈ group.2, 0 < entry.1.weight) (h : compileTier policy group = .ok tier)
    (i : ℕ) : i ∈ tier.slotIndexes ↔ ∃ entry ∈ group.2, entry.2 = i := by
  simp only [compileTier, except_ok] at h
  obtain ⟨slots, hslots, rfl⟩ := h
  have hmem := mem_tierSlots (fun entry hentry => hpos entry (mem_sortedById.mp hentry)) hslots i
  simpa only [mem_sortedById] using hmem

def entriesAt (route : SnapshotRoute) (priority : ℤ) : List Entry :=
  route.candidates.zipIdx.filter (·.1.priority = priority)

theorem mem_entriesAt {priority : ℤ} {candidate : SnapshotRouteCandidate} {i : ℕ} :
    (candidate, i) ∈ entriesAt route priority ↔
      route.candidates[i]? = some candidate ∧ candidate.priority = priority := by
  simp [entriesAt, List.mem_zipIdx_iff_getElem?]

theorem compiled_of_tryCompile (h : SnapshotRouteSchedule.tryCompile route = .ok schedule) :
    Compiled route schedule := by
  simp only [SnapshotRouteSchedule.tryCompile, except_ok] at h
  obtain ⟨byPriority, hplace, tiers, htiers, rfl⟩ := h
  have hplaced : Placed route.candidates.zipIdx byPriority :=
    foldlM_ok Placed hplace [] ⟨grouped_nil, by simp⟩ fun _ _ _ _ h hstep => h.place hstep
  -- each tier has the slots of the entries of its priority, and there is at least one such entry
  have hslots : ∀ tier ∈ tiers, entriesAt route tier.priority ≠ [] ∧
      ∀ i, i ∈ tier.slotIndexes ↔ ∃ entry ∈ entriesAt route tier.priority, entry.2 = i := by
    intro tier hmem
    obtain ⟨group, hgroup, hcompile⟩ := mem_left_of_mapM_ok htiers hmem
    obtain ⟨hentries, hne⟩ := hplaced.grouped.mem_toList.mp hgroup
    have hpos : ∀ entry ∈ group.2, 0 < entry.1.weight := by
      intro entry hentry
      rw [hentries] at hentry
      exact hplaced.weighted entry (List.mem_filter.mp hentry).1
    rw [priority_compileTier hcompile, entriesAt, ← hentries]
    exact ⟨hne, mem_compileTier hpos hcompile⟩
  refine ⟨?_, fun candidate hmem => ?_, fun tier hmem hnil => ?_, fun tier hmem => ?_,
    fun tier hmem i => ?_⟩
  · exact ascending_of_mapM (·.priority) htiers fun _ _ hcompile => priority_compileTier hcompile
  · obtain ⟨i, hget⟩ := List.mem_iff_getElem?.mp hmem
    have hentry := mem_entriesAt.mpr ⟨hget, rfl⟩
    have hgroup : (candidate.priority, entriesAt route candidate.priority) ∈ byPriority.toList :=
      hplaced.grouped.mem_toList.mpr ⟨rfl, List.ne_nil_of_mem hentry⟩
    obtain ⟨tier, hmem, hcompile⟩ := mem_right_of_mapM_ok htiers hgroup
    exact ⟨tier, hmem, priority_compileTier hcompile⟩
  · obtain ⟨hne, hslots⟩ := hslots tier hmem
    obtain ⟨entry, hentry⟩ := List.exists_mem_of_ne_nil _ hne
    exact List.ne_nil_of_mem ((hslots _).mpr ⟨entry, hentry, rfl⟩) hnil
  · obtain ⟨group, -, hcompile⟩ := mem_left_of_mapM_ok htiers hmem
    simp only [compileTier, except_ok] at hcompile
    obtain ⟨slots, hslots, rfl⟩ := hcompile
    exact length_tierSlots_le hslots
  · rw [(hslots tier hmem).2 i]
    constructor
    · rintro ⟨⟨candidate, _⟩, hentry, rfl⟩
      exact ⟨candidate, mem_entriesAt.mp hentry⟩
    · rintro ⟨candidate, hcandidate⟩
      exact ⟨(candidate, i), mem_entriesAt.mpr hcandidate, rfl⟩

end CpaGateway.Router.Schedule
