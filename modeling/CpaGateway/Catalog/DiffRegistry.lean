import CpaGateway.Catalog.Discovery
import CpaGateway.Core.Sse

/-! # The registry of catalog diffs

A successful discovery is compared with what was accepted for its target before. The comparison is a
preview that changes nothing; it can be applied as long as no other preview of its target was. A
model that is missing is suspected first and removed later.

The lock is held for one lookup or one update, and no code panics under it: locks are never
poisoned. -/

namespace CpaGateway.Catalog.DiffRegistry

open Catalog.Discovery Core.Sse Lib.Effect Lib.Fallible

/-- A successful discovery of one target. Of the deadlines of its freshness none is used here. -/
structure CatalogSnapshot where
  target : ModelCatalogTarget
  models : List DiscoveredModel
  version : UInt64
  observedAtMs : ℤ
  normalized : Normalized models
  versioned : version ≠ 0
  observed : 0 ≤ observedAtMs ∧ observedAtMs < 2 ^ 63

/-- How many snapshots have to miss a model. -/
def minCatalogSuccessfulMissesForRemoval : UInt64 := 3

/-- How long it has to be missing. -/
def minCatalogRemovalIsolationMs : ℤ := 24 * 60 * 60 * 1000

/-- What a snapshot says about one model. -/
inductive CatalogDiffEvent
  | added (model : DiscoveredModel)
  | suspectedRemoved (model : DiscoveredModel) (consecutiveSuccessfulMisses : UInt64)
      (firstMissingAtMs removalEligibleAtMs : ℤ)
  | removed (model : DiscoveredModel) (consecutiveSuccessfulMisses : UInt64) (firstMissingAtMs : ℤ)
  deriving DecidableEq

/-- What is known of a model. -/
inductive CatalogDiffModelState
  | present
  | suspectedRemoved (consecutiveSuccessfulMisses : UInt64)
      (firstMissingAtMs removalEligibleAtMs : ℤ)
  deriving DecidableEq

/-- The known models of a target. -/
abbrev Models := Std.TreeMap DiscoveredModel CatalogDiffModelState

/-- The last snapshot of a target, and its models. -/
structure CatalogDiffTargetState where
  generation : UInt64
  lastSnapshotVersion : UInt64
  lastObservedAtMs : ℤ
  models : Models

/-- The plan of one snapshot, and the generation it starts from. -/
structure CatalogDiffPreview where
  target : ModelCatalogTarget
  snapshotVersion : UInt64
  baseGeneration : UInt64
  events : List CatalogDiffEvent
  nextState : CatalogDiffTargetState

/-- What was applied, under which generation. -/
structure CatalogDiffApplyResult where
  target : ModelCatalogTarget
  snapshotVersion : UInt64
  generation : UInt64
  events : List CatalogDiffEvent

/-- Why a snapshot or a preview is refused. -/
inductive CatalogDiffError
  | snapshotVersionNotNewer
  | snapshotObservedAtNotMonotonic
  | stalePreview
  | generationOverflow
  | consecutiveMissingOverflow
  | removalDeadlineOverflow
  deriving DecidableEq

/-- The state of every target that has one. -/
structure CatalogDiffRegistry where
  targets : ModelCatalogTarget → Option CatalogDiffTargetState

/-- A registry without targets. -/
def CatalogDiffRegistry.new : CatalogDiffRegistry := ⟨fun _ => none⟩

/-- The sum of a time and a duration, if it is a 64-bit number. -/
def checkedDeadline (atMs durationMs : ℤ) : Option ℤ :=
  if atMs + durationMs < 2 ^ 63 then some (atMs + durationMs) else none

/-- Versions grow, and times do not fall. -/
def validateDiffSnapshot (previous : Option CatalogDiffTargetState) (snapshot : CatalogSnapshot) :
    Except CatalogDiffError Unit :=
  match previous with
  | none => .ok ()
  | some previous => do
    ensure (previous.lastSnapshotVersion < snapshot.version) .snapshotVersionNotNewer
    ensure (previous.lastObservedAtMs ≤ snapshot.observedAtMs) .snapshotObservedAtNotMonotonic

/-- A model of the snapshot is present, and added if it was not known. -/
def presentModel (diff : Models × List CatalogDiffEvent) (model : DiscoveredModel) :
    Models × List CatalogDiffEvent :=
  (diff.1.insert model .present, if diff.1.contains model then diff.2 else diff.2 ++ [.added model])

/-- What a model that is missing from a snapshot becomes, if it stays, and the event of it. -/
def missedModel (observedAtMs : ℤ) (model : DiscoveredModel) :
    CatalogDiffModelState →
      Except CatalogDiffError (Option CatalogDiffModelState × CatalogDiffEvent)
  | .present => do
    let removalEligibleAtMs ← okOr (checkedDeadline observedAtMs minCatalogRemovalIsolationMs)
      .removalDeadlineOverflow
    return (some (.suspectedRemoved 1 observedAtMs removalEligibleAtMs),
      .suspectedRemoved model 1 observedAtMs removalEligibleAtMs)
  | .suspectedRemoved misses firstMissingAtMs removalEligibleAtMs => do
    let nextMisses ← okOr (checkedAdd misses 1) .consecutiveMissingOverflow
    if minCatalogSuccessfulMissesForRemoval ≤ nextMisses && removalEligibleAtMs ≤ observedAtMs then
      return (none, .removed model nextMisses firstMissingAtMs)
    else
      return (some (.suspectedRemoved nextMisses firstMissingAtMs removalEligibleAtMs),
        .suspectedRemoved model nextMisses firstMissingAtMs removalEligibleAtMs)

/-- A known model is present, or missed. -/
def comparedModel (snapshot : CatalogSnapshot) (diff : Models × List CatalogDiffEvent)
    (known : DiscoveredModel × CatalogDiffModelState) :
    Except CatalogDiffError (Models × List CatalogDiffEvent) :=
  if known.1 ∈ snapshot.models then .ok diff
  else do
    let (state, event) ← missedModel snapshot.observedAtMs known.1 known.2
    return (match state with
      | some state => diff.1.insert known.1 state
      | none => diff.1.erase known.1, diff.2 ++ [event])

/-- A new target has no models. -/
def knownModels (previous : Option CatalogDiffTargetState) : Models :=
  previous.elim ∅ (·.models)

/-- First the models of the snapshot, then the known ones. -/
def buildCatalogDiff (previous : Option CatalogDiffTargetState) (snapshot : CatalogSnapshot) :
    Except CatalogDiffError (Models × List CatalogDiffEvent) :=
  (knownModels previous).toList.foldlM (comparedModel snapshot)
    (snapshot.models.foldl presentModel (knownModels previous, []))

namespace CatalogDiffRegistry

/-- A new target is of generation zero. -/
def generationOf (state : Option CatalogDiffTargetState) : UInt64 := state.elim 0 (·.generation)

/-- Nothing is changed. -/
def preview (registry : CatalogDiffRegistry) (snapshot : CatalogSnapshot) :
    Except CatalogDiffError CatalogDiffPreview := do
  let previous := registry.targets snapshot.target
  validateDiffSnapshot previous snapshot
  let (models, events) ← buildCatalogDiff previous snapshot
  return {
    target := snapshot.target
    snapshotVersion := snapshot.version
    baseGeneration := generationOf previous
    events
    nextState := {
      generation := generationOf previous
      lastSnapshotVersion := snapshot.version
      lastObservedAtMs := snapshot.observedAtMs
      models } }

/-- The target has to be of the generation of the preview. -/
def apply (plan : CatalogDiffPreview) :
    Method CatalogDiffRegistry CatalogDiffError CatalogDiffApplyResult := do
  let registry ← get
  let currentGeneration := generationOf (registry.targets plan.target)
  ensure (currentGeneration = plan.baseGeneration) .stalePreview
  let generation ← okOr (checkedAdd currentGeneration 1) .generationOverflow
  set { registry with targets := fun target =>
    if target = plan.target then some { plan.nextState with generation }
      else registry.targets target }
  return { plan with generation }

end CatalogDiffRegistry

end CpaGateway.Catalog.DiffRegistry
