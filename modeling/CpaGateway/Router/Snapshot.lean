import CpaGateway.Router.RouteSchedule

/-! # Route snapshots

The immutable view of the routes that one request is served from. A snapshot is only built by
`RouteSnapshot.tryNew`, which checks the references between its tables; the structure carries what
the checks give (`WellFormed`). The ordered maps of the source are tree maps; its ordered sets,
which are only asked for their members, are finite sets. -/

namespace CpaGateway.Router.Snapshot

open Core.Identity Lib.Fallible Router.Schedule

structure SnapshotPublicModel where
  id : PublicModelId
  modelName : String
  routeId : RouteId
  deriving DecidableEq

structure SnapshotAccessGroup where
  id : AccessGroupId
  allowedRouteIds : Finset RouteId
  deriving DecidableEq

def SnapshotAccessGroup.permitsRoute (group : SnapshotAccessGroup) (routeId : RouteId) : Bool :=
  decide (routeId ∈ group.allowedRouteIds)

/-- A client key without its secret parts, with the permissions copied from its access group. -/
structure SnapshotClientKeyView where
  clientKeyId : ClientKeyId
  accessGroupId : AccessGroupId
  keyPrefix : String
  allowedRouteIds : Finset RouteId
  deriving DecidableEq

structure RouteSnapshotInput where
  publicModels : List SnapshotPublicModel
  aliases : List (String × PublicModelId)
  routes : List SnapshotRoute
  accessGroups : List SnapshotAccessGroup
  clientKeys : List SnapshotClientKeyView

/-! ### Building a snapshot -/

/-- The tables of a snapshot. -/
structure Tables where
  publicModels : Std.TreeMap String SnapshotPublicModel
  publicModelNamesById : Std.TreeMap PublicModelId String
  aliases : Std.TreeMap String PublicModelId
  routes : Std.TreeMap RouteId SnapshotRoute
  routeSchedules : Std.TreeMap RouteId SnapshotRouteSchedule
  accessGroups : Std.TreeMap AccessGroupId SnapshotAccessGroup
  clientKeys : Std.TreeMap String SnapshotClientKeyView

def Tables.empty : Tables := ⟨∅, ∅, ∅, ∅, ∅, ∅, ∅⟩

def addPublicModel (tables : Tables) (model : SnapshotPublicModel) :
    Except RouteSnapshotBuildError Tables := do
  ensure (!tables.publicModels.contains model.modelName) .duplicatePublicModelName
  ensure (!tables.publicModelNamesById.contains model.id) .duplicatePublicModelId
  return { tables with
    publicModels := tables.publicModels.insert model.modelName model
    publicModelNamesById := tables.publicModelNamesById.insert model.id model.modelName }

/-- Adds the identities of the candidates to those seen so far. -/
def addCandidateIds (seen : Finset RouteCandidateId) (candidates : List SnapshotRouteCandidate) :
    Except RouteSnapshotBuildError (Finset RouteCandidateId) :=
  candidates.foldlM (fun seen candidate => do
    ensure (decide (candidate.id ∉ seen)) .duplicateCandidate
    return insert candidate.id seen) seen

/-- One turn of the loop of `build_routes`. -/
def addRoute (state : Tables × Finset RouteCandidateId) (route : SnapshotRoute) :
    Except RouteSnapshotBuildError (Tables × Finset RouteCandidateId) := do
  let (tables, candidateIds) := state
  ensure (!tables.routes.contains route.id) .duplicateRoute
  ensure (tables.publicModelNamesById.contains route.publicModelId) .unknownRoutePublicModel
  ensure (!route.candidates.isEmpty) .routeHasNoCandidates
  let candidateIds ← addCandidateIds candidateIds route.candidates
  let schedule ← SnapshotRouteSchedule.tryCompile route
  return ({ tables with
    routes := tables.routes.insert route.id route
    routeSchedules := tables.routeSchedules.insert route.id schedule }, candidateIds)

def checkPublicModel (tables : Tables) (model : SnapshotPublicModel) :
    Except RouteSnapshotBuildError Unit := do
  let route ← okOr tables.routes[model.routeId]? .publicModelMissingRoute
  ensure (decide (route.publicModelId = model.id)) .publicModelRouteMismatch

def addAlias (tables : Tables) (entry : String × PublicModelId) :
    Except RouteSnapshotBuildError Tables := do
  ensure (!tables.publicModels.contains entry.1) .aliasConflictsPublicModel
  ensure (tables.publicModelNamesById.contains entry.2) .unknownAliasPublicModel
  ensure (!tables.aliases.contains entry.1) .duplicateAlias
  return { tables with aliases := tables.aliases.insert entry.1 entry.2 }

def addAccessGroup (tables : Tables) (group : SnapshotAccessGroup) :
    Except RouteSnapshotBuildError Tables := do
  ensure (!tables.accessGroups.contains group.id) .duplicateAccessGroup
  ensure (decide (∀ routeId ∈ group.allowedRouteIds, tables.routes.contains routeId))
    .accessGroupReferencesUnknownRoute
  return { tables with accessGroups := tables.accessGroups.insert group.id group }

def addClientKey (state : Tables × Finset ClientKeyId) (key : SnapshotClientKeyView) :
    Except RouteSnapshotBuildError (Tables × Finset ClientKeyId) := do
  let (tables, clientKeyIds) := state
  let group ← okOr tables.accessGroups[key.accessGroupId]? .clientKeyReferencesUnknownAccessGroup
  ensure (decide (key.allowedRouteIds = group.allowedRouteIds)) .clientKeyRoutePermissionsMismatch
  ensure (decide (key.clientKeyId ∉ clientKeyIds)) .duplicateClientKeyId
  ensure (!tables.clientKeys.contains key.keyPrefix) .duplicateClientKeyPrefix
  return ({ tables with clientKeys := tables.clientKeys.insert key.keyPrefix key },
    insert key.clientKeyId clientKeyIds)

/-- The checks of `try_new`, in its order. -/
def build (input : RouteSnapshotInput) : Except RouteSnapshotBuildError Tables := do
  let tables ← input.publicModels.foldlM addPublicModel .empty
  let (tables, _) ← input.routes.foldlM addRoute (tables, ∅)
  tables.publicModels.toList.forM fun entry => checkPublicModel tables entry.2
  let tables ← input.aliases.foldlM addAlias tables
  let tables ← input.accessGroups.foldlM addAccessGroup tables
  let (tables, _) ← input.clientKeys.foldlM addClientKey (tables, ∅)
  return tables

/-! ### What the checks give -/

/-- The public models are filed under their names, and the names under their identities. -/
structure Named (tables : Tables) : Prop where
  named : ∀ (name : String) (model : SnapshotPublicModel),
    tables.publicModels[name]? = some model → model.modelName = name
  known : ∀ (id : PublicModelId) (name : String), tables.publicModelNamesById[id]? = some name ↔
    ∃ model : SnapshotPublicModel, tables.publicModels[name]? = some model ∧ model.id = id

/-- The routes are filed under their identities, have candidates and are compiled. -/
def Scheduled (tables : Tables) : Prop :=
  ∀ (id : RouteId) (route : SnapshotRoute), tables.routes[id]? = some route → route.id = id ∧
    route.candidates ≠ [] ∧
    ∃ schedule, tables.routeSchedules[id]? = some schedule ∧ Compiled route schedule

/-- Every public model has a route, which is a route for it. -/
def Routed (tables : Tables) : Prop :=
  ∀ (name : String) (model : SnapshotPublicModel), tables.publicModels[name]? = some model →
    ∃ route : SnapshotRoute, tables.routes[model.routeId]? = some route ∧
      route.publicModelId = model.id

/-- An alias is not the name of a model, and stands for a model. -/
def Aliased (tables : Tables) : Prop :=
  ∀ (alternative : String) (id : PublicModelId), tables.aliases[alternative]? = some id →
    tables.publicModels[alternative]? = none ∧
      ∃ name : String, tables.publicModelNamesById[id]? = some name

structure WellFormed (tables : Tables) : Prop extends Named tables where
  scheduled : Scheduled tables
  routed : Routed tables
  aliased : Aliased tables

theorem named_empty : Named .empty := by
  refine ⟨fun name model h => ?_, fun id name => ?_⟩
  · simp [Tables.empty] at h
  · simp [Tables.empty]

variable {tables tables' : Tables}

theorem Named.addPublicModel {model : SnapshotPublicModel}
    (h : Named tables) (hadd : Snapshot.addPublicModel tables model = .ok tables') :
    Named tables' := by
  simp only [Snapshot.addPublicModel, except_ok, Bool.not_eq_true',
    Std.TreeMap.contains_eq_isSome_getElem?, Option.isSome_eq_false_iff, Option.isNone_iff_eq_none]
    at hadd
  obtain ⟨-, hname, -, hid, rfl⟩ := hadd
  refine ⟨fun name other hget => ?_, fun id name => ?_⟩
  · simp only [Std.TreeMap.getElem?_insert, Std.compare_eq_iff_eq] at hget
    split_ifs at hget with heq
    · cases hget
      exact heq
    · exact h.named name other hget
  · simp only [Std.TreeMap.getElem?_insert, Std.compare_eq_iff_eq]
    split_ifs with hi hn hn
    · simp [hi, hn]
    · -- nothing was filed under the new identity
      subst hi
      have := h.known model.id name
      simp only [hid] at this
      simpa [hn] using this
    · -- nothing was filed under the new name
      subst hn
      rw [h.known, hname]
      simpa using hi
    · exact h.known id name

theorem Scheduled.addRoute {state state' : Tables × Finset RouteCandidateId} {route : SnapshotRoute}
    (h : Scheduled state.1) (hadd : Snapshot.addRoute state route = .ok state') :
    Scheduled state'.1 ∧ state'.1.publicModels = state.1.publicModels ∧
      state'.1.publicModelNamesById = state.1.publicModelNamesById ∧
      state'.1.aliases = state.1.aliases := by
  simp only [Snapshot.addRoute, except_ok, Bool.not_eq_true', List.isEmpty_eq_false_iff] at hadd
  obtain ⟨-, -, -, -, -, hne, -, -, schedule, hcompile, rfl⟩ := hadd
  refine ⟨fun id other hget => ?_, rfl, rfl, rfl⟩
  simp only [Std.TreeMap.getElem?_insert, Std.compare_eq_iff_eq] at hget ⊢
  split_ifs at hget ⊢ with heq
  · cases hget
    exact ⟨heq, hne, schedule, rfl, compiled_of_tryCompile hcompile⟩
  · exact h id other hget

theorem routed_of_forM
    (h : tables.publicModels.toList.forM (fun entry => checkPublicModel tables entry.2) =
      Except.ok ()) : Routed tables := by
  intro name model hget
  have hcheck := forM_ok h (Std.TreeMap.mem_toList_iff_getElem?_eq_some.mpr hget)
  simpa only [checkPublicModel, except_ok, decide_eq_true_eq] using hcheck

theorem WellFormed.addAlias {entry : String × PublicModelId}
    (h : WellFormed tables) (hadd : Snapshot.addAlias tables entry = .ok tables') :
    WellFormed tables' := by
  simp only [Snapshot.addAlias, except_ok, Bool.not_eq_true',
    Std.TreeMap.contains_eq_isSome_getElem?, Option.isSome_eq_false_iff, Option.isNone_iff_eq_none,
    Option.isSome_iff_exists] at hadd
  obtain ⟨-, hname, -, hknown, -, -, rfl⟩ := hadd
  refine ⟨⟨h.named, h.known⟩, h.scheduled, h.routed, fun alternative id hget => ?_⟩
  simp only [Std.TreeMap.getElem?_insert, Std.compare_eq_iff_eq] at hget
  split_ifs at hget with heq
  · cases hget
    exact ⟨heq ▸ hname, hknown⟩
  · exact h.aliased alternative id hget

theorem WellFormed.addAccessGroup {group : SnapshotAccessGroup}
    (h : WellFormed tables) (hadd : Snapshot.addAccessGroup tables group = .ok tables') :
    WellFormed tables' := by
  simp only [Snapshot.addAccessGroup, except_ok] at hadd
  obtain ⟨-, -, -, -, rfl⟩ := hadd
  exact ⟨⟨h.named, h.known⟩, h.scheduled, h.routed, h.aliased⟩

theorem WellFormed.addClientKey {state state' : Tables × Finset ClientKeyId}
    {key : SnapshotClientKeyView} (h : WellFormed state.1)
    (hadd : Snapshot.addClientKey state key = .ok state') : WellFormed state'.1 := by
  simp only [Snapshot.addClientKey, except_ok] at hadd
  obtain ⟨-, -, -, -, -, -, -, -, rfl⟩ := hadd
  exact ⟨⟨h.named, h.known⟩, h.scheduled, h.routed, h.aliased⟩

theorem wellFormed_of_build {input : RouteSnapshotInput}
    (h : build input = .ok tables) : WellFormed tables := by
  simp only [build, except_ok] at h
  obtain ⟨models, hmodels, routes, hroutes, ⟨⟩, hcheck, aliases, haliases, groups, hgroups,
    keys, hkeys, rfl⟩ := h
  have hnamed : Named models ∧ models.routes = ∅ ∧ models.aliases = ∅ := by
    refine foldlM_ok (fun _ tables => Named tables ∧ tables.routes = ∅ ∧ tables.aliases = ∅) hmodels
      []
      ⟨named_empty, rfl, rfl⟩ fun _ model tables tables' h hstep => ?_
    refine ⟨h.1.addPublicModel hstep, ?_⟩
    simp only [addPublicModel, except_ok] at hstep
    obtain ⟨-, -, -, -, rfl⟩ := hstep
    exact h.2
  have hscheduled : Scheduled routes.1 ∧ routes.1.publicModels = models.publicModels ∧
      routes.1.publicModelNamesById = models.publicModelNamesById ∧
      routes.1.aliases = models.aliases := by
    refine foldlM_ok (fun _ state => Scheduled state.1 ∧
      state.1.publicModels = models.publicModels ∧
      state.1.publicModelNamesById = models.publicModelNamesById ∧
      state.1.aliases = models.aliases) hroutes [] ⟨fun id route hget => ?_, rfl, rfl, rfl⟩
      fun _ route state state' h hstep => ?_
    · simp [hnamed.2.1] at hget
    · obtain ⟨hs, hm, hn, ha⟩ := h.1.addRoute hstep
      exact ⟨hs, hm.trans h.2.1, hn.trans h.2.2.1, ha.trans h.2.2.2⟩
  obtain ⟨hscheduled, hm, hn, ha⟩ := hscheduled
  have hstart : WellFormed routes.1 := by
    refine ⟨⟨?_, ?_⟩, hscheduled, routed_of_forM hcheck, fun alternative id hget => ?_⟩
    · rw [hm]
      exact hnamed.1.named
    · rw [hm, hn]
      exact hnamed.1.known
    · simp [ha, hnamed.2.2] at hget
  have haliased : WellFormed aliases :=
    foldlM_ok (fun _ tables => WellFormed tables) haliases [] hstart
      fun _ _ _ _ h hstep => h.addAlias hstep
  have hgrouped : WellFormed groups :=
    foldlM_ok (fun _ tables => WellFormed tables) hgroups [] haliased
      fun _ _ _ _ h hstep => h.addAccessGroup hstep
  exact foldlM_ok (fun _ state => WellFormed state.1) hkeys [] hgrouped
    fun _ _ _ _ h hstep => h.addClientKey hstep

/-! ### Snapshots -/

/-- An immutable view of the routes. -/
structure RouteSnapshot extends Tables where
  wellFormed : WellFormed toTables

namespace RouteSnapshot

def tryNew (input : RouteSnapshotInput) : Except RouteSnapshotBuildError RouteSnapshot :=
  match h : build input with
  | .ok tables => .ok ⟨tables, wellFormed_of_build h⟩
  | .error e => .error e

variable (snapshot : RouteSnapshot)

def route (routeId : RouteId) : Option SnapshotRoute := snapshot.routes[routeId]?

def routeSchedule (routeId : RouteId) : Option SnapshotRouteSchedule :=
  snapshot.routeSchedules[routeId]?

def accessGroup (accessGroupId : AccessGroupId) : Option SnapshotAccessGroup :=
  snapshot.accessGroups[accessGroupId]?

def resolvePublicModel (modelNameOrAlias : String) : Option SnapshotPublicModel :=
  snapshot.publicModels[modelNameOrAlias]?.or do
    let publicModelId ← snapshot.aliases[modelNameOrAlias]?
    let publicModelName ← snapshot.publicModelNamesById[publicModelId]?
    snapshot.publicModels[publicModelName]?

def publicModelIsVisibleTo (group : SnapshotAccessGroup) (model : SnapshotPublicModel) : Bool :=
  group.permitsRoute model.routeId &&
    (snapshot.route model.routeId).any (·.hasHardEligibleCandidate)

def resolvePublicModelForAccessGroup (accessGroupId : AccessGroupId) (modelNameOrAlias : String) :
    Option SnapshotPublicModel := do
  let group ← snapshot.accessGroup accessGroupId
  let model ← snapshot.resolvePublicModel modelNameOrAlias
  if snapshot.publicModelIsVisibleTo group model then some model else none

/-- The models in the order of their names. -/
def publicModelsForAccessGroup (accessGroupId : AccessGroupId) : List SnapshotPublicModel :=
  (snapshot.publicModels.toList.map (·.2)).filter fun model =>
    (snapshot.accessGroup accessGroupId).any (snapshot.publicModelIsVisibleTo · model)

end RouteSnapshot

end CpaGateway.Router.Snapshot
