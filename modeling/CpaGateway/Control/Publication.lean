import CpaGateway.Core.Identity
import CpaGateway.Lib.Tables

/-! # Publication of Config Versions

A Config Version is a graph of resources with a status. Publishing one compiles its graph to a
Snapshot, activates the version in the database and then makes the Snapshot the current one; the
Snapshot that was current before stays for one rollback. At a start both are built again, from the
active version and from the latest audit event about it.

Of a graph nothing is assumed: `Compiler` stands for the checks and the compilation of graphs. -/

namespace CpaGateway.Control.Publication

open Core.Identity Lib.Effect Lib.Fallible Lib.Tables

/-! ### The database -/

inductive ConfigVersionStatus
  | draft
  | active
  | archived
  deriving DecidableEq

@[ext] structure ConfigVersion where
  id : ConfigVersionId
  status : ConfigVersionStatus
  revision : ℤ
  deriving DecidableEq

@[ext] structure ControlPlaneConfiguration (γ : Type) where
  version : ConfigVersion
  graph : γ

inductive ManagementAuditAction
  | created
  | published
  | rolledBack
  deriving DecidableEq

structure ManagementAuditEventDraft where
  action : ManagementAuditAction
  actor : String
  occurredAtMs : ℤ
  deriving DecidableEq

structure ManagementAuditEvent where
  draft : ManagementAuditEventDraft
  configVersionId : ConfigVersionId
  replacedConfigVersionId : Option ConfigVersionId
  deriving DecidableEq

inductive StoreError
  | sqlite
  | malformed
  | configVersionNotFound
  | configVersionAlreadyActive
  | configVersionRevisionConflict
  | controlPlaneMutationRequiresDraft
  | invalidManagementAuditEvent
  deriving DecidableEq

section Database

variable {γ : Type}

def ControlPlaneConfiguration.setStatus (status : ConfigVersionStatus)
    (configuration : ControlPlaneConfiguration γ) : ControlPlaneConfiguration γ :=
  { configuration with version := { configuration.version with status := status } }

/-- The versions with their graphs, and the audit events in their order. There is one version under
an identifier, and at most one is active. -/
structure ControlPlane (γ : Type) where
  configurations : List (ControlPlaneConfiguration γ)
  auditEvents : List ManagementAuditEvent
  unique : (configurations.map (·.version.id)).Nodup
  oneActive : ∀ c ∈ configurations, ∀ d ∈ configurations,
    c.version.status = .active → d.version.status = .active → c.version.id = d.version.id

def ControlPlane.loadConfiguration (s : ControlPlane γ) (id : ConfigVersionId) :
    Option (ControlPlaneConfiguration γ) :=
  s.configurations.find? (·.version.id = id)

def ControlPlane.loadActiveConfiguration (s : ControlPlane γ) :
    Option (ControlPlaneConfiguration γ) :=
  s.configurations.find? (·.version.status = .active)

def archiveActive (configuration : ControlPlaneConfiguration γ) : ControlPlaneConfiguration γ :=
  if configuration.version.status = .active then configuration.setStatus .archived
    else configuration

def setActive (id : ConfigVersionId) (configuration : ControlPlaneConfiguration γ) :
    ControlPlaneConfiguration γ :=
  if configuration.version.id = id then configuration.setStatus .active else configuration

/-- What an activation does to a version: the active one is archived, then the target is active. -/
def activated (id : ConfigVersionId) (configuration : ControlPlaneConfiguration γ) :
    ControlPlaneConfiguration γ := setActive id (archiveActive configuration)

variable (id : ConfigVersionId) (c : ControlPlaneConfiguration γ)

@[simp] theorem id_activated : (activated id c).version.id = c.version.id := by
  unfold activated setActive archiveActive
  split_ifs <;> rfl

@[simp] theorem graph_activated : (activated id c).graph = c.graph := by
  unfold activated setActive archiveActive
  split_ifs <;> rfl

@[simp] theorem revision_activated : (activated id c).version.revision = c.version.revision := by
  unfold activated setActive archiveActive
  split_ifs <;> rfl

theorem status_activated :
    (activated id c).version.status = if c.version.id = id then .active
      else if c.version.status = .active then .archived else c.version.status := by
  have hid : (archiveActive c).version.id = c.version.id := by
    unfold archiveActive
    split_ifs <;> rfl
  rw [activated, setActive, hid]
  split_ifs with htarget hactive
  · rfl
  · rw [archiveActive, if_pos hactive]
    rfl
  · rw [archiveActive, if_neg hactive]

theorem id_of_activated {id : ConfigVersionId} {c : ControlPlaneConfiguration γ}
    (h : (activated id c).version.status = .active) : c.version.id = id := by
  rw [status_activated] at h
  split_ifs at h with htarget hactive
  · exact htarget
  · exact absurd h hactive

def ControlPlane.activate (s : ControlPlane γ) (id : ConfigVersionId) : ControlPlane γ :=
  { s with
    configurations := s.configurations.map (activated id)
    unique := by
      rw [List.map_map]
      convert s.unique using 2
      funext c
      exact id_activated id c
    oneActive := by
      intro c hc d hd hactive hactive'
      obtain ⟨c, -, rfl⟩ := List.mem_map.mp hc
      obtain ⟨d, -, rfl⟩ := List.mem_map.mp hd
      rw [id_activated, id_activated, id_of_activated hactive, id_of_activated hactive'] }

structure ConfigVersionActivation where
  activatedVersionId : ConfigVersionId
  replacedActiveVersionId : Option ConfigVersionId
  deriving DecidableEq

def activateVersion (id : ConfigVersionId) :
    Method (ControlPlane γ) StoreError ConfigVersionActivation := do
  let s ← get
  let target ← okOr (s.loadConfiguration id) .configVersionNotFound
  ensure (target.version.status != .active) .configVersionAlreadyActive
  set (s.activate id)
  return ⟨id, s.loadActiveConfiguration.map (·.version.id)⟩

/-- Something that goes wrong from outside. -/
def raise {σ ε : Type} : Option ε → Method σ ε Unit
  | none => return ()
  | some e => throw e

/-- The activation and its audit event are one transaction; `fault` is a failure of it. -/
def activateVersionWithAudit (fault : Option StoreError) (id : ConfigVersionId)
    (draft : ManagementAuditEventDraft) :
    Method (ControlPlane γ) StoreError ConfigVersionActivation := do
  ensure (draft.action = .published || draft.action = .rolledBack) .invalidManagementAuditEvent
  transaction do
    let activation ← activateVersion id
    modify fun s => { s with auditEvents := s.auditEvents ++
      [⟨draft, activation.activatedVersionId, activation.replacedActiveVersionId⟩] }
    raise fault
    return activation

def latestRollbackPredecessorId (auditEvents : List ManagementAuditEvent)
    (activeId : ConfigVersionId) : Option ConfigVersionId := do
  let event ← auditEvents.reverse.find? fun event =>
    event.configVersionId = activeId &&
      (event.draft.action = .published || event.draft.action = .rolledBack)
  event.replacedConfigVersionId

def ControlPlane.loadRollbackPredecessor (s : ControlPlane γ) (activeId : ConfigVersionId) :
    Except StoreError (Option (ControlPlaneConfiguration γ)) :=
  match latestRollbackPredecessorId s.auditEvents activeId with
  | none => return none
  | some predecessorId => do
    let predecessor ← okOr (s.loadConfiguration predecessorId) .malformed
    ensure (predecessor.version.status = .archived) .malformed
    return some predecessor

/-! ### Drafts -/

/-- The version with a new graph and the next revision. -/
def mutated (id : ConfigVersionId) (graph : γ) (configuration : ControlPlaneConfiguration γ) :
    ControlPlaneConfiguration γ :=
  if configuration.version.id = id then
    { version := { configuration.version with revision := configuration.version.revision + 1 }
      graph := graph }
  else configuration

@[simp] theorem id_mutated (graph : γ) (c : ControlPlaneConfiguration γ) :
    (mutated id graph c).version.id = c.version.id := by
  unfold mutated
  split_ifs <;> rfl

@[simp] theorem status_mutated (graph : γ) (c : ControlPlaneConfiguration γ) :
    (mutated id graph c).version.status = c.version.status := by
  unfold mutated
  split_ifs <;> rfl

def ControlPlane.mutate (s : ControlPlane γ) (id : ConfigVersionId) (graph : γ) : ControlPlane γ :=
  { s with
    configurations := s.configurations.map (mutated id graph)
    unique := by
      rw [List.map_map]
      convert s.unique using 2
      funext c
      exact id_mutated id graph c
    oneActive := by
      intro _ hmem _ hmem' hactive hactive'
      obtain ⟨c, hc, rfl⟩ := List.mem_map.mp hmem
      obtain ⟨d, hd, rfl⟩ := List.mem_map.mp hmem'
      rw [status_mutated] at hactive hactive'
      rw [id_mutated, id_mutated]
      exact s.oneActive c hc d hd hactive hactive' }

/-- One mutation of a draft: `mutation` is what the callback makes of the graph. -/
def mutateDraftConfiguration (id : ConfigVersionId) (expectedRevision : ℤ)
    (mutation : γ → Except StoreError γ) : Method (ControlPlane γ) StoreError ℤ :=
  transaction do
    ensure (0 ≤ expectedRevision) .configVersionRevisionConflict
    let s ← get
    let draft ← okOr (s.loadConfiguration id) .configVersionNotFound
    ensure (draft.version.status = .draft) .controlPlaneMutationRequiresDraft
    ensure (draft.version.revision = expectedRevision) .configVersionRevisionConflict
    let graph ← liftM (mutation draft.graph)
    set (s.mutate id graph)
    return expectedRevision + 1

end Database

/-! ### Snapshots -/

/-- A compiled view under the version that it was compiled from. -/
structure RouteSnapshot (β : Type) where
  version : SnapshotVersion
  view : β

inductive SnapshotRegistryError
  | sameVersion
  | noRollbackAvailable
  | publicationLockPoisoned
  deriving DecidableEq

inductive SnapshotPublicationError (ε : Type)
  | configVersionNotFound
  | compile (error : ε)
  | registry (error : SnapshotRegistryError)
  | store (error : StoreError)
  | invalidSnapshotVersion
  | noPersistedRollbackTarget

structure RouteSnapshotRegistry (β : Type) where
  current : RouteSnapshot β
  previous : Option (RouteSnapshot β)

structure PreparedSnapshotPublication (β : Type) where
  next : RouteSnapshot β
  previous : RouteSnapshot β

section Registry

variable {β : Type}

def RouteSnapshotRegistry.tryNewWithPrevious (initial : RouteSnapshot β)
    (previous : Option (RouteSnapshot β)) :
    Except SnapshotRegistryError (RouteSnapshotRegistry β) := do
  ensure (!previous.any (·.version = initial.version)) .sameVersion
  return ⟨initial, previous⟩

/-- Reserves the transition to a Snapshot. -/
def RouteSnapshotRegistry.prepare (registry : RouteSnapshotRegistry β) (next : RouteSnapshot β) :
    Except SnapshotRegistryError (PreparedSnapshotPublication β) := do
  ensure (registry.current.version != next.version) .sameVersion
  return ⟨next, registry.current⟩

def RouteSnapshotRegistry.preparePublication (registry : RouteSnapshotRegistry β)
    (next : RouteSnapshot β) : Except SnapshotRegistryError (PreparedSnapshotPublication β) :=
  registry.prepare next

def RouteSnapshotRegistry.prepareRollback (registry : RouteSnapshotRegistry β) :
    Except SnapshotRegistryError (PreparedSnapshotPublication β) := do
  let next ← okOr registry.previous .noRollbackAvailable
  registry.prepare next

def PreparedSnapshotPublication.commit (prepared : PreparedSnapshotPublication β) :
    RouteSnapshotRegistry β := ⟨prepared.next, some prepared.previous⟩

end Registry

/-! ### The publication service -/

/-- The checks and the compilation of graphs, and the view of no graph. -/
structure Compiler (γ β ε : Type) where
  compile : ConfigVersionId → γ → Except ε β
  emptyView : β

def syntheticBootstrapVersion : SnapshotVersion := ⟨"bootstrap-empty", by decide⟩

/-- A process and the database it works on. -/
structure Process (γ β : Type) where
  database : ControlPlane γ
  registry : RouteSnapshotRegistry β
  syntheticVersion : Option SnapshotVersion

section Service

variable {γ β ε : Type} (compiler : Compiler γ β ε)

def compiledSnapshot (configuration : ControlPlaneConfiguration γ) :
    Except (SnapshotPublicationError ε) (RouteSnapshot β) := do
  let view ← (compiler.compile configuration.version.id configuration.graph).mapError .compile
  let version ← okOr (Identifier.tryNew configuration.version.id.asStr) .invalidSnapshotVersion
  return ⟨version, view⟩

def emptyBootstrapSnapshot : RouteSnapshot β := ⟨syntheticBootstrapVersion, compiler.emptyView⟩

/-- Everything of the start of a process that can be wrong is an error, and there is no process
then. -/
def bootstrap (database : ControlPlane γ) : Except (SnapshotPublicationError ε) (Process γ β) :=
  match database.loadActiveConfiguration with
  | some active => do
    let current ← compiledSnapshot compiler active
    let predecessor ← (database.loadRollbackPredecessor active.version.id).mapError .store
    let previous ← predecessor.mapM (compiledSnapshot compiler)
    let registry ← (RouteSnapshotRegistry.tryNewWithPrevious current previous).mapError .registry
    return ⟨database, registry, none⟩
  | none => do
    let current := emptyBootstrapSnapshot compiler
    let registry ← (RouteSnapshotRegistry.tryNewWithPrevious current none).mapError .registry
    return ⟨database, registry, some current.version⟩

/-- What goes wrong from outside, at the stages of a call. -/
structure Faults (ε : Type) where
  load : Option StoreError := none
  compile : Option ε := none
  reserve : Option SnapshotRegistryError := none
  transaction : Option StoreError := none

variable (faults : Faults ε)

/-- The last stages of a call: the version is activated, then the Snapshot is made the current one.
-/
def finish (id : ConfigVersionId) (draft : ManagementAuditEventDraft)
    (prepared : PreparedSnapshotPublication β) :
    Method (Process γ β) (SnapshotPublicationError ε) ConfigVersionActivation := do
  let activation ← Method.onPart Process.database
    (fun p database => { p with database := database }) .store
    (activateVersionWithAudit faults.transaction id draft)
  modify fun p => { p with registry := prepared.commit }
  return activation

def publishVersionWithAudit (id : ConfigVersionId) (draft : ManagementAuditEventDraft) :
    Method (Process γ β) (SnapshotPublicationError ε) ConfigVersionActivation := do
  ensure (draft.action = .published) (.store .invalidManagementAuditEvent)
  raise (faults.load.map .store)
  let configuration ← okOr ((← get).database.loadConfiguration id) .configVersionNotFound
  raise (faults.compile.map .compile)
  let replacement ← liftM (compiledSnapshot compiler configuration)
  raise (faults.reserve.map .registry)
  let reservation := (← get).registry.preparePublication replacement
  let prepared ← liftM (reservation.mapError (SnapshotPublicationError.registry (ε := ε)))
  finish faults id draft prepared

def rollbackWithAudit (draft : ManagementAuditEventDraft) :
    Method (Process γ β) (SnapshotPublicationError ε) ConfigVersionActivation := do
  ensure (draft.action = .rolledBack) (.store .invalidManagementAuditEvent)
  raise (faults.reserve.map .registry)
  let reservation := (← get).registry.prepareRollback
  let prepared ← liftM (reservation.mapError (SnapshotPublicationError.registry (ε := ε)))
  ensure (!(← get).syntheticVersion.any (prepared.next.version = ·)) .noPersistedRollbackTarget
  let target ← okOr (Identifier.tryNew prepared.next.version.asStr) .invalidSnapshotVersion
  finish faults target draft prepared

end Service

end CpaGateway.Control.Publication
