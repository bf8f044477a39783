import CpaGateway.Control.Publication
import CpaGateway.Lib.Transition

/-! # Every history of publications, rollbacks and restarts

The status of the versions, the audit events and the two Snapshots of the registry tell one history.
While a version is active, the current Snapshot is its compiled graph, and the predecessor in the
registry is the compiled graph of the version that the latest audit event about the active version
names (`Consistent`). So a start builds the registry that the process before had. -/

namespace CpaGateway.Control.PublicationHistory

open Core.Identity Control.Publication Lib.Effect Lib.Fallible Lib.Tables Lib.Transition
open RouteSnapshotRegistry ControlPlane Identifier

variable {γ β ε : Type} {compiler : Compiler γ β ε} {faults : Faults ε}

/-! ### The database after a transition -/

variable {draft : ManagementAuditEventDraft} {s s' database : ControlPlane γ} {id : ConfigVersionId}

section Database

variable {x : ConfigVersionId} {target : ControlPlaneConfiguration γ}

/-- The database after a version was activated with an audit event. -/
def transition (s : ControlPlane γ) (id : ConfigVersionId) (draft : ManagementAuditEventDraft) :
    ControlPlane γ :=
  { s.activate id with
    auditEvents := s.auditEvents ++ [⟨draft, id, s.loadActiveConfiguration.map (·.version.id)⟩] }

theorem load_transition :
    (transition s id draft).loadConfiguration x = (s.loadConfiguration x).map (activated id) := by
  rw [loadConfiguration, transition, activate, List.find?_map]
  congr 2
  funext c
  simp

theorem mem_of_load (h : s.loadConfiguration x = some target) :
    target ∈ s.configurations ∧ target.version.id = x :=
  ⟨List.mem_of_find?_eq_some h, by simpa using List.find?_some h⟩

theorem load_of_mem (h : target ∈ s.configurations) :
    s.loadConfiguration target.version.id = some target := by
  have hsome : (s.loadConfiguration target.version.id).isSome := by
    rw [loadConfiguration, List.find?_isSome]
    exact ⟨target, h, by simp⟩
  obtain ⟨found, hfound⟩ := Option.isSome_iff_exists.mp hsome
  obtain ⟨hmem, hid⟩ := mem_of_load hfound
  rw [hfound, List.inj_on_of_nodup_map s.unique hmem h hid]

theorem load_of_active (h : s.loadActiveConfiguration = some target) :
    s.loadConfiguration target.version.id = some target ∧ target.version.status = .active :=
  ⟨load_of_mem (List.mem_of_find?_eq_some h), by simpa using List.find?_some h⟩

theorem active_of_load (h : s.loadConfiguration x = some target)
    (hactive : target.version.status = .active) : s.loadActiveConfiguration = some target := by
  have hsome : s.loadActiveConfiguration.isSome := by
    rw [loadActiveConfiguration, List.find?_isSome]
    exact ⟨target, (mem_of_load h).1, by simpa using hactive⟩
  obtain ⟨found, hfound⟩ := Option.isSome_iff_exists.mp hsome
  obtain ⟨hload, hstatus⟩ := load_of_active hfound
  have hid := s.oneActive found (mem_of_load hload).1 target (mem_of_load h).1 hstatus hactive
  rw [hid, load_of_mem (mem_of_load h).1] at hload
  rw [hfound, Option.some.inj hload]

end Database

/-! ### Calls -/

variable {p p' : Process γ β} {a : ConfigVersionActivation}

section Calls

variable {fault : Option StoreError} {prepared : PreparedSnapshotPublication β}

theorem call_raise_ok {σ α : Type} {x : Option α} {u : Unit} {t t' : σ} :
    (raise x : Method σ α Unit).call t = (.ok u, t') ↔ x = none ∧ t = t' := by
  cases x <;> simp [raise]

theorem restores_raise_bind {σ α η : Type} {x : Option α} {f : Unit → Method σ α η}
    (hf : Restores (f ())) : Restores (raise x >>= f) := by
  intro t e t' h
  cases x with
  | none => exact hf t e t' h
  | some e => exact (Prod.mk.inj h).2.symm

theorem of_activateVersionWithAudit
    (h : (activateVersionWithAudit fault id draft).call s = (.ok a, s')) :
    ∃ target, s.loadConfiguration id = some target ∧ target.version.status ≠ .active ∧
      s' = transition s id draft := by
  simp only [activateVersionWithAudit, activateVersion, call_ok, call_transaction_ok,
    call_raise_ok] at h
  obtain ⟨_, -, _, _, ⟨target, htarget, _, hstatus, _, rfl, rfl⟩, _, _, -, -, rfl⟩ := h
  exact ⟨target, htarget, by simpa using hstatus, rfl⟩

theorem of_finish (h : (finish faults id draft prepared).call p = (.ok a, p')) :
    ∃ target, p.database.loadConfiguration id = some target ∧ target.version.status ≠ .active ∧
      p' = { p with database := transition p.database id draft, registry := prepared.commit } := by
  simp only [finish, call_ok, call_onPart_ok] at h
  obtain ⟨_, _, ⟨database, hactivate, rfl⟩, _, rfl, rfl⟩ := h
  obtain ⟨target, htarget, hstatus, rfl⟩ := of_activateVersionWithAudit hactivate
  exact ⟨target, htarget, hstatus, rfl⟩

theorem restores_finish : Restores (finish faults id draft prepared : Method (Process γ β) _ _) :=
  restores_onPart_bind (fun _ => rfl) (.ensure_bind (restores_transaction _)) fun _ _ => ⟨_, _, rfl⟩

theorem prepare_ok {registry : RouteSnapshotRegistry β} {next : RouteSnapshot β} :
    registry.prepare next = .ok prepared ↔
      registry.current.version ≠ next.version ∧ prepared = ⟨next, registry.current⟩ := by
  simp only [prepare, except_ok, bne_iff_ne]
  constructor
  · rintro ⟨-, hne, rfl⟩
    exact ⟨hne, rfl⟩
  · rintro ⟨hne, rfl⟩
    exact ⟨(), hne, rfl⟩

/-- The process after a version was activated and its Snapshot made the current one. -/
def moved (p : Process γ β) (id : ConfigVersionId) (draft : ManagementAuditEventDraft)
    (next : RouteSnapshot β) : Process γ β :=
  { p with database := transition p.database id draft, registry := ⟨next, some p.registry.current⟩ }

/-- **What a publication did.** -/
theorem of_publish (h : (publishVersionWithAudit compiler faults id draft).call p = (.ok a, p')) :
    draft.action = .published ∧ ∃ configuration replacement,
      p.database.loadConfiguration id = some configuration ∧
        configuration.version.status ≠ .active ∧
      compiledSnapshot compiler configuration = .ok replacement ∧
      p.registry.current.version ≠ replacement.version ∧
      p' = moved p id draft replacement := by
  simp only [publishVersionWithAudit, call_ok, call_raise_ok, mapError_ok_iff, preparePublication,
    prepare_ok] at h
  obtain ⟨_, haction, _, -, configuration, hload, _, -, replacement, hcompiled, _, -, _, ⟨hne, rfl⟩,
    hfinish⟩ := h
  obtain ⟨target, htarget, hstatus, rfl⟩ := of_finish hfinish
  cases hload.symm.trans htarget
  exact ⟨of_decide_eq_true haction, configuration, replacement, hload, hstatus, hcompiled, hne, rfl⟩

/-- **What a rollback did.** -/
theorem of_rollback (h : (rollbackWithAudit faults draft).call p = (.ok a, p')) :
    draft.action = .rolledBack ∧ ∃ next target configuration,
      p.registry.previous = some next ∧ p.syntheticVersion ≠ some next.version ∧
      target.asStr = next.version.asStr ∧ p.database.loadConfiguration target = some configuration ∧
      configuration.version.status ≠ .active ∧
      p' = moved p target draft next := by
  simp only [rollbackWithAudit, call_ok, call_raise_ok, except_ok, prepareRollback, prepare_ok] at h
  obtain ⟨_, haction, _, -, _, ⟨next, hprevious, hne, rfl⟩, _, hsynthetic, target, htarget,
    hfinish⟩ := h
  obtain ⟨configuration, hload, hstatus, rfl⟩ := of_finish hfinish
  refine ⟨of_decide_eq_true haction, next, target, configuration, hprevious, ?_, ?_, hload,
    hstatus, rfl⟩
  · intro heq
    rw [heq] at hsynthetic
    simp at hsynthetic
  · rw [tryNew] at htarget
    split_ifs at htarget
    cases htarget
    rfl

inductive Call
  | publish (id : ConfigVersionId) (draft : ManagementAuditEventDraft)
  | rollback (draft : ManagementAuditEventDraft)

/-- An audited call, with what goes wrong during it. -/
def Call.perform (compiler : Compiler γ β ε) (faults : Faults ε) :
    Call → Method (Process γ β) (SnapshotPublicationError ε) ConfigVersionActivation
  | publish id draft => publishVersionWithAudit compiler faults id draft
  | rollback draft => rollbackWithAudit faults draft

/-- **A call that fails** changes nothing. -/
theorem restores_perform (call : Call) : Restores (call.perform compiler faults) := by
  cases call with
  | publish id draft =>
    exact .ensure_bind <| restores_raise_bind <| .get_bind fun _ => .okOr_bind fun _ =>
      restores_raise_bind <| .lift_bind fun _ => restores_raise_bind <| .get_bind fun _ =>
      .lift_bind fun _ => restores_finish
  | rollback draft =>
    exact .ensure_bind <| restores_raise_bind <| .get_bind fun _ => .lift_bind fun _ =>
      .get_bind fun _ => .ensure_bind <| .okOr_bind fun _ => restores_finish

end Calls

/-! ### What the database and the registry agree on -/

section Consistent

variable {configuration active : ControlPlaneConfiguration γ} {snapshot : RouteSnapshot β}

theorem compiledSnapshot_ok :
    compiledSnapshot compiler configuration = .ok snapshot ↔
      compiler.compile configuration.version.id configuration.graph = .ok snapshot.view ∧
        snapshot.version.asStr = configuration.version.id.asStr := by
  simp only [compiledSnapshot, except_ok, tryNew, configuration.version.id.nonempty, dite_false]
  constructor
  · rintro ⟨view, hview, version, hversion, rfl⟩
    cases hversion
    exact ⟨hview, rfl⟩
  · rintro ⟨hview, hversion⟩
    refine ⟨_, hview, snapshot.version, ?_, rfl⟩
    exact congrArg some (Identifier.ext hversion.symm)

theorem version_of_compiled (h : compiledSnapshot compiler configuration = .ok snapshot) :
    snapshot.version.asStr = configuration.version.id.asStr := (compiledSnapshot_ok.mp h).2

theorem compiledSnapshot_activated :
    compiledSnapshot compiler (activated id configuration) =
      compiledSnapshot compiler configuration := by
  rw [compiledSnapshot, compiledSnapshot, id_activated, graph_activated]

/-- The predecessor in the registry is the one that the audit events name; the one before the first
publication is the synthetic one. -/
def PredecessorOf (compiler : Compiler γ β ε) (p : Process γ β) : Option ConfigVersionId → Prop
  | none => p.registry.previous = none ∨
      p.registry.previous = some (emptyBootstrapSnapshot compiler) ∧
        p.syntheticVersion = some syntheticBootstrapVersion
  | some id => ∃ predecessor snapshot, p.database.loadConfiguration id = some predecessor ∧
      predecessor.version.status = .archived ∧
        compiledSnapshot compiler predecessor = .ok snapshot ∧
      p.registry.previous = some snapshot

inductive Consistent (compiler : Compiler γ β ε) (p : Process γ β) : Prop
  | unpublished (hactive : p.database.loadActiveConfiguration = none)
    (hregistry : p.registry = ⟨emptyBootstrapSnapshot compiler, none⟩)
    (hsynthetic : p.syntheticVersion = some syntheticBootstrapVersion)
  | published (active : ControlPlaneConfiguration γ)
    (hactive : p.database.loadActiveConfiguration = some active)
    (hcurrent : compiledSnapshot compiler active = .ok p.registry.current)
    (hprevious : PredecessorOf compiler p
      (latestRollbackPredecessorId p.database.auditEvents active.version.id))

theorem consistent_bootstrap (h : bootstrap compiler database = .ok p) :
    p.database = database ∧ Consistent compiler p := by
  unfold bootstrap at h
  cases hactive : database.loadActiveConfiguration with
  | none =>
    simp only [hactive, except_ok] at h
    obtain ⟨_, ⟨_, -, rfl⟩, rfl⟩ := h
    exact ⟨rfl, .unpublished hactive rfl rfl⟩
  | some active =>
    simp only [hactive, except_ok, tryNewWithPrevious] at h
    obtain ⟨current, hcurrent, predecessor, hpredecessor, previous, hprevious, _, ⟨_, -, rfl⟩,
      rfl⟩ := h
    refine ⟨rfl, .published active hactive hcurrent ?_⟩
    unfold loadRollbackPredecessor at hpredecessor
    cases hlatest : latestRollbackPredecessorId database.auditEvents active.version.id with
    | none =>
      simp only [hlatest, pure_ok_iff] at hpredecessor
      subst hpredecessor
      simp only [Option.mapM_none, pure_ok_iff] at hprevious
      exact .inl hprevious.symm
    | some predecessorId =>
      simp only [hlatest, except_ok, decide_eq_true_eq] at hpredecessor
      obtain ⟨predecessor, hload, _, harchived, rfl⟩ := hpredecessor
      rw [Option.mapM_some] at hprevious
      cases hsnapshot : compiledSnapshot compiler predecessor with
      | error e =>
        rw [hsnapshot] at hprevious
        cases hprevious
      | ok snapshot =>
        rw [hsnapshot] at hprevious
        cases hprevious
        exact ⟨predecessor, snapshot, hload, harchived, hsnapshot, rfl⟩

variable (hp : Consistent compiler p)

include hp

/-- **A transition to another version** keeps the two sides together. -/
theorem consistent_transition (hload : p.database.loadConfiguration id = some configuration)
    (hstatus : configuration.version.status ≠ .active)
    (hcompiled : compiledSnapshot compiler configuration = .ok snapshot)
    (haction : draft.action = .published ∨ draft.action = .rolledBack) :
    Consistent compiler (moved p id draft snapshot) := by
  have hactivated : (transition p.database id draft).loadActiveConfiguration = _ :=
    active_of_load (x := id) (by rw [load_transition, hload]; rfl)
      (by rw [status_activated, if_pos (mem_of_load hload).2])
  refine .published _ hactivated (compiledSnapshot_activated.trans hcompiled) ?_
  have hid : (activated id configuration).version.id = id := by
    rw [id_activated, (mem_of_load hload).2]
  have hlatest : latestRollbackPredecessorId (moved p id draft snapshot).database.auditEvents id =
      p.database.loadActiveConfiguration.map (·.version.id) := by
    rcases haction with h | h <;> simp [latestRollbackPredecessorId, moved, transition, h]
  rw [hid, hlatest]
  cases hp with
  | unpublished hactive hregistry hsynthetic =>
    rw [hactive]
    refine .inr ⟨?_, hsynthetic⟩
    rw [moved, hregistry]
  | published active hactive hcurrent hprevious =>
    obtain ⟨hload', hactive'⟩ := load_of_active hactive
    have hne : active.version.id ≠ id := by
      intro heq
      rw [heq, hload] at hload'
      rw [Option.some.inj hload'] at hstatus
      exact hstatus hactive'
    rw [hactive]
    refine ⟨activated id active, _, ?_, ?_, compiledSnapshot_activated.trans hcurrent, rfl⟩
    · rw [moved, load_transition, hload']
      rfl
    · rw [status_activated, if_neg hne, if_pos hactive']

theorem rollback_compiled (h : (rollbackWithAudit faults draft).call p = (.ok a, p')) :
    draft.action = .rolledBack ∧ ∃ next target configuration,
      p.registry.previous = some next ∧ p.syntheticVersion ≠ some next.version ∧
      p.database.loadConfiguration target = some configuration ∧
      configuration.version.status = .archived ∧
        compiledSnapshot compiler configuration = .ok next ∧
      p' = moved p target draft next := by
  obtain ⟨haction, next, target, configuration, hprevious, hsynthetic, htarget, hload,
    hstatus, rfl⟩ :=
    of_rollback h
  refine ⟨haction, next, target, configuration, hprevious, hsynthetic, hload, ?_⟩
  cases hp with
  | unpublished hactive hregistry _ =>
    rw [hregistry] at hprevious
    cases hprevious
  | published active hactive hcurrent hpredecessor =>
    cases hlatest : latestRollbackPredecessorId p.database.auditEvents active.version.id with
    | none =>
      rw [hlatest] at hpredecessor
      rcases hpredecessor with hnone | ⟨hempty, hversion⟩
      · rw [hnone] at hprevious
        cases hprevious
      · rw [hempty] at hprevious
        cases hprevious
        exact absurd hversion hsynthetic
    | some predecessorId =>
      rw [hlatest] at hpredecessor
      obtain ⟨predecessor, snapshot, hload', harchived, hcompiled, hsnapshot⟩ := hpredecessor
      cases hprevious.symm.trans hsnapshot
      have hid : target = predecessorId := by
        apply Identifier.ext
        rw [htarget, version_of_compiled hcompiled, (mem_of_load hload').2]
      rw [hid] at hload
      cases hload.symm.trans hload'
      exact ⟨harchived, hcompiled, rfl⟩

theorem consistent_rollback
    (h : (rollbackWithAudit faults draft).call p = (.ok a, p')) : Consistent compiler p' := by
  obtain ⟨haction, next, target, configuration, -, -, hload, harchived, hcompiled, rfl⟩ :=
    rollback_compiled hp h
  exact consistent_transition hp hload (by simp [harchived]) hcompiled (.inr haction)

end Consistent

/-! ### Rollbacks and restarts -/

section Restart

variable {p₁ p₂ : Process γ β} {draft₁ draft₂ : ManagementAuditEventDraft}
  {a₁ a₂ : ConfigVersionActivation} {faults₁ faults₂ : Faults ε}
  {active predecessor : ControlPlaneConfiguration γ}

/-- Activating the predecessor and then again the version that was active changes nothing. -/
theorem activated_activated (hactive : s.loadActiveConfiguration = some active)
    (hload : s.loadConfiguration id = some predecessor)
    (harchived : predecessor.version.status = .archived) {c : ControlPlaneConfiguration γ}
    (hc : c ∈ s.configurations) : activated active.version.id (activated id c) = c := by
  obtain ⟨hactive', hstatus⟩ := load_of_active hactive
  have hfinal : (activated active.version.id (activated id c)).version.status =
      c.version.status := by
    rw [status_activated, id_activated, status_activated]
    by_cases hsame : c.version.id = active.version.id
    · have heq := load_of_mem hc
      rw [hsame, hactive'] at heq
      rw [if_pos hsame, ← Option.some.inj heq, hstatus]
    · rw [if_neg hsame]
      have hinactive : c.version.status ≠ .active := fun h =>
        hsame (s.oneActive c hc active (mem_of_load hactive').1 h hstatus)
      by_cases htarget : c.version.id = id
      · have heq := load_of_mem hc
        rw [htarget, hload] at heq
        rw [if_pos htarget, if_pos rfl, ← Option.some.inj heq, harchived]
      · rw [if_neg htarget, if_neg hinactive, if_neg hinactive]
  exact ControlPlaneConfiguration.ext (ConfigVersion.ext (by simp) hfinal (by simp)) (by simp)

/-- **Two rollbacks** in a row restore the versions and the registry. -/
theorem rollback_rollback (hp : Consistent compiler p)
    (h₁ : (rollbackWithAudit faults₁ draft₁).call p = (.ok a₁, p₁))
    (h₂ : (rollbackWithAudit faults₂ draft₂).call p₁ = (.ok a₂, p₂)) :
    p₂.database.configurations = p.database.configurations ∧ p₂.registry = p.registry ∧
      p₂.syntheticVersion = p.syntheticVersion := by
  have hp₁ := consistent_rollback hp h₁
  obtain ⟨-, next, target, configuration, hprevious, -, hload, harchived, -, rfl⟩ :=
    rollback_compiled hp h₁
  obtain ⟨-, current, id, configuration', hcurrent, -, hload', -, hcompiled, rfl⟩ :=
    rollback_compiled hp₁ h₂
  cases hcurrent
  cases hp with
  | unpublished _ hregistry _ =>
    rw [hregistry] at hprevious
    cases hprevious
  | published active hactive hcompiled' _ =>
    have hid : id = active.version.id := by
      apply Identifier.ext
      rw [← version_of_compiled hcompiled', version_of_compiled hcompiled, (mem_of_load hload').2]
    refine ⟨?_, ?_, rfl⟩
    · change (p.database.configurations.map (activated target)).map (activated id) =
        p.database.configurations
      rw [List.map_map, hid]
      conv_rhs => rw [← List.map_id p.database.configurations]
      exact List.map_congr_left fun c hc => activated_activated hactive hload harchived hc
    · rcases hregistry : p.registry with ⟨current, previous⟩
      rw [hregistry] at hprevious
      rw [moved, moved, ← hprevious]

/-- **A restart** builds the registry that the process had; only the synthetic predecessor is gone.
-/
theorem restart (hp : Consistent compiler p) :
    ∃ p', bootstrap compiler p.database = .ok p' ∧ p'.database = p.database ∧
      p'.registry.current = p.registry.current ∧
      (p'.registry.previous = p.registry.previous ∨
        p.registry.previous = some (emptyBootstrapSnapshot compiler) ∧
          p.syntheticVersion = some syntheticBootstrapVersion ∧ p'.registry.previous = none) := by
  unfold bootstrap
  cases hp with
  | unpublished hactive hregistry _ =>
    rw [hactive]
    refine ⟨_, rfl, rfl, ?_, .inl ?_⟩
    · rw [hregistry]
    · rw [hregistry]
  | published active hactive hcurrent hprevious =>
    simp only [hactive, except_ok, tryNewWithPrevious]
    unfold loadRollbackPredecessor
    cases hlatest : latestRollbackPredecessorId p.database.auditEvents active.version.id with
    | none =>
      rw [hlatest] at hprevious
      refine ⟨_, ⟨_, hcurrent, none, rfl, none, rfl, _, ⟨(), rfl, rfl⟩, rfl⟩, rfl, rfl, ?_⟩
      rcases hprevious with hnone | ⟨hempty, hsynthetic⟩
      · exact .inl hnone.symm
      · exact .inr ⟨hempty, hsynthetic, rfl⟩
    | some predecessorId =>
      rw [hlatest] at hprevious
      obtain ⟨predecessor, snapshot, hload, harchived, hcompiled, hsnapshot⟩ := hprevious
      have hfound : (do
          let predecessor ← okOr (p.database.loadConfiguration predecessorId) StoreError.malformed
          ensure (predecessor.version.status = .archived) .malformed
          return some predecessor : Except StoreError _) = .ok (some predecessor) := by
        simp only [except_ok, decide_eq_true_eq]
        exact ⟨predecessor, hload, (), harchived, rfl⟩
      have hmapped : (some predecessor).mapM (compiledSnapshot compiler) = .ok (some snapshot) := by
        rw [Option.mapM_some, hcompiled]
        rfl
      have hother : snapshot.version ≠ p.registry.current.version := by
        intro heq
        have hid : predecessor.version.id = active.version.id := by
          apply Identifier.ext
          rw [← version_of_compiled hcompiled, heq, version_of_compiled hcurrent]
        obtain ⟨hactive', hstatus⟩ := load_of_active hactive
        rw [← hid, load_of_mem (mem_of_load hload).1] at hactive'
        rw [Option.some.inj hactive', hstatus] at harchived
        cases harchived
      refine ⟨_, ⟨_, hcurrent, _, hfound, _, hmapped, _, ⟨(), ?_, rfl⟩, rfl⟩, rfl, rfl,
        .inl hsnapshot.symm⟩
      simpa using hother

end Restart

/-! ### Histories -/

section History

inductive Event
  | called (call : Call)
  | restarted

/-- One call after the other, and restarts. A process that stops inside a call restarts as one that
stops before it or, after its transaction, as one that stops after it. -/
inductive Step (compiler : Compiler γ β ε) : Process γ β → Event → Process γ β → Prop
  | call {p p' : Process γ β} (faults : Faults ε) (call : Call) {result}
    (h : (call.perform compiler faults).call p = (result, p')) : Step compiler p (.called call) p'
  | restart {p p' : Process γ β} (h : bootstrap compiler p.database = .ok p') :
    Step compiler p .restarted p'

variable {p₀ : Process γ β} {tr : List Event}

theorem consistent_step {event : Event} (hp : Consistent compiler p)
    (h : Step compiler p event p') : Consistent compiler p' := by
  cases h with
  | call faults call h =>
    rename_i result
    cases result with
    | error e =>
      rw [restores_perform call _ _ _ h]
      exact hp
    | ok a =>
      cases call with
      | publish id draft =>
        obtain ⟨haction, _, _, hload, hstatus, hcompiled, -, rfl⟩ := of_publish h
        exact consistent_transition hp hload hstatus hcompiled (.inl haction)
      | rollback draft => exact consistent_rollback hp h
  | restart h => exact (consistent_bootstrap h).2

/-- **Publications, rollbacks and restarts.** After any calls and restarts: the active version is
the one of the current Snapshot, or nothing is active and the current Snapshot is the synthetic one;
a call that fails changes nothing; two rollbacks in a row restore the versions and both Snapshots; a
rollback goes to a stored version, never to the synthetic Snapshot; and a restart builds the
registry again, without the synthetic predecessor. -/
theorem publication_history (hstart : bootstrap compiler database = .ok p₀)
    (hrun : Run (Step compiler) p₀ tr p) :
    (match p.database.loadActiveConfiguration with
      | some active => p.registry.current.version.asStr = active.version.id.asStr
      | none => p.registry = ⟨emptyBootstrapSnapshot compiler, none⟩) ∧
    (∀ (call : Call) faults e p', (call.perform compiler faults).call p = (.error e, p') → p' = p) ∧
    (∀ draft₁ draft₂ (faults₁ faults₂ : Faults ε) a₁ a₂ p₁ p₂,
      (rollbackWithAudit faults₁ draft₁).call p = (.ok a₁, p₁) →
      (rollbackWithAudit faults₂ draft₂).call p₁ = (.ok a₂, p₂) →
      p₂.database.configurations = p.database.configurations ∧ p₂.registry = p.registry ∧
        p₂.syntheticVersion = p.syntheticVersion) ∧
    (∀ draft (faults : Faults ε) a p', (rollbackWithAudit faults draft).call p = (.ok a, p') →
      p.syntheticVersion ≠ some p'.registry.current.version ∧
      ∃ target configuration, p.database.loadConfiguration target = some configuration ∧
        configuration.version.status = .archived ∧
        compiledSnapshot compiler configuration = .ok p'.registry.current) ∧
    ∃ p', bootstrap compiler p.database = .ok p' ∧ p'.database = p.database ∧
      p'.registry.current = p.registry.current ∧
      (p'.registry.previous = p.registry.previous ∨
        p.registry.previous = some (emptyBootstrapSnapshot compiler) ∧
          p.syntheticVersion = some syntheticBootstrapVersion ∧ p'.registry.previous = none) := by
  have hp := hrun.keeps (fun _ _ _ => consistent_step) (consistent_bootstrap hstart).2
  refine ⟨?_, fun call faults e p' h => restores_perform call _ _ _ h, ?_, ?_, restart hp⟩
  · cases hp with
    | unpublished hactive hregistry _ =>
      rw [hactive]
      exact hregistry
    | published active hactive hcurrent _ =>
      rw [hactive]
      exact version_of_compiled hcurrent
  · intro draft₁ draft₂ faults₁ faults₂ a₁ a₂ p₁ p₂ h₁ h₂
    exact rollback_rollback hp h₁ h₂
  · intro draft faults a p' h
    obtain ⟨-, next, target, configuration, -, hsynthetic, hload, harchived, hcompiled, rfl⟩ :=
      rollback_compiled hp h
    exact ⟨hsynthetic, target, configuration, hload, harchived, hcompiled⟩

end History

/-- Graphs are texts, and their views the same texts. -/
def sampleCompiler : Compiler String String Unit := ⟨fun _ graph => .ok graph, ""⟩

def sampleFirst : ConfigVersionId := ⟨"first", by decide⟩

def sampleSecond : ConfigVersionId := ⟨"second", by decide⟩

/-- Two drafts. -/
def sampleDatabase : ControlPlane String where
  configurations := [⟨⟨sampleFirst, .draft, 0⟩, "a"⟩, ⟨⟨sampleSecond, .draft, 0⟩, "b"⟩]
  auditEvents := []
  unique := by decide
  oneActive := by decide

def sampleStart : Process String String :=
  ⟨sampleDatabase, ⟨⟨syntheticBootstrapVersion, ""⟩, none⟩, some syntheticBootstrapVersion⟩

def samplePublished : Process String String :=
  ((Call.publish sampleSecond ⟨.published, "actor", 1⟩).perform sampleCompiler {}).call
    (((Call.publish sampleFirst ⟨.published, "actor", 0⟩).perform sampleCompiler {}).call
      sampleStart).2 |>.2

theorem run_sample : Run (Step sampleCompiler) sampleStart
    [.called (.publish sampleFirst ⟨.published, "actor", 0⟩),
      .called (.publish sampleSecond ⟨.published, "actor", 1⟩)] samplePublished :=
  .cons (.call {} _ rfl) (.cons (.call {} _ rfl) (.nil _))

/-- After the second publication a restart has the second version. -/
theorem publication_history_sample :
    ∃ p', bootstrap sampleCompiler samplePublished.database = .ok p' ∧
      p'.registry.current = ⟨⟨"second", by decide⟩, "b"⟩ := by
  have hstart : bootstrap sampleCompiler sampleDatabase = .ok sampleStart := rfl
  obtain ⟨-, -, -, -, p', hboot, -, hcurrent, -⟩ := publication_history hstart run_sample
  exact ⟨p', hboot, hcurrent⟩

end CpaGateway.Control.PublicationHistory
