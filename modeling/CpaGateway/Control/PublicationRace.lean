import CpaGateway.Control.PublicationHistory

/-! # A publication and mutations of drafts at the same time

A publication loads and compiles a version first and activates it later. The drafts are mutated
through another connection, and the activation does not ask for the revision that was loaded: a
mutation between the two is in the database of the active version and not in the current Snapshot.
-/

namespace CpaGateway.Control.PublicationRace

open Core.Identity Control.Publication Control.PublicationHistory Lib.Effect Lib.Tables
open Lib.Transition ControlPlane

/-! ### Interleavings -/

/-- How far the publication is. -/
inductive Stage (γ β : Type)
  | idle
  | loaded (configuration : ControlPlaneConfiguration γ)
  | prepared (configuration : ControlPlaneConfiguration γ)
    (prepared : PreparedSnapshotPublication β)
  | activated (configuration : ControlPlaneConfiguration γ)
    (prepared : PreparedSnapshotPublication β)

structure System (γ β : Type) where
  database : ControlPlane γ
  registry : RouteSnapshotRegistry β
  stage : Stage γ β := .idle

inductive Event
  | loaded (id : ConfigVersionId)
  | prepared
  | activated
  | published (id : ConfigVersionId)
  | abandoned
  | mutated (id : ConfigVersionId)
  deriving DecidableEq

/-- The event is none that begins or ends a publication. -/
def Event.within : Event → Bool
  | .prepared | .activated | .mutated _ => true
  | _ => false

variable {γ β ε : Type} {compiler : Compiler γ β ε}

/-- The stages of publications, one after the other, and mutations at any time. -/
inductive Step (compiler : Compiler γ β ε) : System γ β → Event → System γ β → Prop
  | load {s : System γ β} {id configuration} (hstage : s.stage = .idle)
    (hload : s.database.loadConfiguration id = some configuration) :
    Step compiler s (.loaded id) { s with stage := .loaded configuration }
  | prepare {s : System γ β} {configuration replacement prepared}
    (hstage : s.stage = .loaded configuration)
    (hcompiled : compiledSnapshot compiler configuration = .ok replacement)
    (hprepared : s.registry.preparePublication replacement = .ok prepared) :
    Step compiler s .prepared { s with stage := .prepared configuration prepared }
  | activate {s : System γ β} {configuration prepared draft activation database}
    (hstage : s.stage = .prepared configuration prepared)
    (hactivate : (activateVersionWithAudit none configuration.version.id draft).call s.database =
      (.ok activation, database)) :
    Step compiler s .activated { s with database, stage := .activated configuration prepared }
  | commit {s : System γ β} {configuration prepared}
    (hstage : s.stage = .activated configuration prepared) :
    Step compiler s (.published configuration.version.id)
      { s with registry := prepared.commit, stage := .idle }
  | abandon {s : System γ β}
    (hstage : ∀ configuration prepared, s.stage ≠ .activated configuration prepared) :
    Step compiler s .abandoned { s with stage := .idle }
  | mutate {s : System γ β} {id expectedRevision revision mutation database}
    (hmutate : (mutateDraftConfiguration id expectedRevision mutation).call s.database =
      (.ok revision, database)) :
    Step compiler s (.mutated id) { s with database }

/-! ### The version that is published -/

section Tracks

variable {s₀ s t : System γ β} {tr : List Event} {event : Event} {id x : ConfigVersionId}
  {configuration : ControlPlaneConfiguration γ} {database database' : ControlPlane γ}

theorem load_mutate {graph : γ} :
    (database.mutate x graph).loadConfiguration id =
      (database.loadConfiguration id).map (mutated x graph) := by
  rw [loadConfiguration, mutate, List.find?_map]
  congr 2
  funext c
  simp

/-- The version was loaded for the publication under way; without a mutation of it since, its graph
is the one loaded. -/
def Since (compiler : Compiler γ β ε) (s₀ : System γ β) (tr : List Event)
    (configuration : ControlPlaneConfiguration γ) (database : ControlPlane γ) : Prop :=
  ∃ a b t stored, tr = a ++ .loaded configuration.version.id :: b ∧ (∀ event ∈ b, event.within) ∧
    Run (Step compiler) s₀ a t ∧ t.database.loadConfiguration configuration.version.id =
      some configuration ∧
    database.loadConfiguration configuration.version.id = some stored ∧
    (.mutated configuration.version.id ∉ b → stored.graph = configuration.graph)

theorem Since.keep (h : Since compiler s₀ tr configuration database) (hwithin : event.within)
    (hkeep : ∀ stored, database.loadConfiguration configuration.version.id = some stored →
      ∃ stored', database'.loadConfiguration configuration.version.id = some stored' ∧
        (event ≠ .mutated configuration.version.id → stored'.graph = stored.graph)) :
    Since compiler s₀ (tr ++ [event]) configuration database' := by
  obtain ⟨a, b, t, stored, rfl, hall, hrun, hload, hstored, hgraph⟩ := h
  obtain ⟨stored', hstored', hsame⟩ := hkeep stored hstored
  refine ⟨a, b ++ [event], t, stored', by simp, ?_, hrun, hload, hstored', fun hnone => ?_⟩
  · simpa [or_imp, forall_and] using ⟨hall, hwithin⟩
  rw [List.mem_append, not_or, List.mem_singleton] at hnone
  rw [hsame (Ne.symm hnone.2), hgraph hnone.1]

/-- What is known about the publication under way. -/
def Tracks (compiler : Compiler γ β ε) (s₀ : System γ β) (tr : List Event) (s : System γ β) :
    Prop :=
  match s.stage with
  | .idle => True
  | .loaded configuration => Since compiler s₀ tr configuration s.database
  | .prepared configuration prepared => Since compiler s₀ tr configuration s.database ∧
      compiledSnapshot compiler configuration = .ok prepared.next
  | .activated configuration prepared => Since compiler s₀ tr configuration s.database ∧
      compiledSnapshot compiler configuration = .ok prepared.next ∧
      ∃ active, s.database.loadConfiguration configuration.version.id = some active ∧
        active.version.status = .active

theorem tracks_step (hs : Tracks compiler s₀ tr s) (hrun : Run (Step compiler) s₀ tr s)
    (h : Step compiler s event t) : Tracks compiler s₀ (tr ++ [event]) t := by
  cases h with
  | load hstage hload =>
    obtain rfl := (mem_of_load hload).2
    exact ⟨tr, [], s, _, rfl, by simp, hrun, hload, hload, fun _ => rfl⟩
  | prepare hstage hcompiled hprepared =>
    simp only [Tracks, hstage] at hs ⊢
    rw [RouteSnapshotRegistry.preparePublication, prepare_ok] at hprepared
    rw [hprepared.2]
    exact ⟨hs.keep rfl fun stored hstored => ⟨stored, hstored, fun _ => rfl⟩, hcompiled⟩
  | activate hstage hactivate =>
    simp only [Tracks, hstage] at hs ⊢
    obtain ⟨target, htarget, -, rfl⟩ := of_activateVersionWithAudit hactivate
    refine ⟨hs.1.keep rfl fun stored hstored => ?_, hs.2, ?_⟩
    · refine ⟨_, by rw [load_transition, hstored]; rfl, fun _ => graph_activated _ _⟩
    · refine ⟨_, by rw [load_transition, htarget]; rfl, ?_⟩
      rw [status_activated, if_pos (mem_of_load htarget).2]
  | commit hstage => exact trivial
  | abandon hstage => exact trivial
  | @mutate x _ _ _ _ hmutate =>
    simp only [mutateDraftConfiguration, call_transaction_ok, call_ok, decide_eq_true_eq] at hmutate
    obtain ⟨_, -, draft, hdraft, _, hstatus, _, -, graph, -, _, -, rfl⟩ := hmutate
    have hkeep : ∀ (configuration stored : ControlPlaneConfiguration γ),
        s.database.loadConfiguration configuration.version.id = some stored →
        ∃ stored', (s.database.mutate x graph).loadConfiguration configuration.version.id =
          some stored' ∧
          (Event.mutated x ≠ .mutated configuration.version.id → stored'.graph = stored.graph) := by
      intro configuration stored hstored
      refine ⟨_, by rw [load_mutate, hstored]; rfl, fun hne => ?_⟩
      rw [mutated, if_neg]
      intro heq
      rw [(mem_of_load hstored).2] at heq
      exact hne (by rw [heq])
    cases hstage : s.stage with
    | idle => simp [Tracks]
    | loaded configuration =>
      simp only [Tracks, hstage] at hs ⊢
      exact hs.keep rfl (hkeep configuration)
    | prepared configuration prepared =>
      simp only [Tracks, hstage] at hs ⊢
      exact ⟨hs.1.keep rfl (hkeep configuration), hs.2⟩
    | activated configuration prepared =>
      simp only [Tracks, hstage] at hs ⊢
      obtain ⟨hsince, hcompiled, active, hactive, hisactive⟩ := hs
      refine ⟨hsince.keep rfl (hkeep configuration), hcompiled,
        _, by rw [load_mutate, hactive]; rfl, ?_⟩
      rw [status_mutated, hisactive]

theorem tracks_of_run (hidle : s₀.stage = .idle) (hrun : Run (Step compiler) s₀ tr s) :
    Tracks compiler s₀ tr s := by
  have hstart : Tracks compiler s₀ [] s₀ := by simp [Tracks, hidle]
  exact hrun.invariant hstart fun hr hs hstep => tracks_step hs hr hstep

/-- **A publication that succeeds**: the version is active, and the current Snapshot is its compiled
graph iff that is the compiled graph that the publication has loaded. Without a mutation of the
version since it was loaded, it is. -/
theorem published_iff (hidle : s₀.stage = .idle)
    (hrun : Run (Step compiler) s₀ (tr ++ [.published id]) s) :
    ∃ a b t configuration active, tr = a ++ .loaded id :: b ∧ (∀ event ∈ b, event.within) ∧
      Run (Step compiler) s₀ a t ∧ t.database.loadConfiguration id = some configuration ∧
      s.database.loadActiveConfiguration = some active ∧ active.version.id = id ∧
      (compiledSnapshot compiler active = .ok s.registry.current ↔
        compiler.compile id active.graph = compiler.compile id configuration.graph) ∧
      (.mutated id ∉ b → compiledSnapshot compiler active = .ok s.registry.current) := by
  obtain ⟨t, hrun', hlast⟩ := hrun.split
  cases hlast with
  | cons hstep hnil =>
    cases hnil
    have htracks := tracks_of_run hidle hrun'
    cases hstep with
    | @commit configuration prepared hstage =>
      simp only [Tracks, hstage] at htracks
      obtain ⟨⟨a, b, t', stored, htr, hwithin, ht', hload, hstored, hgraph⟩, hcompiled,
        active, hactive, hisactive⟩ :=
        htracks
      cases hstored.symm.trans hactive
      have hid := (mem_of_load hstored).2
      have hiff : compiledSnapshot compiler stored = .ok prepared.next ↔
          compiler.compile configuration.version.id stored.graph =
            compiler.compile configuration.version.id configuration.graph := by
        obtain ⟨hview, hversion⟩ := compiledSnapshot_ok.mp hcompiled
        rw [compiledSnapshot_ok, hview, hid]
        exact and_iff_left hversion
      refine ⟨a, b, t', configuration, stored, htr, hwithin, ht', hload,
        active_of_load hstored hisactive, hid, hiff, fun hnone => hiff.mpr ?_⟩
      rw [hgraph hnone]

end Tracks

section Sample

open Control.PublicationHistory (sampleCompiler sampleFirst sampleDatabase)

def sampleRegistry : RouteSnapshotRegistry String := ⟨⟨syntheticBootstrapVersion, ""⟩, none⟩

def sampleLoaded : ControlPlaneConfiguration String := ⟨⟨sampleFirst, .draft, 0⟩, "a"⟩

def samplePrepared : PreparedSnapshotPublication String :=
  ⟨⟨.lit "first", "a"⟩, ⟨syntheticBootstrapVersion, ""⟩⟩

/-- The first draft has another graph. -/
def sampleMutated : ControlPlane String := sampleDatabase.mutate sampleFirst "c"

def sampleAudit : ManagementAuditEventDraft := ⟨.published, "actor", 0⟩

theorem run_samplePublish (database : ControlPlane String)
    (hdatabase : database = sampleDatabase ∨ database = sampleMutated) :
    Run (Step sampleCompiler) ⟨database, sampleRegistry, .loaded sampleLoaded⟩
      [.prepared, .activated, .published sampleFirst]
      ⟨transition database sampleFirst sampleAudit, samplePrepared.commit, .idle⟩ := by
  have hactivate : ∃ activation, (activateVersionWithAudit none sampleFirst sampleAudit).call
      database =
      (.ok activation, transition database sampleFirst sampleAudit) := by
    rcases hdatabase with rfl | rfl
    · exact ⟨_, rfl⟩
    · exact ⟨_, rfl⟩
  obtain ⟨activation, hactivate⟩ := hactivate
  have hprepare : Step sampleCompiler ⟨database, sampleRegistry, .loaded sampleLoaded⟩ .prepared
      ⟨database, sampleRegistry, .prepared sampleLoaded samplePrepared⟩ := .prepare rfl rfl rfl
  have hactivated : Step sampleCompiler
      ⟨database, sampleRegistry, .prepared sampleLoaded samplePrepared⟩
      .activated ⟨transition database sampleFirst sampleAudit, sampleRegistry,
        .activated sampleLoaded samplePrepared⟩ := .activate rfl hactivate
  have hcommit : Step sampleCompiler ⟨transition database sampleFirst sampleAudit, sampleRegistry,
        .activated sampleLoaded samplePrepared⟩ (.published sampleLoaded.version.id)
      ⟨transition database sampleFirst sampleAudit, samplePrepared.commit, .idle⟩ := .commit rfl
  exact .cons hprepare <| .cons hactivated <| .cons hcommit (.nil _)

/-- A draft that is mutated while it is published: the Snapshot is the one of the old graph. -/
theorem mutated_draft_published :
    ∃ s active, Run (Step sampleCompiler) ⟨sampleDatabase, sampleRegistry, .idle⟩
      [.loaded sampleFirst, .mutated sampleFirst, .prepared, .activated, .published sampleFirst] s ∧
      s.database.loadActiveConfiguration = some active ∧
      compiledSnapshot sampleCompiler active = .ok ⟨⟨"first", by decide⟩, "c"⟩ ∧
      s.registry.current = ⟨⟨"first", by decide⟩, "a"⟩ := by
  have hload : Step sampleCompiler ⟨sampleDatabase, sampleRegistry, .idle⟩ (.loaded sampleFirst)
      ⟨sampleDatabase, sampleRegistry, .loaded sampleLoaded⟩ := .load rfl rfl
  have hmutate : (mutateDraftConfiguration sampleFirst 0 fun _ => .ok "c").call sampleDatabase =
      (.ok 1, sampleMutated) := rfl
  have hmutated : Step sampleCompiler ⟨sampleDatabase, sampleRegistry, .loaded sampleLoaded⟩
      (.mutated sampleFirst) ⟨sampleMutated, sampleRegistry, .loaded sampleLoaded⟩ :=
        .mutate hmutate
  exact ⟨_, _, .cons hload <| .cons hmutated <| run_samplePublish _ (.inr rfl), rfl, rfl, rfl⟩

/-- Without the mutation it is the one of the stored graph. -/
theorem published_iff_sample :
    ∃ active, (transition sampleDatabase sampleFirst sampleAudit).loadActiveConfiguration =
      some active ∧
      active.version.id = sampleFirst ∧
      compiledSnapshot sampleCompiler active = .ok ⟨⟨"first", by decide⟩, "a"⟩ := by
  have hload : Step sampleCompiler ⟨sampleDatabase, sampleRegistry, .idle⟩ (.loaded sampleFirst)
      ⟨sampleDatabase, sampleRegistry, .loaded sampleLoaded⟩ := .load rfl rfl
  have hrun : Run (Step sampleCompiler) ⟨sampleDatabase, sampleRegistry, .idle⟩
      ([.loaded sampleFirst, .prepared, .activated] ++ [.published sampleFirst])
      ⟨transition sampleDatabase sampleFirst sampleAudit, samplePrepared.commit, .idle⟩ :=
    .cons hload (run_samplePublish _ (.inl rfl))
  obtain ⟨a, b, t, configuration, active, htr, -, -, -, hactive, hid, -, hsame⟩ :=
    published_iff rfl hrun
  refine ⟨active, hactive, hid, hsame fun hmem => ?_⟩
  have hnone : Event.mutated sampleFirst ∉ [Event.loaded sampleFirst, .prepared, .activated] := by
    decide
  rw [htr] at hnone
  exact hnone (List.mem_append_right _ (.tail _ hmem))

end Sample

end CpaGateway.Control.PublicationRace
