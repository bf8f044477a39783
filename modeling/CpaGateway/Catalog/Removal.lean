import CpaGateway.Catalog.DiffRegistry
import CpaGateway.Lib.Transition

/-! # When a model is removed from the catalog

Previews and applications of any number of callers are interleaved. A preview that can still be
applied is the preview of the current state, so that an application is one comparison of its
snapshot with the snapshots that were applied before it. -/

namespace CpaGateway.Catalog.Removal

open Catalog.DiffRegistry Catalog.Discovery Core.Sse Lib.Effect Lib.Fallible Lib.Transition
open Catalog.DiffRegistry.CatalogDiffRegistry

/-! ### One comparison -/

variable {snapshot : CatalogSnapshot} {previous : Option CatalogDiffTargetState}
  {events : List CatalogDiffEvent} {model : DiscoveredModel} {models : Models}

theorem presentModels_spec : ∀ (l : List DiscoveredModel) (diff : Models × List CatalogDiffEvent),
    (∀ model, (l.foldl presentModel diff).1[model]? =
      if model ∈ l then some .present else diff.1[model]?) ∧
    ∀ event ∈ (l.foldl presentModel diff).2, event ∈ diff.2 ∨ ∃ model, event = .added model
  | [], diff => ⟨by simp, fun _ h => .inl h⟩
  | a :: l, diff => by
    obtain ⟨hmodels, hevents⟩ := presentModels_spec l (presentModel diff a)
    refine ⟨fun model => ?_, fun event hevent => ?_⟩
    · rw [List.foldl_cons, hmodels, presentModel, Std.TreeMap.getElem?_insert]
      by_cases hmem : model ∈ l
      · simp [hmem]
      · simp [hmem, eq_comm (a := a)]
    · rcases hevents event hevent with hold | hadded
      · simp only [presentModel] at hold
        split_ifs at hold
        · exact .inl hold
        · rcases List.mem_append.mp hold with hold | hnew
          · exact .inl hold
          · exact .inr ⟨a, List.mem_singleton.mp hnew⟩
      · exact .inr hadded

def Missed (snapshot : CatalogSnapshot) (known : Models) (event : CatalogDiffEvent) : Prop :=
  ∃ model state outcome, model ∉ snapshot.models ∧ known[model]? = some state ∧
    missedModel snapshot.observedAtMs model state = .ok (outcome, event)

theorem comparedModels_spec {known : Models} {l : List (DiscoveredModel × CatalogDiffModelState)}
    {diff : Models × List CatalogDiffEvent} (hknown : ∀ x ∈ l, known[x.1]? = some x.2)
    (hnodup : (l.map Prod.fst).Nodup)
    (h : l.foldlM (comparedModel snapshot) diff = .ok (models, events)) :
    (∀ model, model ∈ snapshot.models ∨ model ∉ l.map Prod.fst → models[model]? = diff.1[model]?) ∧
    (∀ x ∈ l, x.1 ∉ snapshot.models → ∃ event,
      missedModel snapshot.observedAtMs x.1 x.2 = .ok (models[x.1]?, event)) ∧
    ∀ event ∈ events, event ∈ diff.2 ∨ Missed snapshot known event := by
  induction l generalizing diff with
  | nil =>
    cases h
    exact ⟨fun _ _ => rfl, by simp, fun _ h => .inl h⟩
  | cons x l ih =>
    rw [List.foldlM_cons, bind_ok_iff] at h
    obtain ⟨diff', hx, hrest⟩ := h
    rw [List.map_cons, List.nodup_cons] at hnodup
    obtain ⟨hsame, hmissed, hevents⟩ :=
      ih (fun y hy => hknown y (List.mem_cons_of_mem x hy)) hnodup.2 hrest
    rw [comparedModel] at hx
    split_ifs at hx with hpresent
    · cases hx
      refine ⟨fun model hmodel => hsame model ?_, fun y hy hy' => ?_, hevents⟩
      · exact hmodel.imp id fun hnot hmem => hnot (List.mem_cons_of_mem _ hmem)
      · rcases List.mem_cons.mp hy with rfl | hy
        · exact absurd hpresent hy'
        · exact hmissed y hy hy'
    · obtain ⟨⟨outcome, event⟩, hout, hdiff⟩ := bind_ok_iff.mp hx
      -- the comparison of `x` touches the entry of `x` only
      have hentry : ∀ model, diff'.1[model]? = if x.1 = model then outcome else diff.1[model]? := by
        rw [← pure_ok_iff.mp hdiff]
        cases outcome <;> simp [Std.TreeMap.getElem?_insert, Std.TreeMap.getElem?_erase]
      have hadded : diff'.2 = diff.2 ++ [event] := by rw [← pure_ok_iff.mp hdiff]
      refine ⟨fun model hmodel => ?_, fun y hy hy' => ?_, fun e he => ?_⟩
      · have hne : x.1 ≠ model := by
          rintro rfl
          rcases hmodel with hmem | hnot
          · exact hpresent hmem
          · exact hnot List.mem_cons_self
        rw [hsame model (hmodel.imp id fun hnot hmem => hnot (List.mem_cons_of_mem _ hmem))]
        rw [hentry, if_neg hne]
      · rcases List.mem_cons.mp hy with rfl | hy
        · refine ⟨event, ?_⟩
          rw [hsame y.1 (.inr hnodup.1), hentry, if_pos rfl]
          exact hout
        · exact hmissed y hy hy'
      · rcases hevents e he with hold | hmiss
        · rw [hadded, List.mem_append, List.mem_singleton] at hold
          rcases hold with hold | rfl
          · exact .inl hold
          · exact .inr ⟨x.1, x.2, outcome, hpresent, hknown x List.mem_cons_self, hout⟩
        · exact .inr hmiss

theorem nodup_toList (known : Models) : (known.toList.map Prod.fst).Nodup := by
  rw [List.Nodup, List.pairwise_map]
  refine Std.TreeMap.distinct_keys_toList.imp fun h heq => ?_
  exact h (Std.compare_eq_iff_eq.mpr heq)

/-- **One comparison.** The models of the snapshot are present; what happens to a known model that
is missing is decided by its state; there is no event but for new and for missing models. -/
theorem buildCatalogDiff_ok (h : buildCatalogDiff previous snapshot = .ok (models, events)) :
    (∀ model ∈ snapshot.models, models[model]? = some .present) ∧
    (∀ model ∉ snapshot.models, ∀ state, models[model]? = some state →
      ∃ before event, (knownModels previous)[model]? = some before ∧
        missedModel snapshot.observedAtMs model before = .ok (some state, event)) ∧
    ∀ event ∈ events, (∃ model, event = .added model) ∨
      Missed snapshot (knownModels previous) event := by
  obtain ⟨hpresent, hadded⟩ := presentModels_spec snapshot.models (knownModels previous, [])
  obtain ⟨hsame, hmissed, hevents⟩ := comparedModels_spec
    (fun x hx => Std.TreeMap.mem_toList_iff_getElem?_eq_some.mp hx) (nodup_toList _) h
  refine ⟨fun model hmem => ?_, fun model hnot state hstate => ?_, fun event hevent => ?_⟩
  · rw [hsame model (.inl hmem), hpresent, if_pos hmem]
  · by_cases hknown : model ∈ ((knownModels previous).toList.map Prod.fst)
    · obtain ⟨x, hx, rfl⟩ := List.mem_map.mp hknown
      obtain ⟨event, hout⟩ := hmissed x hx hnot
      rw [hstate] at hout
      exact ⟨x.2, event, Std.TreeMap.mem_toList_iff_getElem?_eq_some.mp hx, hout⟩
    · -- a model that is neither known nor in the snapshot has no state
      rw [hsame model (.inr hknown), hpresent, if_neg hnot] at hstate
      exact absurd (List.mem_map_of_mem (Std.TreeMap.mem_toList_iff_getElem?_eq_some.mpr hstate))
        hknown
  · rcases hevents event hevent with hold | hmiss
    · rcases hadded event hold with hnil | hadd
      · cases hnil
      · exact .inl hadd
    · exact .inr hmiss

/-! ### What was applied -/

/-- The model was in a snapshot and in none of the later ones, of which there are `misses`, the
first observed at `firstMissingAtMs`. -/
def Absent (model : DiscoveredModel) (applied : List CatalogSnapshot) (misses : ℕ)
    (firstMissingAtMs : ℤ) : Prop :=
  ∃ before last first missing, applied = before ++ last :: first :: missing ∧ model ∈ last.models ∧
    (∀ snapshot ∈ first :: missing, model ∉ snapshot.models) ∧ missing.length + 1 = misses ∧
    first.observedAtMs = firstMissingAtMs

/-- What the applied snapshots say about the state of a model. -/
def Explains (applied : List CatalogSnapshot) (model : DiscoveredModel) :
    CatalogDiffModelState → Prop
  | .present => ∃ last, applied.getLast? = some last ∧ model ∈ last.models
  | .suspectedRemoved misses firstMissingAtMs removalEligibleAtMs =>
    Absent model applied misses.toNat firstMissingAtMs ∧
      removalEligibleAtMs = firstMissingAtMs + minCatalogRemovalIsolationMs

structure Reflects (state : Option CatalogDiffTargetState) (applied : List CatalogSnapshot) :
    Prop where
  generation : (generationOf state).toNat = applied.length
  version : ∀ snapshot ∈ applied, ∃ current, state = some current ∧
    snapshot.version ≤ current.lastSnapshotVersion
  increasing : (applied.map (·.version)).Pairwise (· < ·)
  models : ∀ current model modelState, state = some current →
    current.models[model]? = some modelState → Explains applied model modelState

section Histories

variable {applied : List CatalogSnapshot}

theorem checkedAdd_some {a b c : UInt64} (h : checkedAdd a b = some c) :
    c.toNat = a.toNat + b.toNat := by
  rw [checkedAdd] at h
  split_ifs at h with hlt
  cases h
  rw [UInt64.toNat_add, Nat.mod_eq_of_lt hlt]

theorem Reflects.known (h : Reflects previous applied) {modelState : CatalogDiffModelState}
    (hknown : (knownModels previous)[model]? = some modelState) :
    Explains applied model modelState := by
  cases previous with
  | none => simp [knownModels] at hknown
  | some current => exact h.models current model modelState rfl hknown

theorem Absent.snoc {misses : ℕ} {first : ℤ} (h : Absent model applied misses first)
    (hnot : model ∉ snapshot.models) : Absent model (applied ++ [snapshot]) (misses + 1) first := by
  obtain ⟨before, last, x, missing, rfl, hlast, hmissing, rfl, rfl⟩ := h
  refine ⟨before, last, x, missing ++ [snapshot], by simp, hlast, ?_, by simp, rfl⟩
  intro y hy
  rw [← List.cons_append, List.mem_append, List.mem_singleton] at hy
  rcases hy with hy | rfl
  · exact hmissing y hy
  · exact hnot

theorem explains_missed {state after : CatalogDiffModelState} {event : CatalogDiffEvent}
    (h : Explains applied model state) (hnot : model ∉ snapshot.models)
    (hmissed : missedModel snapshot.observedAtMs model state = .ok (some after, event)) :
    Explains (applied ++ [snapshot]) model after := by
  cases state with
  | present =>
    simp only [missedModel, except_ok, Prod.mk.injEq, Option.some.injEq]
      at hmissed
    obtain ⟨eligible, heligible, rfl, -⟩ := hmissed
    rw [checkedDeadline] at heligible
    split_ifs at heligible
    cases heligible
    obtain ⟨last, hlast, hmem⟩ := h
    obtain ⟨before, rfl⟩ := List.getLast?_eq_some_iff.mp hlast
    exact ⟨⟨before, last, _, [], by simp, hmem, by simpa using hnot, rfl, rfl⟩, rfl⟩
  | suspectedRemoved misses first eligible =>
    obtain ⟨habsent, heligible⟩ := h
    simp only [missedModel, except_ok] at hmissed
    obtain ⟨next, hnext, hmissed⟩ := hmissed
    split_ifs at hmissed
    · simp [pure, Except.pure] at hmissed
    · simp only [pure_ok_iff, Prod.mk.injEq, Option.some.injEq] at hmissed
      obtain ⟨rfl, -⟩ := hmissed
      have hcount : next.toNat = misses.toNat + 1 := checkedAdd_some hnext
      refine ⟨?_, heligible⟩
      rw [hcount]
      exact habsent.snoc hnot

/-- A model that is removed was absent three times and for a day. -/
theorem absent_of_removed {misses : UInt64} {first : ℤ} (h : Reflects previous applied)
    (hmissed : Missed snapshot (knownModels previous) (.removed model misses first)) :
    Absent model (applied ++ [snapshot]) misses.toNat first ∧ 3 ≤ misses.toNat ∧
      first + minCatalogRemovalIsolationMs ≤ snapshot.observedAtMs := by
  obtain ⟨model', state, outcome, hnot, hknown, hmissed⟩ := hmissed
  have hexplains := h.known hknown
  cases state with
  | present =>
    simp only [missedModel, except_ok, Prod.mk.injEq, reduceCtorEq, and_false,
      exists_false] at hmissed
  | suspectedRemoved count first' eligible =>
    obtain ⟨habsent, heligible⟩ := hexplains
    simp only [missedModel, except_ok] at hmissed
    obtain ⟨next, hnext, hmissed⟩ := hmissed
    split_ifs at hmissed with hremove
    · simp only [pure_ok_iff, Prod.mk.injEq, CatalogDiffEvent.removed.injEq] at hmissed
      obtain ⟨-, rfl, rfl, rfl⟩ := hmissed
      simp only [Bool.and_eq_true, decide_eq_true_eq] at hremove
      have hcount : next.toNat = count.toNat + 1 := checkedAdd_some hnext
      refine ⟨?_, UInt64.le_iff_toNat_le.mp hremove.1, ?_⟩
      · rw [hcount]
        exact habsent.snoc hnot
      · rw [← heligible]
        exact hremove.2
    · simp [pure, Except.pure] at hmissed

/-- **One application.** -/
theorem Reflects.apply {generation : UInt64} (h : Reflects previous applied)
    (hvalid : validateDiffSnapshot previous snapshot = .ok ())
    (hbuild : buildCatalogDiff previous snapshot = .ok (models, events))
    (hgeneration : checkedAdd (generationOf previous) 1 = some generation) :
    Reflects (some ⟨generation, snapshot.version, snapshot.observedAtMs, models⟩)
      (applied ++ [snapshot]) := by
  obtain ⟨hpresent, hmissing, -⟩ := buildCatalogDiff_ok hbuild
  have hnewer : ∀ x ∈ applied, x.version < snapshot.version := by
    intro x hx
    obtain ⟨current, rfl, hle⟩ := h.version x hx
    simp only [validateDiffSnapshot, except_ok, decide_eq_true_eq] at hvalid
    obtain ⟨-, hlt, -⟩ := hvalid
    exact UInt64.lt_of_le_of_lt hle hlt
  refine ⟨?_, ?_, ?_, ?_⟩
  · have hcount := checkedAdd_some hgeneration
    rw [h.generation] at hcount
    rw [List.length_append]
    exact hcount
  · intro x hx
    refine ⟨_, rfl, ?_⟩
    rcases List.mem_append.mp hx with hx | hx
    · exact UInt64.le_of_lt (hnewer x hx)
    · rw [List.mem_singleton.mp hx]
      exact UInt64.le_refl _
  · rw [List.map_append, List.pairwise_append]
    refine ⟨h.increasing, List.pairwise_singleton _ _, ?_⟩
    simpa using hnewer
  · rintro current model modelState ⟨⟩ hstate
    by_cases hmem : model ∈ snapshot.models
    · rw [hpresent model hmem, Option.some.injEq] at hstate
      subst hstate
      exact ⟨snapshot, by simp, hmem⟩
    · obtain ⟨before, event, hknown, hmissed⟩ := hmissing model hmem modelState hstate
      exact explains_missed (h.known hknown) hmem hmissed

end Histories

/-! ### Interleavings -/

/-- The registry, and the previews that its callers hold, each with the snapshot it is for. -/
structure System where
  registry : CatalogDiffRegistry
  issued : List (CatalogSnapshot × CatalogDiffPreview)

def System.initial : System := ⟨.new, []⟩

/-- A call and its outcome. -/
inductive Label
  | preview (snapshot : CatalogSnapshot) (outcome : Except CatalogDiffError CatalogDiffPreview)
  | apply (snapshot : CatalogSnapshot) (plan : CatalogDiffPreview)
      (outcome : Except CatalogDiffError CatalogDiffApplyResult)

/-- One call. A preview is applied by a caller that holds it, any number of times. -/
inductive Step : System → Label → System → Prop
  | preview {system : System} {snapshot outcome} (h : system.registry.preview snapshot = outcome) :
    Step system (.preview snapshot outcome)
      { system with issued := system.issued ++ outcome.toOption.toList.map (Prod.mk snapshot) }
  | apply {system : System} {snapshot plan outcome registry}
    (hissued : (snapshot, plan) ∈ system.issued)
    (h : (CatalogDiffRegistry.apply plan).call system.registry = (outcome, registry)) :
    Step system (.apply snapshot plan outcome) { system with registry }

def appliedBy (target : ModelCatalogTarget) : Label → Option CatalogSnapshot
  | .apply snapshot _ (.ok _) => if snapshot.target = target then some snapshot else none
  | _ => none

/-- The snapshots that were applied to the target, in order. -/
def applied (target : ModelCatalogTarget) (trace : List Label) : List CatalogSnapshot :=
  trace.filterMap (appliedBy target)

/-- A preview in the hands of a caller: as long as the generation of its target is the one it
started from, it is the preview of the current state. -/
structure Issued (registry : CatalogDiffRegistry) (snapshot : CatalogSnapshot)
    (plan : CatalogDiffPreview) : Prop where
  target : plan.target = snapshot.target
  base : plan.baseGeneration ≤ generationOf (registry.targets snapshot.target)
  current : generationOf (registry.targets snapshot.target) = plan.baseGeneration →
    registry.preview snapshot = .ok plan

structure Sound (trace : List Label) (system : System) : Prop where
  reflects : ∀ target, Reflects (system.registry.targets target) (applied target trace)
  issued : ∀ snapshot plan, (snapshot, plan) ∈ system.issued →
    Issued system.registry snapshot plan

section Runs

variable {system system' : System} {trace : List Label} {plan : CatalogDiffPreview}
  {registry registry' : CatalogDiffRegistry} {target : ModelCatalogTarget}
  {outcome : Except CatalogDiffError CatalogDiffApplyResult} {result : CatalogDiffApplyResult}

theorem applied_snoc (l : Label) :
    applied target (trace ++ [l]) = applied target trace ++ (appliedBy target l).toList := by
  rw [applied, applied]
  cases h : appliedBy target l <;> simp [h]

theorem preview_ok (h : registry.preview snapshot = .ok plan) :
    validateDiffSnapshot (registry.targets snapshot.target) snapshot = .ok () ∧
      ∃ models events, buildCatalogDiff (registry.targets snapshot.target) snapshot =
        .ok (models, events) ∧ plan = {
          target := snapshot.target
          snapshotVersion := snapshot.version
          baseGeneration := generationOf (registry.targets snapshot.target)
          events
          nextState := ⟨generationOf (registry.targets snapshot.target), snapshot.version,
            snapshot.observedAtMs, models⟩ } := by
  simp only [CatalogDiffRegistry.preview, except_ok, Prod.exists] at h
  obtain ⟨_, hvalid, models, events, hbuild, rfl⟩ := h
  exact ⟨hvalid, models, events, hbuild, rfl⟩

theorem apply_ok (h : (CatalogDiffRegistry.apply plan).call registry = (.ok result, registry')) :
    generationOf (registry.targets plan.target) = plan.baseGeneration ∧
      result.events = plan.events ∧
      ∃ generation, checkedAdd (generationOf (registry.targets plan.target)) 1 = some generation ∧
        registry' = ⟨fun target => if target = plan.target then
          some { plan.nextState with generation } else registry.targets target⟩ := by
  simp only [CatalogDiffRegistry.apply, call_ok, decide_eq_true_eq] at h
  obtain ⟨_, hcurrent, generation, hgeneration, _, rfl, rfl⟩ := h
  exact ⟨hcurrent, rfl, generation, hgeneration, rfl⟩

theorem apply_error {e : CatalogDiffError}
    (h : (CatalogDiffRegistry.apply plan).call registry = (.error e, registry')) :
    registry' = registry := by
  have hends : Ends (CatalogDiffRegistry.apply plan) registry
      fun o r => ∀ e, o = .error e → r = registry := by
    refine ends_get_bind (ends_ensure_bind (fun _ => ends_okOr_bind (fun generation _ => ?_) ?_) ?_)
    · rintro e ⟨⟩
    · exact fun _ _ _ => rfl
    · exact fun _ _ _ => rfl
  have hafter := hends e (by rw [h])
  rwa [h] at hafter

theorem apply_stale (h : generationOf (registry.targets plan.target) ≠ plan.baseGeneration) :
    (CatalogDiffRegistry.apply plan).call registry = (.error .stalePreview, registry) := by
  simp [CatalogDiffRegistry.apply, call_eq, h]

/-- An application leaves the other previews in the hands of their callers as they are, or stale. -/
theorem Issued.apply {snapshot' : CatalogSnapshot} {plan' : CatalogDiffPreview}
    (h : Issued registry snapshot' plan')
    (hcall : (CatalogDiffRegistry.apply plan).call registry = (.ok result, registry')) :
    Issued registry' snapshot' plan' := by
  obtain ⟨-, -, generation, hgeneration, rfl⟩ := apply_ok hcall
  have hcount : generation.toNat = (generationOf (registry.targets plan.target)).toNat + 1 :=
    checkedAdd_some hgeneration
  by_cases hsame : snapshot'.target = plan.target
  · -- the generation is past the base of every preview of the target
    have hbase := UInt64.le_iff_toNat_le.mp h.base
    rw [hsame] at hbase
    refine ⟨h.target, ?_, fun heq => ?_⟩
    · simp only [hsame, if_true, generationOf, Option.elim_some]
      rw [UInt64.le_iff_toNat_le]
      omega
    · simp only [hsame, if_true, generationOf, Option.elim_some] at heq
      rw [← heq] at hbase
      omega
  · have hpreview : CatalogDiffRegistry.preview ⟨fun target => if target = plan.target then
        some { plan.nextState with generation } else registry.targets target⟩ snapshot' =
        registry.preview snapshot' := by
      simp only [CatalogDiffRegistry.preview, hsame, if_false]
    refine ⟨h.target, ?_, ?_⟩
    · simpa only [hsame, if_false] using h.base
    · rw [hpreview]
      simpa only [hsame, if_false] using h.current

/-- A preview that is applied is the preview of the current state. -/
theorem apply_current (h : Issued registry snapshot plan)
    (hcall : (CatalogDiffRegistry.apply plan).call registry = (.ok result, registry')) :
    registry.preview snapshot = .ok plan := by
  obtain ⟨hbase, -⟩ := apply_ok hcall
  rw [h.target] at hbase
  exact h.current hbase

theorem Reflects.step (h : ∀ target, Reflects (registry.targets target) (applied target trace))
    (hissued : Issued registry snapshot plan)
    (hcall : (CatalogDiffRegistry.apply plan).call registry = (.ok result, registry')) (target) :
    Reflects (registry'.targets target)
      (applied target (trace ++ [.apply snapshot plan (.ok result)])) := by
  obtain ⟨hvalid, models, events, hbuild, rfl⟩ := preview_ok (apply_current hissued hcall)
  obtain ⟨-, -, generation, hgeneration, rfl⟩ := apply_ok hcall
  rw [applied_snoc]
  by_cases hsame : target = snapshot.target
  · subst hsame
    simp only [appliedBy, if_true]
    exact (h snapshot.target).apply hvalid hbuild hgeneration
  · simp only [appliedBy, if_neg (Ne.symm hsame), if_neg hsame, Option.toList_none, List.append_nil]
    exact h target

theorem sound_initial : Sound [] .initial :=
  ⟨fun _ => (⟨rfl, by simp, .nil, by simp⟩ : Reflects none []), by simp [System.initial]⟩

theorem Sound.step {l : Label} (h : Sound trace system) (hstep : Step system l system') :
    Sound (trace ++ [l]) system' := by
  cases hstep with
  | @preview snapshot outcome hpreview =>
    refine ⟨fun target => ?_, fun snapshot' plan' hmem => ?_⟩
    · rw [applied_snoc]
      simpa [appliedBy] using h.reflects target
    · rcases List.mem_append.mp hmem with hmem | hmem
      · exact h.issued snapshot' plan' hmem
      · obtain ⟨plan, hplan, heq⟩ := List.mem_map.mp hmem
        cases heq
        cases outcome with
        | error e => simp [Except.toOption] at hplan
        | ok p =>
          obtain rfl : plan' = p := by simpa [Except.toOption] using hplan
          obtain ⟨-, _, _, -, rfl⟩ := preview_ok hpreview
          exact ⟨rfl, UInt64.le_refl _, fun _ => hpreview⟩
  | @apply snapshot plan outcome registry hissued hcall =>
    cases outcome with
    | error e =>
      obtain rfl := apply_error hcall
      refine ⟨fun target => ?_, h.issued⟩
      rw [applied_snoc]
      simpa [appliedBy] using h.reflects target
    | ok result =>
      exact ⟨Reflects.step h.reflects (h.issued snapshot plan hissued) hcall,
        fun snapshot' plan' hmem => (h.issued snapshot' plan' hmem).apply hcall⟩

theorem sound_of_run (h : Run Step .initial trace system) : Sound trace system :=
  h.invariant sound_initial fun _ => Sound.step

/-- A preview is stale once another snapshot was applied to its target. -/
theorem stale_of_applied {before after : List Label}
    (h : Run Step .initial (before ++ .preview snapshot (.ok plan) :: after) system)
    (hafter : applied snapshot.target after ≠ []) :
    (CatalogDiffRegistry.apply plan).call system.registry =
      (.error .stalePreview, system.registry) := by
  obtain ⟨s, s', hbefore, hstep, hrest⟩ := h.at_label
  have hnow := ((sound_of_run h).reflects snapshot.target).generation
  have hlength :
    (applied snapshot.target (before ++ .preview snapshot (.ok plan) :: after)).length =
      (applied snapshot.target before).length + (applied snapshot.target after).length := by
    rw [applied, List.filterMap_append, List.length_append, List.filterMap_cons_none rfl,
      applied, applied]
  have hpos := List.length_pos_iff.mpr hafter
  cases hstep with
  | preview hpreview =>
    have hbase := ((sound_of_run hbefore).reflects snapshot.target).generation
    obtain ⟨-, models, events, -, rfl⟩ := preview_ok hpreview
    refine apply_stale fun heq => ?_
    have hcount := congrArg UInt64.toNat heq
    simp only at hcount
    omega

end Runs

/-- **When a model is removed.** Over every interleaving of previews and applications, with
arbitrary snapshots: (1) an application that removes a model is the last of at least three applied
snapshots in a row without the model, after one with it, and a day or more lies between the first of
them and this one; (2) a model of the applied snapshot is present afterwards; (3) a preview is
refused, and changes nothing, once another snapshot was applied to its target; (4) the versions of
the applied snapshots of a target increase. -/
theorem removed_after_absences {trace : List Label} {system : System}
    (h : Run Step .initial trace system) :
    (∀ before snapshot plan result, trace = before ++ [.apply snapshot plan (.ok result)] →
      (∀ model misses firstMissingAtMs, .removed model misses firstMissingAtMs ∈ result.events →
        ∃ earlier last first missing,
          applied snapshot.target trace = earlier ++ last :: first :: missing ∧
          model ∈ last.models ∧ (∀ absent ∈ first :: missing, model ∉ absent.models) ∧
          3 ≤ (first :: missing).length ∧
          first.observedAtMs + 24 * 60 * 60 * 1000 ≤ snapshot.observedAtMs) ∧
      ∀ model ∈ snapshot.models, ∃ state, system.registry.targets snapshot.target = some state ∧
        state.models[model]? = some .present) ∧
    (∀ before snapshot plan after, trace = before ++ .preview snapshot (.ok plan) :: after →
      applied snapshot.target after ≠ [] →
      (CatalogDiffRegistry.apply plan).call system.registry =
        (.error .stalePreview, system.registry)) ∧
    ∀ target, ((applied target trace).map (·.version)).Pairwise (· < ·) := by
  refine ⟨?_, ?_, fun target => ((sound_of_run h).reflects target).increasing⟩
  · rintro before snapshot plan result rfl
    obtain ⟨s, s', hbefore, hstep, hnil⟩ := h.at_label
    cases hnil
    cases hstep with
    | apply hissued hcall =>
      have hsound := sound_of_run hbefore
      obtain ⟨hvalid, models, events, hbuild, rfl⟩ :=
        preview_ok (apply_current (hsound.issued _ _ hissued) hcall)
      obtain ⟨-, hevents, generation, -, rfl⟩ := apply_ok hcall
      obtain ⟨hpresent, -, hcauses⟩ := buildCatalogDiff_ok hbuild
      refine ⟨fun model misses first hremoved => ?_, fun model hmem => ?_⟩
      · rw [hevents] at hremoved
        rcases hcauses _ hremoved with ⟨_, hadded⟩ | hmissed
        · cases hadded
        · obtain ⟨⟨earlier, last, x, missing, happlied, hlast, habsent, hlength, rfl⟩,
            hthree, hday⟩ :=
            absent_of_removed (hsound.reflects snapshot.target) hmissed
          refine ⟨earlier, last, x, missing, ?_, hlast, habsent, ?_, hday⟩
          · rw [applied_snoc, ← happlied]
            simp [appliedBy]
          · rw [List.length_cons, hlength]
            exact hthree
      · exact ⟨_, if_pos rfl, hpresent model hmem⟩
  · rintro before snapshot plan after rfl hafter
    exact stale_of_applied h hafter

/-! ### A removal -/

/-- A snapshot is previewed, and the preview applied. -/
def commit (system : System) (snapshot : CatalogSnapshot) : List Label × System :=
  match system.registry.preview snapshot with
  | .error e => ([.preview snapshot (.error e)], system)
  | .ok plan => ([.preview snapshot (.ok plan),
      .apply snapshot plan ((CatalogDiffRegistry.apply plan).call system.registry).1],
    ⟨((CatalogDiffRegistry.apply plan).call system.registry).2, system.issued ++
      [(snapshot, plan)]⟩)

theorem run_commit (system : System) (snapshot : CatalogSnapshot) :
    Run Step system (commit system snapshot).1 (commit system snapshot).2 := by
  rw [commit]
  cases h : system.registry.preview snapshot with
  | error e =>
    have hstep := Step.preview h
    simp only [Except.toOption, Option.toList_none, List.map_nil, List.append_nil] at hstep
    exact .cons hstep (.nil _)
  | ok plan =>
    refine .cons (Step.preview h) (.cons ?_ (.nil _))
    exact Step.apply (List.mem_append_right _ (by simp [Except.toOption])) rfl

/-- The labels of snapshots that are committed one after another. -/
def commits (system : System) : List CatalogSnapshot → List Label
  | [] => []
  | snapshot :: rest => (commit system snapshot).1 ++ commits (commit system snapshot).2 rest

theorem run_commits : ∀ (snapshots : List CatalogSnapshot) (system : System),
    ∃ system', Run Step system (commits system snapshots) system'
  | [], system => ⟨system, .nil system⟩
  | snapshot :: rest, system => by
    obtain ⟨system', hrest⟩ := run_commits rest (commit system snapshot).2
    exact ⟨system', (run_commit system snapshot).append hrest⟩

def sampleModel : DiscoveredModel := ⟨"m", by decide⟩

/-- A snapshot of the sample target that has the model or not. -/
def sampleSnapshot (has : Bool) (version : UInt64) (hour : Fin 100)
    (hversion : version ≠ 0) : CatalogSnapshot where
  target := ⟨.lit "e", .lit "c"⟩
  models := if has then [sampleModel] else []
  version
  observedAtMs := hour.val * 3600000
  normalized := by cases has <;> simp [Normalized]
  versioned := hversion
  observed := by omega

/-- The model is missing three times, the last time after a day. -/
def sampleSnapshots : List CatalogSnapshot :=
  [sampleSnapshot true 1 0 (by decide), sampleSnapshot false 2 1 (by decide),
    sampleSnapshot false 3 2 (by decide), sampleSnapshot false 4 25 (by decide)]

def lastEvents (trace : List Label) : Option (List CatalogDiffEvent) :=
  match trace.getLast? with
  | some (.apply _ _ (.ok result)) => some result.events
  | _ => none

/-- The model is removed with the fourth snapshot, and the history says why. -/
theorem removed_after_absences_sample :
    ∃ trace system, Run Step .initial trace system ∧
      lastEvents trace = some [.removed sampleModel 3 3600000] ∧
      ∃ target earlier last first missing,
        applied target trace = earlier ++ last :: first :: missing ∧ sampleModel ∈ last.models ∧
        (∀ absent ∈ first :: missing, sampleModel ∉ absent.models) ∧
          3 ≤ (first :: missing).length := by
  obtain ⟨system, hrun⟩ := run_commits sampleSnapshots .initial
  have hevents : lastEvents (commits .initial sampleSnapshots) =
      some [.removed sampleModel 3 3600000] := by decide +kernel
  refine ⟨_, system, hrun, hevents, ?_⟩
  rw [lastEvents] at hevents
  split at hevents
  case h_1 snapshot plan result hlast =>
    obtain ⟨before, htrace⟩ := List.getLast?_eq_some_iff.mp hlast
    obtain ⟨happlied, -, -⟩ := removed_after_absences hrun
    obtain ⟨hremoved, -⟩ := happlied before snapshot plan result htrace
    obtain ⟨earlier, last, first, missing, heq, hmem, habsent, hthree, -⟩ :=
      hremoved sampleModel 3 3600000 (by rw [Option.some.inj hevents]; simp)
    exact ⟨snapshot.target, earlier, last, first, missing, heq, hmem, habsent, hthree⟩
  case h_2 => cases hevents

end CpaGateway.Catalog.Removal
