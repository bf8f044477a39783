import CpaGateway.Router.RouteScheduler

/-! # Listed models, resolved names and selected candidates

What a group can resolve is what it is listed (`resolve_iff`). A listed model has a compiled
schedule, and a selection returns the candidate in the slot under the cursor of the first tier
(`select_eq`, `selections_rotate`); that this candidate is hard-eligible is only certain where all
candidates of the lowest priority are. -/

namespace CpaGateway.Router.Visibility

open Core.Identity Lib.Rotation Router.Schedule Router.Snapshot Router.RouteScheduler RouteSnapshot
open RouteCandidateScheduler

variable {snapshot : RouteSnapshot} {group : AccessGroupId} {text : String}
  {model : SnapshotPublicModel} {route : SnapshotRoute} {schedule : SnapshotRouteSchedule}

/-! ### Names -/

def Names (snapshot : RouteSnapshot) (text : String) (model : SnapshotPublicModel) : Prop :=
  text = model.modelName ∨ snapshot.aliases[text]? = some model.id

/-- The model is filed in the snapshot, under its name. -/
def Filed (snapshot : RouteSnapshot) (model : SnapshotPublicModel) : Prop :=
  snapshot.publicModels[model.modelName]? = some model

theorem filed_of_getElem? {name : String} (h : snapshot.publicModels[name]? = some model) :
    Filed snapshot model := by
  rw [Filed, snapshot.wellFormed.named name model h]
  exact h

theorem resolvePublicModel_iff :
    snapshot.resolvePublicModel text = some model ↔ Filed snapshot model ∧
      Names snapshot text model := by
  have hwf := snapshot.wellFormed
  constructor
  · intro h
    cases hname : snapshot.publicModels[text]? with
    | some other =>
      simp only [resolvePublicModel, hname, Option.some_or, Option.some.injEq] at h
      subst h
      exact ⟨filed_of_getElem? hname, .inl (hwf.named _ _ hname).symm⟩
    | none =>
      simp only [resolvePublicModel, hname, Option.none_or, Option.bind_eq_bind,
        Option.bind_eq_some_iff] at h
      obtain ⟨id, halias, name, hid, hget⟩ := h
      obtain ⟨other, hother, rfl⟩ := (hwf.known id name).mp hid
      cases hget.symm.trans hother
      exact ⟨filed_of_getElem? hget, .inr halias⟩
  · rintro ⟨hfiled, rfl | halias⟩
    · have hget : snapshot.publicModels[model.modelName]? = some model := hfiled
      simp [resolvePublicModel, hget]
    · have hnone := (hwf.aliased text model.id halias).1
      have hid := (hwf.known model.id model.modelName).mpr ⟨model, hfiled, rfl⟩
      simp only [resolvePublicModel, hnone, halias, hid, Option.bind_eq_bind, Option.bind_some]
      exact hfiled

theorem mem_publicModelsForAccessGroup :
    model ∈ snapshot.publicModelsForAccessGroup group ↔ Filed snapshot model ∧
      ∃ view, snapshot.accessGroup group = some view ∧
        snapshot.publicModelIsVisibleTo view model := by
  simp only [publicModelsForAccessGroup, List.mem_filter, List.mem_map, Prod.exists,
    exists_eq_right, Std.TreeMap.mem_toList_iff_getElem?_eq_some, Option.any_eq_true]
  refine and_congr_left fun _ => ?_
  exact ⟨fun ⟨_, h⟩ => filed_of_getElem? h, fun h => ⟨_, h⟩⟩

/-- What a group can resolve is what it is listed, by name or by alias. -/
theorem resolve_iff :
    snapshot.resolvePublicModelForAccessGroup group text = some model ↔
      model ∈ snapshot.publicModelsForAccessGroup group ∧ Names snapshot text model := by
  rw [mem_publicModelsForAccessGroup]
  simp only [resolvePublicModelForAccessGroup, Option.bind_eq_bind,
    Option.bind_eq_some_iff, Option.ite_none_right_eq_some, Option.some.injEq,
    resolvePublicModel_iff]
  constructor
  · rintro ⟨view, hview, other, ⟨hfiled, hnames⟩, hvisible, rfl⟩
    exact ⟨⟨hfiled, view, hview, hvisible⟩, hnames⟩
  · rintro ⟨⟨hfiled, view, hview, hvisible⟩, hnames⟩
    exact ⟨view, hview, model, ⟨hfiled, hnames⟩, hvisible, rfl⟩

/-! ### Selection -/

theorem exists_first_tier (hcompiled : Compiled route schedule) (hne : route.candidates ≠ []) :
    ∃ tier rest, schedule.priorityTiers = tier :: rest ∧
      ∀ candidate ∈ route.candidates, tier.priority ≤ candidate.priority := by
  obtain ⟨candidate, hmem⟩ := List.exists_mem_of_ne_nil _ hne
  obtain ⟨_, htier, -⟩ := hcompiled.covers candidate hmem
  obtain ⟨tier, rest, htiers⟩ := List.exists_cons_of_ne_nil (List.ne_nil_of_mem htier)
  refine ⟨tier, rest, htiers, fun candidate hmem => ?_⟩
  obtain ⟨other, hother, hpriority⟩ := hcompiled.covers candidate hmem
  have hascending := hcompiled.ascending
  rw [htiers, List.pairwise_cons] at hascending
  rw [htiers, List.mem_cons] at hother
  rw [← hpriority]
  rcases hother with rfl | hother
  · exact le_rfl
  · exact (hascending.1 other hother).le

variable {rest : List SnapshotPriorityTierSchedule} {tier : SnapshotPriorityTierSchedule}

section Select

variable {scheduler : RouteCandidateScheduler snapshot} {routeId : RouteId} {cursor : UInt64}
  {cursors : List UInt64} (hroute : snapshot.route routeId = some route)
  (hschedule : snapshot.routeSchedule routeId = some schedule)
  (hcompiled : Compiled route schedule) (htiers : schedule.priorityTiers = tier :: rest)
  (hcursors : scheduler.cursors[routeId]? = some (cursor :: cursors))

include hroute hschedule hcompiled htiers hcursors

/-- A selection without a condition returns the candidate in the slot under the cursor of the first
tier. -/
theorem select_eq :
    ∃ i candidate, tier.slotIndexes[cursor.toNat % tier.slotIndexes.length]? = some i ∧
      route.candidates[i]? = some candidate ∧ (scheduler.select routeId).1 = some candidate := by
  have hmem : tier ∈ schedule.priorityTiers := htiers ▸ List.mem_cons_self
  have hne := hcompiled.occupied tier hmem
  obtain ⟨i, visited, hslot, hvisits⟩ := @visits_cons _ cursor _ hne
  obtain ⟨candidate, hget, -⟩ := (hcompiled.slots tier hmem i).mp (List.mem_of_getElem? hslot)
  refine ⟨i, candidate, hslot, hget, ?_⟩
  have hscanned : scannedTiers schedule = tier :: rest.takeWhile (!·.slotIndexes.isEmpty) := by
    rw [scannedTiers, htiers, List.takeWhile_cons_of_pos (by simpa using hne)]
  have hselect := (selectEligible_eq (fun _ s => (true, s)) () hroute hschedule hcursors).1
  rw [hscanned] at hselect
  simp only [scanTiers, hvisits, scan, probeSlot, hget] at hselect
  exact hselect

/-- A selection moves the cursor of the first tier of its route one on, and no cursor of another
route. -/
theorem cursors_select (id : RouteId) :
    (scheduler.select id).2.cursors[routeId]? =
      some ((if id = routeId then cursor + 1 else cursor) :: cursors) := by
  have hmem : tier ∈ schedule.priorityTiers := htiers ▸ List.mem_cons_self
  obtain ⟨i, visited, hslot, hvisits⟩ := @visits_cons _ cursor _ (hcompiled.occupied tier hmem)
  obtain ⟨candidate, hget, -⟩ := (hcompiled.slots tier hmem i).mp (List.mem_of_getElem? hslot)
  change (scheduler.selectEligible id _ _).2.1.cursors[routeId]? = _
  unfold selectEligible
  split
  · rename_i hroute' hschedule' hcursors'
    simp only [Std.TreeMap.getElem?_insert, Std.compare_eq_iff_eq]
    split_ifs with hid
    · subst hid
      cases hroute.symm.trans hroute'
      cases hschedule.symm.trans hschedule'
      cases hcursors.symm.trans hcursors'
      simp [scannedTiers_eq hcompiled, htiers, scanTiers, hvisits, scan, probeSlot, hget]
    · exact hcursors
  · rename_i h
    rw [if_neg]
    · exact hcursors
    · rintro rfl
      exact h _ _ _ hroute hschedule hcursors

end Select

/-- **Turns.** Whatever is selected on other routes in between, the selections on a route go round
the slots of its tier of the lowest priority, one slot each, and start again where the cursor wraps.
-/
theorem selections_rotate (snapshot : RouteSnapshot) (routeId : RouteId) (before : List RouteId) :
    let scheduler := before.foldl (fun s id => (s.select id).2) (new snapshot)
    match snapshot.route routeId with
    | none => (scheduler.select routeId).1 = none
    | some route => ∃ schedule tier, snapshot.routeSchedule routeId = some schedule ∧
      tier ∈ schedule.priorityTiers ∧
        (∀ candidate ∈ route.candidates, tier.priority ≤ candidate.priority) ∧
      ∃ i candidate,
        tier.slotIndexes[before.count routeId % 2 ^ 64 % tier.slotIndexes.length]? = some i ∧
        route.candidates[i]? = some candidate ∧ (scheduler.select routeId).1 = some candidate := by
  intro scheduler
  cases hroute : snapshot.route routeId with
  | none =>
    change (scheduler.selectEligible routeId _ ()).1 = none
    rw [selectEligible_of_unknown _ _ hroute]
  | some route =>
    obtain ⟨-, hne, schedule, hschedule, hcompiled⟩ := snapshot.wellFormed.scheduled _ _ hroute
    obtain ⟨tier, rest, htiers, hlowest⟩ := exists_first_tier hcompiled hne
    refine ⟨schedule, tier, hschedule, htiers ▸ List.mem_cons_self, hlowest, ?_⟩
    have hcursors : scheduler.cursors[routeId]? =
        some (UInt64.ofNat (before.count routeId) :: rest.map fun _ => 0) := by
      induction before using List.reverseRecOn with
      | nil =>
        simp [scheduler, new, freshCursors, Std.TreeMap.getElem?_map, hschedule, htiers,
          List.replicate_succ]
      | append_singleton before id ih =>
        simp only [scheduler, List.foldl_concat]
        rw [cursors_select hroute hschedule hcompiled htiers ih]
        split_ifs with hid <;> simp [hid]
    simpa using select_eq hroute hschedule hcompiled htiers hcursors

/-- Every selection for the model finds a candidate that satisfies `P`. -/
def Selects (snapshot : RouteSnapshot) (model : SnapshotPublicModel)
    (P : SnapshotRouteCandidate → Prop) : Prop :=
  ∃ schedule, snapshot.routeSchedule model.routeId = some schedule ∧ schedule.priorityTiers ≠ [] ∧
    (∀ tier ∈ schedule.priorityTiers, tier.slotIndexes ≠ []) ∧
    ∀ scheduler : RouteCandidateScheduler snapshot,
      ∃ candidate, (scheduler.select model.routeId).1 = some candidate ∧ P candidate

def Preferred (route : SnapshotRoute) (candidate : SnapshotRouteCandidate) : Prop :=
  candidate ∈ route.candidates ∧ ∀ other ∈ route.candidates, candidate.priority ≤ other.priority

theorem exists_scheduler_at {routeId : RouteId}
    (hschedule : snapshot.routeSchedule routeId = some schedule)
    (htiers : schedule.priorityTiers = tier :: rest) (cursor : UInt64) :
    ∃ (scheduler : RouteCandidateScheduler snapshot) (cursors : List UInt64),
      scheduler.cursors[routeId]? = some (cursor :: cursors) := by
  obtain ⟨cursors, hcursors, hlen⟩ :=
    (new snapshot).aligned routeId schedule hschedule
  have hlength : (cursor :: cursors.tail).length = cursors.length := by
    rw [List.length_cons, List.length_tail, hlen, htiers]
    rfl
  refine ⟨⟨_, (new snapshot).aligned.insert hcursors hlength⟩, cursors.tail, ?_⟩
  exact Std.TreeMap.getElem?_insert_self

/-- The candidates that selections for a model return are the preferred ones of its route. -/
theorem selects_iff {P : SnapshotRouteCandidate → Prop} (hfiled : Filed snapshot model) :
    Selects snapshot model P ↔
      ∀ route, snapshot.route model.routeId = some route →
        ∀ candidate, Preferred route candidate → P candidate := by
  -- a filed model has a route with candidates and a compiled schedule
  obtain ⟨route, hroute, -⟩ := snapshot.wellFormed.routed _ _ hfiled
  obtain ⟨-, hne, schedule, hschedule, hcompiled⟩ := snapshot.wellFormed.scheduled _ _ hroute
  obtain ⟨tier, rest, htiers, hlowest⟩ := exists_first_tier hcompiled hne
  have hmem : tier ∈ schedule.priorityTiers := htiers ▸ List.mem_cons_self
  constructor
  · rintro ⟨-, -, -, -, hselects⟩ route' hroute' candidate ⟨hcandidate, hpreferred⟩
    cases hroute.symm.trans hroute'
    -- the candidate has a slot in the first tier; put the cursor there
    obtain ⟨i, hget⟩ := List.mem_iff_getElem?.mp hcandidate
    have hpriority : candidate.priority = tier.priority := by
      obtain ⟨j, hj⟩ := List.exists_mem_of_ne_nil _ (hcompiled.occupied tier hmem)
      obtain ⟨other, hother, hp⟩ := (hcompiled.slots tier hmem j).mp hj
      exact le_antisymm (hp ▸ hpreferred other (List.mem_of_getElem? hother))
        (hlowest candidate hcandidate)
    obtain ⟨k, hlt, hslot⟩ := List.mem_iff_getElem.mp
      ((hcompiled.slots tier hmem i).mpr ⟨candidate, hget, hpriority⟩)
    have hk : (UInt64.ofNat k).toNat % tier.slotIndexes.length = k := by
      have hbound := hcompiled.bounded tier hmem
      simp only [maxScheduleSlotsPerPriorityTier] at hbound
      rw [UInt64.toNat_ofNat', Nat.mod_eq_of_lt (b := 2 ^ 64) (by omega), Nat.mod_eq_of_lt hlt]
    obtain ⟨scheduler, cursors, hcursors⟩ :=
      exists_scheduler_at hschedule htiers (UInt64.ofNat k)
    obtain ⟨j, found, hj, hfound, hselect⟩ := select_eq hroute hschedule hcompiled htiers hcursors
    rw [hk, List.getElem?_eq_getElem hlt, hslot] at hj
    cases hj
    cases hget.symm.trans hfound
    obtain ⟨found, hfound, hP⟩ := hselects scheduler
    cases hselect.symm.trans hfound
    exact hP
  · intro hpreferred
    refine ⟨schedule, hschedule, htiers ▸ List.cons_ne_nil _ _, hcompiled.occupied,
      fun scheduler => ?_⟩
    obtain ⟨cursors, hcursors, hlen⟩ := scheduler.aligned model.routeId schedule hschedule
    rw [htiers] at hlen
    obtain ⟨cursor, cursors, rfl⟩ := List.exists_cons_of_length_eq_add_one hlen
    obtain ⟨i, candidate, hi, hget, hselect⟩ := select_eq hroute hschedule hcompiled htiers hcursors
    obtain ⟨other, hother, hp⟩ := (hcompiled.slots tier hmem i).mp (List.mem_of_getElem? hi)
    cases hget.symm.trans hother
    refine ⟨candidate, hselect, hpreferred route hroute candidate ⟨List.mem_of_getElem? hget, ?_⟩⟩
    rw [hp]
    exact hlowest

/-! ### What the snapshot promises -/

/-- A snapshot serves what it lists: names resolve to what is listed and only to that, the name of a
model is never taken for another one, and every selection for a listed model returns a hard-eligible
candidate. -/
structure Serves (snapshot : RouteSnapshot) : Prop where
  resolves : ∀ group text model,
    snapshot.resolvePublicModelForAccessGroup group text = some model ↔
      model ∈ snapshot.publicModelsForAccessGroup group ∧ Names snapshot text model
  named : ∀ model other, Filed snapshot model →
    snapshot.resolvePublicModel model.modelName = some other → other = model
  selects : ∀ group, ∀ model ∈ snapshot.publicModelsForAccessGroup group,
    Selects snapshot model (·.isHardEligible)

/-- Wherever a group may use the route of a model and the route has a hard-eligible candidate at
all, the preferred candidates of the route are hard-eligible. -/
def PreferredEligible (snapshot : RouteSnapshot) : Prop :=
  ∀ group view model route, snapshot.accessGroup group = some view → Filed snapshot model →
    view.permitsRoute model.routeId → snapshot.route model.routeId = some route →
    route.hasHardEligibleCandidate →
      ∀ candidate, Preferred route candidate → candidate.isHardEligible

/-- A snapshot serves what it lists exactly if the preferred candidates of the routes that it shows
are hard-eligible: the compiled schedule has slots for all candidates of a route, and a selection
does not ask whether they are. -/
theorem serves_iff (snapshot : RouteSnapshot) : Serves snapshot ↔ PreferredEligible snapshot := by
  constructor
  · intro h group view model route hview hmodel hpermits hroute heligible
    have hlisted : model ∈ snapshot.publicModelsForAccessGroup group := by
      rw [mem_publicModelsForAccessGroup]
      exact ⟨hmodel, view, hview, by simp [publicModelIsVisibleTo, *]⟩
    exact (selects_iff hmodel).mp (h.selects group model hlisted) route hroute
  · intro h
    refine ⟨fun _ _ _ => resolve_iff, fun model other hmodel hresolve => ?_,
      fun group model hlisted => ?_⟩
    · obtain ⟨hother, hnames⟩ := resolvePublicModel_iff.mp hresolve
      rcases hnames with hname | halias
      · rw [Filed, ← hname, hmodel] at hother
        exact (Option.some.inj hother).symm
      · -- an alias is never the name of a model
        have hnone := (snapshot.wellFormed.aliased _ _ halias).1
        rw [hmodel] at hnone
        cases hnone
    · obtain ⟨hmodel, view, hview, hvisible⟩ := mem_publicModelsForAccessGroup.mp hlisted
      rw [publicModelIsVisibleTo, Bool.and_eq_true, Option.any_eq_true] at hvisible
      obtain ⟨hpermits, shown, hshown, heligible⟩ := hvisible
      refine (selects_iff hmodel).mpr fun route hroute => ?_
      cases hshown.symm.trans hroute
      exact h group view model shown hview hmodel hpermits hshown heligible

/-- Two candidates, of which the preferred one is no longer in the catalog. -/
def expiredFirst : RouteSnapshotInput where
  publicModels := [⟨.lit "model", "gpt", .lit "route"⟩]
  aliases := []
  routes := [{
    id := .lit "route"
    publicModelId := .lit "model"
    policy := .priorityFailover
    maxAttempts := 2
    bootstrapTimeoutMs := 1000
    candidates := [
      { id := .lit "a"
        endpointId := .lit "endpoint-a"
        upstreamId := .lit "upstream"
        upstreamModel := "gpt"
        priority := 0
        weight := 1
        catalogAdmission := .listed .expired
        activeBindingCount := 1 },
      { id := .lit "b"
        endpointId := .lit "endpoint-b"
        upstreamId := .lit "upstream"
        upstreamModel := "gpt"
        priority := 1
        weight := 1
        catalogAdmission := .listed .fresh
        activeBindingCount := 1 }] }]
  accessGroups := [⟨.lit "group", {.lit "route"}⟩]
  clientKeys := []

theorem expired_candidate_selected :
    ∃ snapshot, tryNew expiredFirst = .ok snapshot ∧ ¬ Serves snapshot := by
  have heval :
      (match tryNew expiredFirst with
      | .ok snapshot =>
        (snapshot.publicModelsForAccessGroup ⟨"group", by decide⟩).any fun model =>
          ((new snapshot).select model.routeId).1.any (!·.isHardEligible)
      | .error _ => false) = true := by
    decide +kernel
  cases h : tryNew expiredFirst with
  | error e =>
    rw [h] at heval
    cases heval
  | ok snapshot =>
    rw [h] at heval
    obtain ⟨model, hlisted, hselect⟩ := List.any_eq_true.mp heval
    refine ⟨snapshot, rfl, fun hserves => ?_⟩
    obtain ⟨-, -, -, -, hall⟩ := hserves.selects _ model hlisted
    obtain ⟨candidate, hcandidate, heligible⟩ := hall (new snapshot)
    rw [hcandidate] at hselect
    simp [heligible] at hselect

end CpaGateway.Router.Visibility
