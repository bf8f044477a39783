import CpaGateway.Lib.Rotation
import CpaGateway.Router.Snapshot
import Mathlib.Data.List.TakeWhile

/-! # Selection over compiled schedules

`RouteCandidateScheduler` keeps one cursor for every tier of every route of a snapshot. A selection
takes the cursors of the tiers it enters and advances them by one; the predicate of the caller may
change a state of its own, as one that takes a lease does. -/

namespace CpaGateway.Router.RouteScheduler

open Core.Identity Lib.Rotation Router.Schedule Router.Snapshot

/-- One cursor for each tier of a schedule. -/
def Aligned (snapshot : RouteSnapshot) (cursors : Std.TreeMap RouteId (List UInt64)) : Prop :=
  ∀ (routeId : RouteId) (schedule : SnapshotRouteSchedule),
    snapshot.routeSchedule routeId = some schedule →
      ∃ tierCursors : List UInt64, cursors[routeId]? = some tierCursors ∧
        tierCursors.length = schedule.priorityTiers.length

structure RouteCandidateScheduler (snapshot : RouteSnapshot) where
  cursors : Std.TreeMap RouteId (List UInt64)
  aligned : Aligned snapshot cursors

variable {snapshot : RouteSnapshot} {σ : Type}

/-- The cursors of a new scheduler all start at zero. The source goes through the routes, which have
the same identities as the schedules. -/
def freshCursors (snapshot : RouteSnapshot) : Std.TreeMap RouteId (List UInt64) :=
  snapshot.routeSchedules.map fun _ schedule => schedule.priorityTiers.map fun _ => 0

theorem aligned_freshCursors (snapshot : RouteSnapshot) :
    Aligned snapshot (freshCursors snapshot) := by
  intro routeId schedule hget
  refine ⟨schedule.priorityTiers.map fun _ => 0, ?_, List.length_map _⟩
  rw [freshCursors, Std.TreeMap.getElem?_map, ← RouteSnapshot.routeSchedule, hget, Option.map_some]

def RouteCandidateScheduler.new (snapshot : RouteSnapshot) : RouteCandidateScheduler snapshot where
  cursors := freshCursors snapshot
  aligned := aligned_freshCursors snapshot

/-- The probe of one slot: an index outside the route ends the selection. -/
def probeSlot (route : SnapshotRoute) (isEligible : SnapshotRouteCandidate → σ → Bool × σ)
    (candidateIndex : ℕ) (s : σ) : Step SnapshotRouteCandidate × σ :=
  match route.candidates[candidateIndex]? with
  | none => (.stop, s)
  | some candidate =>
    match isEligible candidate s with
    | (true, s') => (.found candidate, s')
    | (false, s') => (.next, s')

/-- The tiers before the first one without slots, where the selection returns. -/
def scannedTiers (schedule : SnapshotRouteSchedule) : List SnapshotPriorityTierSchedule :=
  schedule.priorityTiers.takeWhile (!·.slotIndexes.isEmpty)

variable {routeId : RouteId} {tierCursors : List UInt64}

theorem Aligned.insert {cursors : Std.TreeMap RouteId (List UInt64)}
    {tierCursors' : List UInt64} (h : Aligned snapshot cursors)
    (hget : cursors[routeId]? = some tierCursors)
    (hlen : tierCursors'.length = tierCursors.length) :
    Aligned snapshot (cursors.insert routeId tierCursors') := by
  intro id schedule hschedule
  simp only [Std.TreeMap.getElem?_insert, Std.compare_eq_iff_eq]
  split_ifs with heq
  · subst heq
    obtain ⟨_, hget', hlen'⟩ := h routeId schedule hschedule
    cases hget.symm.trans hget'
    exact ⟨tierCursors', rfl, hlen.trans hlen'⟩
  · exact h id schedule hschedule

/-- Selects the next candidate that the predicate accepts. -/
def RouteCandidateScheduler.selectEligible (scheduler : RouteCandidateScheduler snapshot)
    (routeId : RouteId) (isEligible : SnapshotRouteCandidate → σ → Bool × σ) (s : σ) :
    Option SnapshotRouteCandidate × RouteCandidateScheduler snapshot × σ :=
  match snapshot.route routeId, snapshot.routeSchedule routeId, h : scheduler.cursors[routeId]? with
  | some route, some schedule, some tierCursors =>
    let answer := scanTiers (·.slotIndexes) (probeSlot route isEligible) (scannedTiers schedule)
      tierCursors s
    (answer.1.toOption,
      ⟨scheduler.cursors.insert routeId answer.2.1,
        scheduler.aligned.insert h (length_scanTiers ..)⟩, answer.2.2)
  | _, _, _ => (none, scheduler, s)

variable {scheduler : RouteCandidateScheduler snapshot} {schedule : SnapshotRouteSchedule}
  {route : SnapshotRoute}

/-- A selection on a route of the snapshot is a scan of its tiers. -/
theorem RouteCandidateScheduler.selectEligible_eq
    (isEligible : SnapshotRouteCandidate → σ → Bool × σ) (s : σ)
    (hroute : snapshot.route routeId = some route)
    (hschedule : snapshot.routeSchedule routeId = some schedule)
    (hcursors : scheduler.cursors[routeId]? = some tierCursors) :
    let answer := scanTiers (·.slotIndexes) (probeSlot route isEligible) (scannedTiers schedule)
      tierCursors s
    (scheduler.selectEligible routeId isEligible s).1 = answer.1.toOption ∧
      (scheduler.selectEligible routeId isEligible s).2.2 = answer.2.2 := by
  unfold selectEligible
  split
  · rename_i route' schedule' tierCursors' h₁ h₂ h₃
    cases hroute.symm.trans h₁
    cases hschedule.symm.trans h₂
    cases hcursors.symm.trans h₃
    exact ⟨rfl, rfl⟩
  · rename_i h
    exact (h route schedule tierCursors hroute hschedule hcursors).elim

theorem RouteCandidateScheduler.selectEligible_of_unknown
    (isEligible : SnapshotRouteCandidate → σ → Bool × σ) (s : σ)
    (hroute : snapshot.route routeId = none) :
    scheduler.selectEligible routeId isEligible s = (none, scheduler, s) := by
  unfold selectEligible
  split
  · rename_i h _ _
    rw [hroute] at h
    cases h
  · rfl

/-- A candidate was accepted where `R` holds, or rejected where `I` still holds. -/
def Answered (I R : σ → Prop) : Bool × σ → Prop
  | (true, s) => R s
  | (false, s) => I s

/-- The rule for a selection: what every rejected candidate preserves holds where none is selected,
and the selected one was accepted from there. -/
theorem RouteCandidateScheduler.selectEligible_ends (scheduler : RouteCandidateScheduler snapshot)
    (routeId : RouteId) {isEligible : SnapshotRouteCandidate → σ → Bool × σ} {I : σ → Prop}
    {R : SnapshotRouteCandidate → σ → Prop}
    (h : ∀ candidate s, I s → Answered I (R candidate) (isEligible candidate s)) {s : σ}
    (hs : I s) : match (scheduler.selectEligible routeId isEligible s).1 with
    | some candidate => R candidate (scheduler.selectEligible routeId isEligible s).2.2
    | none => I (scheduler.selectEligible routeId isEligible s).2.2 := by
  generalize hanswer : scheduler.selectEligible routeId isEligible s = answer
  unfold selectEligible at hanswer
  split at hanswer
  · rename_i route schedule tierCursors _ _ _
    subst hanswer
    have hprobe : ∀ i s, I s → Ended I R (probeSlot route isEligible i s) := by
      intro i s hs
      unfold probeSlot
      cases route.candidates[i]? with
      | none => exact hs
      | some candidate =>
        have hcandidate := h candidate s hs
        simp only
        generalize isEligible candidate s = answer at hcandidate ⊢
        rcases answer with ⟨_ | _, s'⟩ <;> exact hcandidate
    have hscan := scan_ends hprobe (order (·.slotIndexes) (scannedTiers schedule) tierCursors) hs
    rw [← scanTiers_eq_scan] at hscan
    simp only
    generalize scanTiers _ (probeSlot route isEligible) (scannedTiers schedule) tierCursors s =
      answer
      at hscan ⊢
    rcases answer with ⟨_ | _ | _, _, s'⟩ <;> exact hscan
  · subst hanswer
    exact hs

theorem scannedTiers_eq
    (h : Compiled route schedule) : scannedTiers schedule = schedule.priorityTiers :=
  List.takeWhile_eq_self_iff.mpr fun tier htier => by simpa using h.occupied tier htier

def RouteCandidateScheduler.select (scheduler : RouteCandidateScheduler snapshot)
    (routeId : RouteId) : Option SnapshotRouteCandidate × RouteCandidateScheduler snapshot :=
  let (candidate, scheduler', _) := scheduler.selectEligible routeId (fun _ s => (true, s)) ()
  (candidate, scheduler')

end CpaGateway.Router.RouteScheduler
