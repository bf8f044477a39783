import CpaGateway.Router.RouteScheduler
import CpaGateway.Upstream.CredentialPool
import Mathlib.Data.UInt

/-! # What selections find from any cursor

A scan adds offsets to a cursor that wraps at the end of the machine word. Where the number of slots
does not divide the size of the word, a scan that wraps visits some slots twice and others not at
all: `Reaches` says which, by the cursor and the number of slots alone. -/

namespace CpaGateway.Router.Selection

open Lib.Rotation Schedule Snapshot RouteScheduler Upstream.CredentialPool EndpointCredentialPool

/-- A search of the tiers for an entry that is `ok` returns `answer`. It is an entry of the first
tier that has one iff one of these stands at a position that is reached from the cursor. If no
cursor wraps within its tier, or the number of slots divides the size of the word, it always is. -/
def Answers {τ ε : Type} (slots : τ → List ℕ) (tiers : List τ) (cursors : List UInt64)
    (entries : List ε) (ok : ε → Bool) (answer : Option ε) : Prop :=
  let eligible := fun i => (entries[i]?).any ok
  let found := (order slots tiers cursors).find? eligible
  answer = found.bind (entries[·]?) ∧
    (Right slots eligible tiers found ↔ ¬ Misses slots eligible tiers cursors) ∧
    ((∀ p ∈ tiers.zip cursors, Covers p.2 (slots p.1).length) → Right slots eligible tiers found)

theorem answers_find {τ ε : Type} {slots : τ → List ℕ} {tiers : List τ} {cursors : List UInt64}
    {entries : List ε} {ok : ε → Bool} {answer : Option ε} (hlen : cursors.length = tiers.length)
    (hapart : tiers.Pairwise fun t t' => ∀ i ∈ slots t, i ∉ slots t')
    (h : answer = ((order slots tiers cursors).find? fun i => (entries[i]?).any ok).bind
      (entries[·]?)) : Answers slots tiers cursors entries ok answer :=
  have hright := right_find_order hlen hapart
  ⟨h, hright, fun hcovers => hright.mpr (not_misses hcovers)⟩

theorem apart_of_ascending {τ ε : Type} {slots : τ → List ℕ} {tiers : List τ} {entries : List ε}
    {tierPriority : τ → ℤ} {priority : ε → ℤ} (h : tiers.Pairwise (tierPriority · < tierPriority ·))
    (hslots : ∀ t ∈ tiers, ∀ i ∈ slots t, ∃ e, entries[i]? = some e ∧ priority e = tierPriority t) :
    tiers.Pairwise fun t t' => ∀ i ∈ slots t, i ∉ slots t' := by
  refine h.imp_of_mem fun ht ht' hlt i hi hi' => ?_
  obtain ⟨e, he, hp⟩ := hslots _ ht i hi
  obtain ⟨e', he', hp'⟩ := hslots _ ht' i hi'
  cases he.symm.trans he'
  omega

/-- **When a selection is right.** The candidates of a route, the leases of a pool and its explained
choice are searched in the same way, so each answers rightly iff its cursors reach an eligible slot.
-/
theorem selection_right_iff (pool : EndpointCredentialPool) :
    (∀ (snapshot : RouteSnapshot) (scheduler : RouteCandidateScheduler snapshot) routeId
      route schedule
      cursors (isEligible : SnapshotRouteCandidate → Bool), snapshot.route routeId = some route →
      snapshot.routeSchedule routeId = some schedule → scheduler.cursors[routeId]? = some cursors →
      Answers (·.slotIndexes) schedule.priorityTiers cursors route.candidates isEligible
        (scheduler.selectEligible routeId (fun candidate s => (isEligible candidate, s)) ()).1) ∧
    ∀ (entries : List EndpointCredentialInput) credentials,
      build entries = .ok (credentials, pool.priorityTiers) →
      (∀ isEligible, ∃ credential, (pool.tryLeaseSlots isEligible).1 = credential.map (·.lease) ∧
        Answers (·.slotIndexes) pool.priorityTiers pool.cursors pool.credentials
          (fun credential => isEligible credential && credential.hasCapacity) credential) ∧
      ∀ start isEligible, Answers (·.slotIndexes) pool.priorityTiers
        (pool.priorityTiers.map fun _ => start) pool.credentials
        (fun credential => isEligible credential.credentialId && credential.hasCapacity)
        (pool.peekEligibleFrom start isEligible) := by
  constructor
  · intro snapshot scheduler routeId route schedule cursors isEligible hroute hschedule hcursors
    obtain ⟨-, -, _, hschedule', hcompiled⟩ := snapshot.wellFormed.scheduled _ _ hroute
    cases hschedule.symm.trans hschedule'
    obtain ⟨_, hcursors', hlen⟩ := scheduler.aligned _ _ hschedule
    cases hcursors.symm.trans hcursors'
    have hslots := fun tier htier i hi => (hcompiled.slots tier htier i).mp hi
    have hscan := @scan_first _ _ _ (probeSlot route fun candidate s => (isEligible candidate, s)) _
      (route.candidates[·]?) isEligible id ()
        (order (·.slotIndexes) schedule.priorityTiers cursors) ?_
    · rw [Option.map_id, List.find?_filterMap, ← scanTiers_eq_scan] at hscan
      rw [(RouteCandidateScheduler.selectEligible_eq _ () hroute hschedule hcursors).1,
        scannedTiers_eq hcompiled]
      exact answers_find hlen (apart_of_ascending hcompiled.ascending hslots) hscan.1
    · intro i hi
      obtain ⟨tier, htier, hi⟩ := of_mem_order hi
      obtain ⟨candidate, hget, -⟩ := hslots tier htier i hi
      refine ⟨candidate, hget, ?_⟩
      simp only [probeSlot, hget]
      cases isEligible candidate <;> rfl
  · intro entries credentials hbuild
    have hgraded := graded_of_build hbuild
    have hapart := apart_of_ascending hgraded.1 hgraded.2
    refine ⟨fun isEligible => ⟨_, tryLeaseSlots_fst, answers_find pool.aligned hapart
      (List.find?_filterMap ..)⟩, fun start isEligible => ?_⟩
    rw [peekEligibleFrom_eq]
    exact answers_find (List.length_map _) hapart (List.find?_filterMap ..)

/-- Three Credentials of one priority. -/
def sampleInputs : List EndpointCredentialInput :=
  [⟨.lit "a", "key", 0, 0, 1, 1, none⟩, ⟨.lit "b", "key", 0, 0, 1, 1, none⟩,
    ⟨.lit "c", "key", 0, 0, 1, 1, none⟩]

/-- The third of them, searched from any cursor. -/
theorem selection_right_iff_sample :
    ∃ pool, tryNew ⟨"endpoint", by decide⟩ sampleInputs = .ok pool ∧
    ∀ start, Answers (·.slotIndexes) pool.priorityTiers (pool.priorityTiers.map fun _ => start)
      pool.credentials
      (fun credential => decide (credential.credentialId.asStr = "c") && credential.hasCapacity)
      (pool.peekEligibleFrom start (·.asStr = "c")) :=
  ⟨_, rfl, fun start =>
    ((selection_right_iff _).2 sampleInputs _ rfl).2 start (·.asStr = "c")⟩

/-- From the last cursor the slots are visited as the first, the first again and the second. -/
theorem third_slot_missed : ∃ pool, tryNew ⟨"endpoint", by decide⟩ sampleInputs = .ok pool ∧
    (pool.peekEligibleFrom 0 (·.asStr = "c")).isSome ∧
    pool.peekEligibleFrom (2 ^ 64 - 1) (·.asStr = "c") = none :=
  ⟨_, rfl, by decide +kernel, by decide +kernel⟩

end CpaGateway.Router.Selection
