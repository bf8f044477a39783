import CpaGateway.Router.RouteSchedule
import CpaGateway.Upstream.CredentialPool

/-! # The weighted slots of pools and routes

The pool of an Endpoint and the schedule of a route compile the slots of a tier with the same loops.
The models compute on integers. What the loops hold in machine words fits (`fits_running`), so no
checked operation of the pool fails and no plain one of the route wraps. -/

namespace CpaGateway.Router.WeightedSlots

open Upstream CredentialPool Schedule Lib Lib.Fallible Lib.SmoothWeighted Tiers

/-- A value that an `i64` holds. -/
def Fits (n : ℤ) : Prop := -2 ^ 63 ≤ n ∧ n < 2 ^ 63

section Running

variable {weights : List ℤ} (hpos : ∀ w ∈ weights, 0 < w) (hlimit : weights.sum ≤ 1024)

include hpos hlimit

theorem fits_running {k : ℕ} (hk : k ≤ weights.sum.toNat) {x : ℤ}
    (hx : x ∈ running weights k ++ raise (running weights k) weights) : Fits x := by
  have hbalanced := balanced_running hpos hk
  have hlength := List.card_nsmul_le_sum weights 1 hpos
  rw [nsmul_eq_mul] at hlength
  have hproduct : (weights.length : ℤ) * weights.sum ≤ 1024 * 1024 :=
    mul_le_mul (by omega) hlimit (by omega) (by omega)
  have hrange : ∀ c ∈ running weights k, -1024 < c ∧ c ≤ 1024 * 1024 := by
    intro c hc
    have := hbalanced.lt_of_mem hc
    have := hbalanced.le_of_mem (by omega) hc
    omega
  rw [Fits]
  rcases List.mem_append.mp hx with hx | hx
  · have := hrange x hx
    omega
  · rw [raise, ← List.map_uncurry_zip_eq_zipWith, List.mem_map] at hx
    obtain ⟨⟨c, w⟩, hpair, rfl⟩ := hx
    obtain ⟨hc, hw⟩ := List.of_mem_zip hpair
    have hle := List.single_le_sum (fun w hw => (hpos w hw).le) _ hw
    have := hpos w hw
    have := hrange c hc
    simp only [Function.uncurry]
    omega

end Running

theorem length_weightedSlots {α : Type} {weight : α → ℤ} {entries : List (α × ℕ)}
    (hpos : ∀ entry ∈ entries, 0 < weight entry.1) :
    (weightedSlots weight entries).length = (entries.map (weight ·.1)).sum.toNat := by
  rw [weightedSlots, List.length_filterMap_eq_countP, List.countP_eq_length.mpr, slots,
    length_rounds]
  intro position hposition
  have hsum : 0 < (entries.map (weight ·.1)).sum := by
    have := List.length_pos_of_mem hposition
    rw [slots, length_rounds] at this
    omega
  simpa using (mem_slots (List.forall_mem_map.mpr hpos) hsum).mp hposition

/-- **Both compilations are exact.** A tier of more than 1024 slots is refused. Any other gets one
slot for each unit of weight, the same from both, and the running weights balance and fit
throughout. -/
theorem smoothWeightedSlots_exact (credentials : List (CredentialSlot × ℕ))
    (candidates : List Entry) (hsame : candidates.map (fun entry => (entry.1.weight, entry.2)) =
      credentials.map fun entry => ((entry.1.weight : ℤ), entry.2))
    (hpos : ∀ entry ∈ credentials, 0 < entry.1.weight) :
    let total := (credentials.map (·.1.weight)).sum
    let weights := credentials.map fun entry => (entry.1.weight : ℤ)
    (1024 < total →
      smoothWeightedSlots credentials = .error .credentialScheduleTooLarge ∧
      Schedule.smoothWeightedSlots candidates = .error .routeScheduleTooLarge) ∧
    (total ≤ 1024 → ∃ positions : List ℕ,
      let output := positions.filterMap fun position => (credentials[position]?).map (·.2)
      smoothWeightedSlots credentials = .ok output ∧
      Schedule.smoothWeightedSlots candidates = .ok output ∧
      output.length = total ∧
      (∀ j (h : j < credentials.length), positions.count j = (credentials.get ⟨j, h⟩).1.weight) ∧
      ∀ k ≤ total, (running weights k).sum = 0 ∧ (∀ c ∈ running weights k, -(total : ℤ) < c) ∧
        ∀ c ∈ running weights k ++ raise (running weights k) weights, Fits c) := by
  intro total weights
  have hsum : weights.sum = total := by
    rw [Nat.cast_list_sum, List.map_map]
    rfl
  have hweights : candidates.map (·.1.weight) = weights := by
    simpa [Function.comp_def] using congrArg (List.map Prod.fst) hsame
  have hindexes : candidates.map (·.2) = credentials.map (·.2) := by
    simpa [Function.comp_def] using congrArg (List.map Prod.snd) hsame
  have hpool : smoothWeightedSlots credentials = do
      ensure (decide (total ≤ 1024)) .credentialScheduleTooLarge
      return weightedSlots (fun credential => (credential.weight : ℤ)) credentials := rfl
  have hroute : Schedule.smoothWeightedSlots candidates = do
      ensure (decide (total ≤ 1024)) .routeScheduleTooLarge
      return weightedSlots (fun credential => (credential.weight : ℤ)) credentials := by
    simp only [Schedule.smoothWeightedSlots, maxScheduleSlotsPerPriorityTier, weightedSlots,
      ← List.getElem?_map, hweights, hsum, hindexes, Nat.cast_le, weights]
  have hpos' : ∀ w ∈ weights, 0 < w :=
    List.forall_mem_map.mpr fun entry hentry => Int.natCast_pos.mpr (hpos entry hentry)
  constructor
  · intro hlarge
    rw [hpool, hroute, decide_eq_false (by omega)]
    exact ⟨rfl, rfl⟩
  · intro hlimit
    rw [hpool, hroute, decide_eq_true hlimit]
    refine ⟨slots weights, rfl, rfl, ?_, fun j hj => ?_, fun k hk => ?_⟩
    · have hlength : (weightedSlots (fun credential : CredentialSlot => (credential.weight : ℤ))
          credentials).length = weights.sum.toNat :=
        length_weightedSlots fun entry hentry => Int.natCast_pos.mpr (hpos entry hentry)
      exact hlength.trans (congrArg Int.toNat hsum)
    · have hj' : j < weights.length := hj.trans_eq (List.length_map _).symm
      have hne : weights ≠ [] := List.ne_nil_of_length_pos (by omega)
      have hcount := count_slots hpos' (List.sum_pos _ hpos' hne) hj'
      rw [List.getD_eq_getElem _ _ hj'] at hcount
      simpa [weights] using hcount
    · have hbalanced := balanced_running hpos' (k := k) (by omega)
      rw [← hsum]
      exact ⟨hbalanced.sum, fun c hc => hbalanced.lt_of_mem hc, fun x hx =>
        fits_running hpos' (by omega) (by omega) hx⟩

/-- Two Credentials of the weights 2 and 1, at the indexes 7 and 8. -/
def sampleCredentials : List (CredentialSlot × ℕ) :=
  [(⟨.lit "a", "key", 0, 0, 2, 1, none, 0⟩, 7), (⟨.lit "b", "key", 0, 0, 1, 1, none, 0⟩, 8)]

/-- Two candidates of the same weights at the same indexes. -/
def sampleCandidates : List Entry :=
  [(⟨.lit "a", .lit "x", .lit "u", "m", 0, 2, .allowedUnlisted, 1⟩, 7),
    (⟨.lit "b", .lit "y", .lit "u", "m", 0, 1, .allowedUnlisted, 1⟩, 8)]

/-- The slots of the weight 1 stand between those of the weight 2. -/
theorem smoothWeightedSlots_exact_two :
    smoothWeightedSlots sampleCredentials = .ok [7, 8, 7] ∧
    Schedule.smoothWeightedSlots sampleCandidates = .ok [7, 8, 7] ∧
    ∃ positions : List ℕ, positions.count 0 = 2 ∧ positions.count 1 = 1 ∧
      positions.filterMap (fun position => (sampleCredentials[position]?).map (·.2)) =
        [7, 8, 7] := by
  obtain ⟨positions, hpool, hroute, -, hcount, -⟩ := (smoothWeightedSlots_exact sampleCredentials
    sampleCandidates rfl (by decide)).2 (by decide)
  have hslots : smoothWeightedSlots sampleCredentials = .ok [7, 8, 7] := by decide +kernel
  rw [hslots, Except.ok.injEq] at hpool
  rw [← hpool] at hroute
  exact ⟨hslots, hroute, positions, hcount 0 (by decide), hcount 1 (by decide), hpool.symm⟩

end CpaGateway.Router.WeightedSlots
