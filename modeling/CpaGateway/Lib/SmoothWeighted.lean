import Mathlib.Algebra.BigOperators.Fin
import Mathlib.Algebra.Order.BigOperators.Group.Finset
import Mathlib.Data.List.GetD
import Mathlib.Tactic.Linarith

/-! # Smooth weighted rotation

Every position carries a counter. A round raises each counter by the weight of its position, selects
the first position with the greatest counter and takes the total weight `W` off it. After `k` rounds
the counter of a position of weight `w` selected `s` times is `k * w - W * s`, the counters sum to
zero, and none of them is `-W` or less, because only a positive counter is ever selected. One cycle
of `W` rounds therefore selects no position more often than its weight, so every position exactly
that often (`count_slots`). -/

namespace CpaGateway.Lib.SmoothWeighted

/-- The first position with the greatest counter. -/
def selected (counters : List ℤ) : ℕ :=
  (List.range' 1 (counters.length - 1)).foldl
    (fun best position => if counters.getD best 0 < counters.getD position 0 then position
      else best) 0

def raise (counters weights : List ℤ) : List ℤ := List.zipWith (· + ·) counters weights

def round (weights : List ℤ) (total : ℤ) (counters : List ℤ) : List ℤ :=
  (raise counters weights).modify (selected (raise counters weights)) (· - total)

/-- The positions selected in the first `k` rounds. -/
def rounds (weights : List ℤ) (total : ℤ) : ℕ → List ℤ → List ℕ
  | 0, _ => []
  | k + 1, counters =>
    selected (raise counters weights) :: rounds weights total k (round weights total counters)

/-- One cycle from counters at zero. -/
def slots (weights : List ℤ) : List ℕ :=
  rounds weights weights.sum weights.sum.toNat (List.replicate weights.length 0)

/-! ### The selected position -/

theorem foldl_best (value : ℕ → ℤ) (k : ℕ) :
    let best := (List.range' 1 k).foldl
      (fun best position => if value best < value position then position else best) 0
    best < k + 1 ∧ ∀ j < k + 1, value j ≤ value best := by
  induction k with
  | zero => simp
  | succ k ih =>
    obtain ⟨hlt, hmax⟩ := ih
    simp only [List.range'_1_concat, List.foldl_concat]
    have hlast : ∀ j, j < k + 1 + 1 → j < k + 1 ∨ j = 1 + k := by
      intro j hj
      omega
    split_ifs with h
    · refine ⟨by omega, fun j hj => ?_⟩
      rcases hlast j hj with hj | rfl
      · exact (hmax j hj).trans h.le
      · exact le_rfl
    · refine ⟨by omega, fun j hj => ?_⟩
      rcases hlast j hj with hj | rfl
      · exact hmax j hj
      · exact not_lt.mp h

variable {counters weights : List ℤ} {total : ℤ}

theorem selected_spec (h : counters ≠ []) : selected counters < counters.length ∧
    ∀ j < counters.length, counters.getD j 0 ≤ counters.getD (selected counters) 0 := by
  have hbest := foldl_best (fun i => counters.getD i 0) (counters.length - 1)
  rwa [Nat.sub_add_cancel (List.length_pos_iff.mpr h)] at hbest

theorem selected_pos (h : 0 < counters.sum) : 0 < counters.getD (selected counters) 0 := by
  have hne : counters ≠ [] := by
    rintro rfl
    exact absurd h (by simp)
  by_contra hle
  refine absurd h (not_lt.mpr ?_)
  rw [← nsmul_zero counters.length]
  refine List.sum_le_card_nsmul _ _ fun x hx => ?_
  obtain ⟨j, hj, rfl⟩ := List.mem_iff_getElem.mp hx
  have := (selected_spec hne).2 j hj
  rw [List.getD_eq_getElem _ _ hj] at this
  omega

/-! ### One round -/

theorem length_raise (h : counters.length = weights.length) :
    (raise counters weights).length = weights.length := by
  rw [raise, List.length_zipWith, h, min_self]

theorem getD_raise (h : counters.length = weights.length) (j : ℕ) :
    (raise counters weights).getD j 0 = counters.getD j 0 + weights.getD j 0 := by
  simp only [raise, List.getD_eq_getElem?_getD, List.getElem?_zipWith]
  rcases lt_or_ge j weights.length with hj | hj
  · rw [List.getElem?_eq_getElem (h ▸ hj), List.getElem?_eq_getElem hj]
    rfl
  · rw [List.getElem?_eq_none (h ▸ hj), List.getElem?_eq_none hj]
    rfl

theorem sum_raise (h : counters.length = weights.length) :
    (raise counters weights).sum = counters.sum + weights.sum := by
  induction counters generalizing weights with
  | nil =>
    obtain rfl := List.length_eq_zero_iff.mp h.symm
    rfl
  | cons c counters ih =>
    obtain ⟨w, weights, rfl⟩ := List.exists_cons_of_length_eq_add_one h.symm
    have hsum := ih (Nat.succ.inj h)
    simp only [raise, List.zipWith_cons_cons, List.sum_cons] at hsum ⊢
    omega

theorem sum_modify_sub {i : ℕ} (hi : i < counters.length) :
    (counters.modify i (· - total)).sum = counters.sum - total := by
  induction counters generalizing i with
  | nil => simp at hi
  | cons c counters ih =>
    cases i with
    | zero =>
      simp only [List.modify_zero_cons, List.sum_cons]
      omega
    | succ i =>
      have := ih (Nat.lt_of_succ_lt_succ hi)
      simp only [List.modify_succ_cons, List.sum_cons]
      omega

/-- Counters between two rounds of the rotation with these weights. -/
structure Balanced (weights counters : List ℤ) : Prop where
  length : counters.length = weights.length
  sum : counters.sum = 0
  above : ∀ j < weights.length, -weights.sum < counters.getD j 0

theorem balanced_zero (h : 0 < weights.sum) :
    Balanced weights (List.replicate weights.length 0) where
  length := List.length_replicate
  sum := by simp
  above j hj := by
    rw [List.getD_replicate _ hj]
    omega

theorem Balanced.lt_of_mem (h : Balanced weights counters) {c : ℤ} (hc : c ∈ counters) :
    -weights.sum < c := by
  obtain ⟨j, hj, rfl⟩ := List.mem_iff_getElem.mp hc
  have := h.above j (h.length ▸ hj)
  rwa [List.getD_eq_getElem _ _ hj] at this

theorem Balanced.le_of_mem (h : Balanced weights counters) (hsum : 0 ≤ weights.sum) {c : ℤ}
    (hc : c ∈ counters) : c ≤ weights.length * weights.sum := by
  have hothers := List.card_nsmul_le_sum (counters.erase c) (-weights.sum) fun x hx =>
    (h.lt_of_mem (List.mem_of_mem_erase hx)).le
  have hzero := List.sum_erase hc
  have hcount : ((counters.erase c).length : ℤ) * weights.sum ≤ weights.length * weights.sum := by
    rw [← h.length]
    gcongr
    exact List.length_erase_le
  rw [nsmul_eq_mul] at hothers
  rw [h.sum] at hzero
  linarith

section Round

variable (h : Balanced weights counters) (hpos : ∀ w ∈ weights, 0 < w) (hsum : 0 < weights.sum)

include h hsum

theorem selected_raise_lt : selected (raise counters weights) < weights.length := by
  rw [← length_raise h.length]
  refine (selected_spec fun hnil => ?_).1
  have := sum_raise h.length
  simp [hnil, h.sum] at this
  omega

theorem getD_round (j : ℕ) :
    (round weights weights.sum counters).getD j 0 = counters.getD j 0 + weights.getD j 0 -
      if selected (raise counters weights) = j then weights.sum else 0 := by
  rw [round, List.getD_eq_getElem?_getD, List.getElem?_modify]
  rw [← getD_raise h.length]
  rcases lt_or_ge j weights.length with hj | hj
  · rw [List.getD_eq_getElem _ _ ((length_raise h.length).symm ▸ hj),
      List.getElem?_eq_getElem ((length_raise h.length).symm ▸ hj)]
    split_ifs <;> simp
  · have hsel := selected_raise_lt h hsum
    rw [List.getD_eq_getElem?_getD, List.getElem?_eq_none ((length_raise h.length).symm ▸ hj),
      if_neg (by omega)]
    rfl

include hpos

theorem Balanced.round : Balanced weights (round weights weights.sum counters) := by
  have hlt := selected_raise_lt h hsum
  refine ⟨?_, ?_, fun j hj => ?_⟩
  · rw [SmoothWeighted.round, List.length_modify, length_raise h.length]
  · rw [SmoothWeighted.round, sum_modify_sub (length_raise h.length ▸ hlt),
      sum_raise h.length, h.sum]
    omega
  · rw [getD_round h hsum]
    have hw : 0 < weights.getD j 0 := by
      rw [List.getD_eq_getElem _ _ hj]
      exact hpos _ (List.getElem_mem hj)
    have habove := h.above j hj
    split_ifs with hsel
    · -- the selected counter was positive before the total weight was taken off
      have hsum : 0 < (raise counters weights).sum := by
        rw [sum_raise h.length, h.sum]
        omega
      have := selected_pos hsum
      rw [hsel, getD_raise h.length] at this
      omega
    · omega

end Round

/-! ### A cycle -/

/-- The counters after `k` rounds of a cycle. -/
def running (weights : List ℤ) (k : ℕ) : List ℤ :=
  (round weights weights.sum)^[k] (List.replicate weights.length 0)

theorem balanced_running (hpos : ∀ w ∈ weights, 0 < w) {k : ℕ} (hk : k ≤ weights.sum.toNat) :
    Balanced weights (running weights k) := by
  induction k with
  | zero =>
    rcases eq_or_ne weights [] with rfl | hne
    · exact ⟨rfl, rfl, fun j hj => absurd hj (Nat.not_lt_zero j)⟩
    · exact balanced_zero (List.sum_pos _ hpos hne)
  | succ k ih =>
    rw [running, Function.iterate_succ_apply']
    exact (ih (by omega)).round hpos (by omega)

@[simp] theorem length_rounds (k : ℕ) (counters : List ℤ) :
    (rounds weights total k counters).length = k := by
  induction k generalizing counters with
  | zero => rfl
  | succ k ih => rw [rounds, List.length_cons, ih]

section Cycle

variable (hpos : ∀ w ∈ weights, 0 < w) (hsum : 0 < weights.sum)

include hpos hsum

variable {j : ℕ}

theorem lt_of_mem_rounds {k : ℕ} (h : Balanced weights counters)
    (hj : j ∈ rounds weights weights.sum k counters) : j < weights.length := by
  induction k generalizing counters with
  | zero => simp [rounds] at hj
  | succ k ih =>
    rcases List.mem_cons.mp hj with rfl | hj
    · exact selected_raise_lt h hsum
    · exact ih (h.round hpos hsum) hj

/-- What is owed to a position never falls to minus one cycle. -/
theorem owed_above {k : ℕ} (h : Balanced weights counters) (hj : j < weights.length) :
    -weights.sum < counters.getD j 0 + k * weights.getD j 0 -
      weights.sum * (rounds weights weights.sum k counters).count j := by
  induction k generalizing counters with
  | zero => simpa [rounds] using h.above j hj
  | succ k ih =>
    have hrest := ih (h.round hpos hsum)
    rw [getD_round h hsum] at hrest
    rw [rounds, List.count_cons]
    push_cast
    by_cases hsel : selected (raise counters weights) = j
    · rw [if_pos hsel] at hrest
      rw [if_pos (by simpa using hsel)]
      linarith
    · rw [if_neg hsel] at hrest
      rw [if_neg (by simpa using hsel)]
      linarith

theorem count_slots_le (hj : j < weights.length) :
    ((slots weights).count j : ℤ) ≤ weights.getD j 0 := by
  have howed := owed_above hpos hsum (k := weights.sum.toNat) (balanced_zero hsum) hj
  rw [List.getD_replicate _ hj, Int.toNat_of_nonneg hsum.le] at howed
  have hlt : weights.sum * ((slots weights).count j : ℤ) <
      weights.sum * (weights.getD j 0 + 1) := by
    rw [slots]
    linarith
  exact Int.lt_add_one_iff.mp (lt_of_mul_lt_mul_left hlt hsum.le)

theorem count_slots (hj : j < weights.length) :
    ((slots weights).count j : ℤ) = weights.getD j 0 := by
  have hmem : ∀ i ∈ slots weights, i < weights.length := fun i hi =>
    lt_of_mem_rounds hpos hsum (balanced_zero hsum) hi
  have hcount : ∑ i ∈ Finset.range weights.length, ((slots weights).count i : ℤ) = weights.sum := by
    have hlen : ∑ i ∈ Finset.range weights.length, (slots weights).count i = weights.sum.toNat := by
      have hlength : (slots weights).length = weights.sum.toNat := length_rounds ..
      rw [← hlength, ← List.sum_toFinset_count_eq_length (slots weights)]
      symm
      apply Finset.sum_subset
      · intro i hi
        exact Finset.mem_range.mpr (hmem i (List.mem_toFinset.mp hi))
      · intro i _ hi
        exact List.count_eq_zero.mpr fun h => hi (List.mem_toFinset.mpr h)
    have := congrArg (Nat.cast : ℕ → ℤ) hlen
    rwa [Nat.cast_sum, Int.toNat_of_nonneg hsum.le] at this
  have hweights : ∑ i ∈ Finset.range weights.length, weights.getD i 0 = weights.sum := by
    rw [← Fin.sum_univ_getElem, Finset.sum_range]
    exact Finset.sum_congr rfl fun i _ => List.getD_eq_getElem _ _ i.isLt
  have hle : ∀ i ∈ Finset.range weights.length,
      ((slots weights).count i : ℤ) ≤ weights.getD i 0 := fun i hi =>
    count_slots_le hpos hsum (Finset.mem_range.mp hi)
  exact (Finset.sum_eq_sum_iff_of_le hle).mp (hcount.trans hweights.symm) j
    (Finset.mem_range.mpr hj)

theorem mem_slots : j ∈ slots weights ↔ j < weights.length := by
  constructor
  · exact lt_of_mem_rounds hpos hsum (balanced_zero hsum)
  · intro hj
    have hcount := count_slots hpos hsum hj
    have hw : 0 < weights.getD j 0 := by
      rw [List.getD_eq_getElem _ _ hj]
      exact hpos _ (List.getElem_mem hj)
    refine List.count_pos_iff.mp ?_
    omega

end Cycle

example : slots [5, 1, 1] = [0, 0, 1, 0, 2, 0, 0] := by decide

end CpaGateway.Lib.SmoothWeighted
