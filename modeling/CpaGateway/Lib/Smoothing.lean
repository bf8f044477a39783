import Mathlib.Algebra.Group.Nat.Defs
import Mathlib.Data.List.Induction

/-! # Weighted averages in whole numbers

An average starts at its first sample. A later sample counts with the weight `α` of `scale`, and the
result is rounded, halves upwards. The average stays among its samples. A sample that is repeated
draws it to within `d` iff a distance of `d + 1` is worth more than half a unit: `scale / 2 < (d +
1) * α`. -/

namespace CpaGateway.Lib.Smoothing

/-- The average after a further sample. -/
def blend (scale α p s : ℕ) : ℕ := (p * (scale - α) + s * α + scale / 2) / scale

/-- The average of a sequence of samples. -/
def average (scale α : ℕ) (samples : List ℕ) : Option ℕ :=
  samples.foldl (fun p s => some (p.elim s (blend scale α · s))) none

variable {scale α p s a d lo hi : ℕ} {samples : List ℕ}

theorem average_snoc : average scale α (samples ++ [s]) =
    some ((average scale α samples).elim s (blend scale α · s)) := by
  rw [average, List.foldl_append]
  rfl

section Weight

variable (hscale : 0 < scale) (hα : α ≤ scale)

include hα in
theorem weigh (x : ℕ) : x * (scale - α) + x * α = x * scale := by
  rw [← Nat.mul_add, Nat.sub_add_cancel hα]

include hscale hα

theorem le_blend (hp : lo ≤ p) (hs : lo ≤ s) : lo ≤ blend scale α p s := by
  have hlo := weigh hα lo
  have hp' := Nat.mul_le_mul_right (scale - α) hp
  have hs' := Nat.mul_le_mul_right α hs
  unfold blend
  rw [Nat.le_div_iff_mul_le hscale]
  omega

theorem blend_le (hp : p ≤ hi) (hs : s ≤ hi) : blend scale α p s ≤ hi := by
  have hhi := weigh hα hi
  have hp' := Nat.mul_le_mul_right (scale - α) hp
  have hs' := Nat.mul_le_mul_right α hs
  unfold blend
  rw [← Nat.lt_succ_iff, Nat.div_lt_iff_lt_mul hscale, Nat.succ_mul]
  omega

theorem blend_lt (h : scale / 2 < (p - s) * α) : blend scale α p s < p := by
  have hp := weigh hα p
  unfold blend
  rw [Nat.div_lt_iff_lt_mul hscale]
  rw [Nat.sub_mul] at h
  omega

theorem lt_blend (h : scale / 2 < (s - p) * α) : p < blend scale α p s := by
  have hp := weigh hα p
  unfold blend
  rw [← Nat.succ_le_iff, Nat.le_div_iff_mul_le hscale, Nat.succ_mul]
  rw [Nat.sub_mul] at h
  omega

/-- Rounding holds an average at a distance that is worth at most half a unit. -/
theorem add_le_blend (hd : d * α ≤ scale / 2) (hp : s + d ≤ p) : s + d ≤ blend scale α p s := by
  have hsd := weigh hα (s + d)
  have hp' := Nat.mul_le_mul_right (scale - α) hp
  unfold blend
  rw [Nat.le_div_iff_mul_le hscale]
  rw [Nat.add_mul s d α] at hsd
  omega

theorem average_between (h : average scale α samples = some a) :
    (∃ lo ∈ samples, lo ≤ a) ∧ ∃ hi ∈ samples, a ≤ hi := by
  induction samples using List.reverseRecOn generalizing a with
  | nil => cases h
  | append_singleton l s ih =>
    cases hl : average scale α l with
    | none =>
      rw [average_snoc, hl] at h
      cases h
      exact ⟨⟨s, by simp⟩, s, by simp⟩
    | some p =>
      obtain ⟨⟨lo, hlo, hle⟩, hi, hhi, hge⟩ := ih hl
      rw [average_snoc, hl] at h
      cases h
      rcases Nat.le_total p s with hps | hps
      · exact ⟨⟨lo, by simp [hlo], le_blend hscale hα hle (by omega)⟩, s, by simp,
          blend_le hscale hα hps (Nat.le_refl s)⟩
      · exact ⟨⟨s, by simp, le_blend hscale hα hps (Nat.le_refl s)⟩, hi, by simp [hhi],
          blend_le hscale hα hge (by omega)⟩

/-- A sample whose distance is worth more than half a unit draws the average to it when repeated. -/
theorem average_settles (hd : scale / 2 < (d + 1) * α) (h : average scale α samples = some a)
    (s : ℕ) :
    ∃ n b, average scale α (samples ++ List.replicate n s) = some b ∧ b ≤ s + d ∧ s ≤ b + d := by
  -- every repetition brings an average that is further away closer, from the side it is on
  induction hk : (a - s) + (s - a) using Nat.strongRecOn generalizing samples a with
  | ind k ih =>
    by_cases hnear : a ≤ s + d ∧ s ≤ a + d
    · exact ⟨0, a, by simpa using h, hnear⟩
    have hnext : average scale α (samples ++ [s]) = some (blend scale α a s) := by
      rw [average_snoc, h]
      rfl
    have hcloser : (blend scale α a s - s) + (s - blend scale α a s) < k := by
      rcases Nat.le_total a s with has | has
      · have hfar := Nat.mul_le_mul_right α (show d + 1 ≤ s - a by omega)
        have := lt_blend hscale hα (Nat.lt_of_lt_of_le hd hfar)
        have := blend_le hscale hα has (Nat.le_refl s)
        omega
      · have hfar := Nat.mul_le_mul_right α (show d + 1 ≤ a - s by omega)
        have := blend_lt hscale hα (Nat.lt_of_lt_of_le hd hfar)
        have := le_blend hscale hα has (Nat.le_refl s)
        omega
    obtain ⟨n, b, hb⟩ := ih _ hcloser hnext rfl
    exact ⟨n + 1, b, by simpa [List.replicate_succ] using hb⟩

theorem average_held (hd : d * α ≤ scale / 2) (h : average scale α samples = some a)
    (ha : s + d ≤ a) (n : ℕ) : ∃ b, average scale α (samples ++ List.replicate n s) = some b ∧
      s + d ≤ b := by
  induction n with
  | zero => exact ⟨a, by simpa using h, ha⟩
  | succ n ih =>
    obtain ⟨b, hb, hle⟩ := ih
    refine ⟨blend scale α b s, ?_, add_le_blend hscale hα hd hle⟩
    rw [List.replicate_succ', ← List.append_assoc, average_snoc, hb]
    rfl

end Weight

end CpaGateway.Lib.Smoothing
