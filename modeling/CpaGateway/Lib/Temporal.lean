import CpaGateway.Lib.Transition

/-! # What has happened on a run

`Since P Q tr` is the past-time operator of temporal logic: some label of the trace satisfied `P`,
and all labels after it satisfied `Q`. Two rules relate it to the state a run ends in.
`Run.of_since`: what a `P` step establishes and `Q` steps keep, holds after `Since P Q`.
`Run.since_of`: a state property that only a `P` step brings about and only `Q` steps leave alone,
holds only after `Since P Q`. -/

namespace CpaGateway.Lib.Temporal

open Lib.Transition

variable {σ ℓ ι ο : Type*}

/-! ### The operator -/

section Since

variable {P P' Q Q' : ℓ → Prop} {tr : List ℓ} {l : ℓ}

/-- A label satisfied `P`, and every later label satisfied `Q`. -/
def Since (P Q : ℓ → Prop) (tr : List ℓ) : Prop :=
  ∃ a l b, tr = a ++ l :: b ∧ P l ∧ ∀ l' ∈ b, Q l'

theorem Since.snoc (h : Since P Q tr) (hl : Q l) : Since P Q (tr ++ [l]) := by
  obtain ⟨a, l', b, rfl, hp, hq⟩ := h
  refine ⟨a, l', b ++ [l], by simp, hp, fun x hx => ?_⟩
  rcases List.mem_append.mp hx with hx | hx
  · exact hq x hx
  · rw [List.mem_singleton.mp hx]
    exact hl

theorem Since.mono (h : Since P Q tr) (hp : ∀ l ∈ tr, P l → P' l) (hq : ∀ l ∈ tr, Q l → Q' l) :
    Since P' Q' tr := by
  obtain ⟨a, l, b, rfl, hl, hb⟩ := h
  exact ⟨a, l, b, rfl, hp l (by simp) hl, fun l' hl' => hq l' (by simp [hl']) (hb l' hl')⟩

end Since

/-! ### The operator and the state -/

section Rules

variable {step : σ → ℓ → σ → Prop} {P Q : ℓ → Prop} {S : σ → Prop} {s u : σ} {tr : List ℓ}

/-- **From the trace to the state.** -/
theorem Run.of_since (hr : Run step s tr u) (h : Since P Q tr)
    (hset : ∀ s l t, step s l t → P l → S t)
    (hkeep : ∀ s l t, step s l t → Q l → S s → S t) : S u := by
  obtain ⟨a, l, b, rfl, hl, hb⟩ := h
  obtain ⟨t, t', -, hstep, hrun⟩ := hr.at_label
  have hstart : S t' := hset t l t' hstep hl
  clear hr hstep
  induction hrun with
  | nil s => exact hstart
  | cons hstep _ ih =>
    exact ih (fun l' hl' => hb l' (List.mem_cons_of_mem _ hl'))
      (hkeep _ _ _ hstep (hb _ List.mem_cons_self) hstart)

/-- **From the state to the trace.** -/
theorem Run.since_of (hr : Run step s tr u) (hs : ¬ S s)
    (hstep : ∀ s l t, step s l t → S t → P l ∨ (S s ∧ Q l)) (hu : S u) : Since P Q tr := by
  refine hr.invariant (I := fun tr s => S s → Since P Q tr) (fun h => absurd h hs)
    (fun _ ih h ht => ?_) hu
  rcases hstep _ _ _ h ht with hp | ⟨hs, hq⟩
  · exact ⟨_, _, [], rfl, hp, by simp⟩
  · exact (ih hs).snoc hq

end Rules

/-! ### Machines -/

section Machine

variable (f : σ → ι → ο × σ)

/-- One step of a machine: the input, with the output it was answered with. -/
def Answers (s : σ) (l : ι × ο) (t : σ) : Prop := f s l.1 = (l.2, t)

/-- The labels of a list of inputs, and the state after them. -/
def play (s : σ) : List ι → List (ι × ο) × σ
  | [] => ([], s)
  | i :: is => ((i, (f s i).1) :: (play (f s i).2 is).1, (play (f s i).2 is).2)

theorem run_play : ∀ (is : List ι) (s : σ), Run (Answers f) s (play f s is).1 (play f s is).2
  | [], s => .nil s
  | i :: is, s => .cons (rfl : f s i = ((f s i).1, (f s i).2)) (run_play is (f s i).2)

end Machine

end CpaGateway.Lib.Temporal
