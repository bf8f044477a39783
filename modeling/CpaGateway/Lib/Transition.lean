import Mathlib.Data.List.Basic

/-! # Runs of a labelled transition system

A run strings steps together and collects their labels. Two rules carry the invariants of this
project: `Run.invariant`, for a property of the trace and the state that every step extends, and
`Run.labels`, for a property of states that every step keeps and that restricts the labels of all
later steps. -/

namespace CpaGateway.Lib.Transition

variable {σ ℓ : Type*} {step : σ → ℓ → σ → Prop}

/-- The system goes from one state to another and shows the given labels, in order. -/
inductive Run (step : σ → ℓ → σ → Prop) : σ → List ℓ → σ → Prop
  | nil (s : σ) : Run step s [] s
  | cons {s t u : σ} {l : ℓ} {tr : List ℓ} (h : step s l t) (hr : Run step t tr u) :
      Run step s (l :: tr) u

variable {a : List ℓ} {s u : σ}

theorem Run.append {b : List ℓ} {t : σ} (h : Run step s a t) (hb : Run step t b u) :
    Run step s (a ++ b) u := by
  induction h with
  | nil s => exact hb
  | cons h _ ih => exact .cons h (ih hb)

theorem Run.snoc {l : ℓ} {t : σ} (h : Run step s a t) (hl : step t l u) :
    Run step s (a ++ [l]) u := h.append (.cons hl (.nil u))

theorem Run.split : ∀ {a b : List ℓ} {s u : σ}, Run step s (a ++ b) u →
    ∃ t, Run step s a t ∧ Run step t b u
  | [], _, s, _, h => ⟨s, .nil s, h⟩
  | _ :: a, _, _, _, .cons h hr => by
    obtain ⟨t, ha, hb⟩ := Run.split hr
    exact ⟨t, .cons h ha, hb⟩

theorem Run.at_label {b : List ℓ} {l : ℓ} (h : Run step s (a ++ l :: b) u) :
    ∃ t t', Run step s a t ∧ step t l t' ∧ Run step t' b u := by
  obtain ⟨t, ha, hb⟩ := h.split
  cases hb with
  | cons hl hb => exact ⟨t, _, ha, hl, hb⟩

/-- **The invariant rule**: what holds of the empty trace and every step of a run extends, holds of
the run. -/
theorem Run.invariant {I : List ℓ → σ → Prop} (h : Run step s a u) (hi : I [] s)
    (hstep : ∀ {tr t l t'}, Run step s tr t → I tr t → step t l t' → I (tr ++ [l]) t') : I a u := by
  suffices hall : ∀ {b t}, Run step t b u → ∀ tr, Run step s tr t → I tr t → I (tr ++ b) u from
    hall h [] (.nil s) hi
  clear h
  intro b t hb
  induction hb with
  | nil => simp
  | cons hl _ ih =>
    intro tr hr hi
    simpa using ih (tr ++ [_]) (hr.snoc hl) (hstep hr hi hl)

/-- **The state rule**: what every step keeps holds after every run. -/
theorem Run.keeps {P : σ → Prop} (h : Run step s a u) (hstep : ∀ s l t, P s → step s l t → P t)
    (hs : P s) : P u := by
  induction h with
  | nil => exact hs
  | cons hl _ ih => exact ih (hstep _ _ _ hs hl)

/-- **Simulation**: if each step is one of another system, so is each run. -/
theorem Run.simulate {σ' ℓ' : Type*} {step' : σ' → ℓ' → σ' → Prop} {f : σ → σ'} {R : ℓ → ℓ' → Prop}
    (hstep : ∀ s l t, step s l t → ∃ l', step' (f s) l' (f t) ∧ R l l') :
    ∀ {a : List ℓ} {s u : σ}, Run step s a u →
      ∃ a', Run step' (f s) a' (f u) ∧ ∀ l ∈ a, ∃ l' ∈ a', R l l'
  | [], s, _, .nil _ => ⟨[], .nil _, by simp⟩
  | l :: a, _, _, .cons h hr => by
    obtain ⟨l', h', hl⟩ := hstep _ l _ h
    obtain ⟨a', hr', ha⟩ := Run.simulate hstep hr
    refine ⟨l' :: a', .cons h' hr', fun x hx => ?_⟩
    rcases List.mem_cons.mp hx with rfl | hx
    · exact ⟨l', .head _, hl⟩
    · obtain ⟨y, hy, hxy⟩ := ha x hx
      exact ⟨y, .tail _ hy, hxy⟩

/-- **The label rule**: a property that steps keep restricts every later label. -/
theorem Run.labels {P : σ → Prop} {Q : ℓ → Prop} (hstep : ∀ s l t, P s → step s l t → P t ∧ Q l) :
    ∀ {b : List ℓ} {s u : σ}, P s → Run step s b u → P u ∧ ∀ l ∈ b, Q l
  | [], _, _, hp, .nil _ => ⟨hp, by simp⟩
  | _ :: _, _, _, hp, .cons h hr => by
    obtain ⟨hp', hq⟩ := hstep _ _ _ hp h
    obtain ⟨hu, hall⟩ := Run.labels hstep hp' hr
    exact ⟨hu, by simpa using ⟨hq, hall⟩⟩

end CpaGateway.Lib.Transition
