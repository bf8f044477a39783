import CpaGateway.Lib.Effect

/-! # Calls in turn

`collect_invariant` is the rule for a method that is called for each element of a list in turn: what
calls that succeeded have left behind. -/

namespace CpaGateway.Lib.History

open Lib.Effect

variable {α σ ε β : Type} {f : α → Method σ ε (List β)} {s s' : σ} {out : List β}

/-- **The rule of successful calls**: an invariant of the elements so far, their results and the
object that each successful call keeps holds in the end. -/
theorem collect_invariant {I : List α → List β → σ → Prop}
    (hstep : ∀ {p out s x r s'}, I p out s → (f x).call s = (.ok r, s') →
      I (p ++ [x]) (out ++ r) s') {l : List α} (hi : I [] [] s)
    (h : (Method.collect f l).call s = (.ok out, s')) : I l out s' := by
  suffices hall : ∀ p before, I p before s → I (p ++ l) (before ++ out) s' from hall [] [] hi
  clear hi
  induction l generalizing s out with
  | nil =>
    intro p before hi
    obtain ⟨rfl, rfl⟩ := h
    simpa using hi
  | cons x l ih =>
    intro p before hi
    simp only [Method.collect, call_ok] at h
    obtain ⟨first, s₁, hfirst, rest, s₂, hrest, rfl, rfl⟩ := h
    have hend := ih hrest (p ++ [x]) (before ++ first) (hstep hi hfirst)
    simpa using hend

theorem collect_snoc (l : List α) (x : α) : Method.collect f (l ++ [x]) = (do
    let before ← Method.collect f l
    let last ← f x
    return before ++ last) := by
  induction l with
  | nil => simp [Method.collect]
  | cons y l ih =>
    simp only [List.cons_append, Method.collect, ih, bind_assoc, pure_bind, List.append_assoc]

end CpaGateway.Lib.History
