import CpaGateway.Lib.Temporal
import Mathlib.Data.Nat.Basic

/-! # Numbered tickets

A system issues tickets, each for a slot, and accepts them back while the slot holds them. A ticket
comes to be held only by being issued, with the next number of a sequence that never goes back, and
stops being held when something disturbs its slot: when it is accepted, when another ticket is
issued for the slot, or for reasons of the system's own. It follows that the slot of a ticket that
is held has not been disturbed since the ticket was issued, and that once it was disturbed the
ticket is never held again. -/

namespace CpaGateway.Lib.Tickets

open Lib.Temporal Lib.Transition

variable {σ ℓ τ κ : Type*}

/-- Tickets of a labelled transition system. -/
structure Ticketing (step : σ → ℓ → σ → Prop) (τ κ : Type*) where
  slot : τ → κ
  number : τ → ℕ
  issues : τ → ℓ → Prop
  accepts : τ → ℓ → Prop
  disturbs : κ → ℓ → Prop
  holds : σ → τ → Prop
  next : σ → ℕ
  held_of_accepts : ∀ {s l t x}, step s l t → accepts x l → holds s x
  disturbs_of_issues : ∀ {x l}, issues x l → disturbs (slot x) l
  disturbs_of_accepts : ∀ {x l}, accepts x l → disturbs (slot x) l
  of_holds : ∀ {s l t x}, step s l t → holds t x → issues x l ∨ holds s x ∧ ¬ disturbs (slot x) l
  number_of_issues : ∀ {s l t x}, step s l t → issues x l → number x = next s ∧ next s < next t
  next_le : ∀ {s l t}, step s l t → next s ≤ next t

namespace Ticketing

variable {step : σ → ℓ → σ → Prop} (T : Ticketing step τ κ) {s t u : σ} {l : ℓ} {x : τ}
  {tr a b : List ℓ}

/-- Nothing is held yet. -/
def Fresh (s : σ) : Prop := ∀ x, ¬ T.holds s x

/-- A ticket that is held was issued, and its slot has been left alone since. -/
theorem issued_since (hs : T.Fresh s) (hrun : Run step s tr t) (hx : T.holds t x) :
    Since (T.issues x) (fun l => ¬ T.disturbs (T.slot x) l) tr :=
  Run.since_of hrun (hs x) (fun _ _ _ hstep ht => T.of_holds hstep ht) hx

theorem number_lt_next (hs : T.Fresh s) (hrun : Run step s tr t) (hx : T.holds t x) :
    T.number x < T.next t := by
  refine hrun.keeps (P := fun s => ∀ x, T.holds s x → T.number x < T.next s)
    (fun s l t ih hstep x hx => ?_) (fun x hx => absurd hx (hs x)) x hx
  rcases T.of_holds hstep hx with hissued | ⟨hheld, -⟩
  · obtain ⟨hnumber, hnext⟩ := T.number_of_issues hstep hissued
    exact hnumber ▸ hnext
  · exact lt_of_lt_of_le (ih x hheld) (T.next_le hstep)

/-- A ticket that was once issued and is not held any more. -/
def Dead (s : σ) (x : τ) : Prop := ¬ T.holds s x ∧ T.number x < T.next s

variable {T}

theorem Dead.run (h : T.Dead s x) (hrun : Run step s tr t) : T.Dead t x := by
  refine hrun.keeps (P := (T.Dead · x)) (fun s l t hdead hstep => ⟨fun hx => ?_, ?_⟩) h
  · rcases T.of_holds hstep hx with hissued | ⟨hheld, -⟩
    · exact absurd (T.number_of_issues hstep hissued).1 (ne_of_lt hdead.2)
    · exact hdead.1 hheld
  · exact lt_of_lt_of_le hdead.2 (T.next_le hstep)

theorem dead_of_disturbs (hnumber : T.number x < T.next s) (hstep : step s l t)
    (hl : T.disturbs (T.slot x) l) : T.Dead t x := by
  refine ⟨fun hheld => ?_, lt_of_lt_of_le hnumber (T.next_le hstep)⟩
  rcases T.of_holds hstep hheld with hissued | ⟨-, hquiet⟩
  · exact absurd (T.number_of_issues hstep hissued).1 (ne_of_lt hnumber)
  · exact hquiet hl

theorem not_holds_of_accepted (hs : T.Fresh s) (hrun : Run step s tr t)
    (hx : ∃ l ∈ tr, T.accepts x l) : ¬ T.holds t x := by
  obtain ⟨l, hl, hx⟩ := hx
  obtain ⟨a, b, rfl⟩ := List.append_of_mem hl
  obtain ⟨u, u', hbefore, hstep, hafter⟩ := hrun.at_label
  have hnumber := T.number_lt_next hs hbefore (T.held_of_accepts hstep hx)
  exact ((dead_of_disturbs hnumber hstep (T.disturbs_of_accepts hx)).run hafter).1

/-- A ticket is never held again after its slot was disturbed. -/
theorem not_holds_of_disturbed (hrun : Run step s (a ++ l :: b) t) (hx : T.issues x l)
    (hb : ∃ l' ∈ b, T.disturbs (T.slot x) l') : ¬ T.holds t x := by
  obtain ⟨l', hl', hdisturbs⟩ := hb
  obtain ⟨b₁, b₂, rfl⟩ := List.append_of_mem hl'
  obtain ⟨u, u', -, hstep, hafter⟩ := hrun.at_label
  obtain ⟨v, v', hmid, hstep', hrest⟩ := hafter.at_label
  obtain ⟨hnumber, hnext⟩ := T.number_of_issues hstep hx
  have hbehind : T.number x < T.next v := hmid.keeps (P := fun s => T.number x < T.next s)
    (fun _ _ _ h hstep => lt_of_lt_of_le h (T.next_le hstep)) (hnumber ▸ hnext)
  exact ((dead_of_disturbs hbehind hstep' hdisturbs).run hrest).1

end Ticketing

end CpaGateway.Lib.Tickets
