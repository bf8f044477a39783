import CpaGateway.Lib.Effect

/-! # Methods that log what they do

An object with a log that its methods only append to. `Shows log m P` says that whatever the object
is, what a call of `m` appends is in the relation `P` to how the call ends. The rules go along the
structure of a method, so that what a whole method shows is put together from what its parts show.
-/

namespace CpaGateway.Lib.Logged

open Lib.Effect Lib.Fallible

variable {σ ε α β ℓ : Type} {log : σ → List ℓ}

/-- Every call of the method appends to the log, and what it appends fits how it ends. -/
def Shows (log : σ → List ℓ) (m : Method σ ε α) (P : Except ε α → List ℓ → Prop) : Prop :=
  ∀ s, ∃ added, log (m.call s).2 = log s ++ added ∧ P (m.call s).1 added

variable {P : Except ε α → List ℓ → Prop} {m : Method σ ε β} {f : β → Method σ ε α}

theorem Shows.mono {m : Method σ ε α} {P' : Except ε α → List ℓ → Prop} (h : Shows log m P)
    (himp : ∀ o added, P o added → P' o added) : Shows log m P' := by
  intro s
  obtain ⟨added, hlog, hP⟩ := h s
  exact ⟨added, hlog, himp _ _ hP⟩

theorem shows_of_keeps {m : Method σ ε α} (h : Keeps log m) (hP : ∀ o, P o []) : Shows log m P :=
  fun s => ⟨[], by rw [h s, List.append_nil], hP _⟩

theorem shows_pure {a : α} (h : P (.ok a) []) : Shows log (pure a) P :=
  fun s => ⟨[], by rw [call_pure, List.append_nil], h⟩

variable {e : ε}

theorem shows_throw (h : P (.error e) []) : Shows log (throw e) P :=
  fun s => ⟨[], by rw [call_throw, List.append_nil], h⟩

theorem shows_bind {R : Except ε β → List ℓ → Prop} (hm : Shows log m R)
    (hok : ∀ b first, R (.ok b) first → Shows log (f b) fun o rest => P o (first ++ rest))
    (herr : ∀ e added, R (.error e) added → P (.error e) added) : Shows log (m >>= f) P := by
  intro s
  obtain ⟨first, hfirst, hR⟩ := hm s
  rw [call_bind]
  rcases hcall : m.call s with ⟨e | b, s₁⟩ <;> rw [hcall] at hfirst hR
  · exact ⟨first, hfirst, herr e first hR⟩
  · obtain ⟨rest, hrest, hP⟩ := hok b first hR s₁
    exact ⟨first ++ rest, by rw [hrest, hfirst, List.append_assoc], hP⟩

theorem shows_ok_bind {R : β → List ℓ → Prop}
    (hm : Shows log m fun o added => ∃ b, o = .ok b ∧ R b added)
    (hok : ∀ b first, R b first → Shows log (f b) fun o rest => P o (first ++ rest)) :
    Shows log (m >>= f) P := by
  refine shows_bind hm ?_ ?_
  · rintro b first ⟨_, ⟨⟩, hR⟩
    exact hok b first hR
  · rintro e added ⟨_, ⟨⟩, _⟩

theorem shows_keeps_bind (hm : Keeps log m) (hok : ∀ b, Shows log (f b) P)
    (herr : ∀ e, P (.error e) []) : Shows log (m >>= f) P := by
  refine shows_bind (R := fun _ added => added = []) (shows_of_keeps hm fun _ => rfl) ?_ ?_
  · rintro b _ rfl
    exact hok b
  · rintro e _ rfl
    exact herr e

theorem shows_lift_bind {x : Except ε β} (hok : ∀ b, x = .ok b → Shows log (f b) P)
    (herr : ∀ e, P (.error e) []) : Shows log (liftM x >>= f) P := by
  cases x with
  | ok b => exact hok b rfl
  | error e => exact shows_throw (herr e)

theorem shows_ensure_bind {c : Bool} {f : Unit → Method σ ε α}
    (hok : c = true → Shows log (f ()) P) (herr : c = false → P (.error e) []) :
    Shows log (ensure c e >>= f) P := by
  cases c with
  | true => exact hok rfl
  | false => exact shows_throw (herr rfl)

theorem shows_okOr_bind {x : Option β} (hok : ∀ b, x = some b → Shows log (f b) P)
    (herr : P (.error e) []) : Shows log (okOr x e >>= f) P := by
  cases x with
  | some b => exact hok b rfl
  | none => exact shows_throw herr

theorem shows_ite {c : Bool} {m m' : Method σ ε α} (h : c = true → Shows log m P)
    (h' : c = false → Shows log m' P) : Shows log (if c then m else m') P := by
  cases c with
  | true => exact h rfl
  | false => exact h' rfl

theorem shows_orRestore {m : Method σ ε α} {R : Except ε α → List ℓ → Prop} {restore : σ → σ → σ}
    {undone : List ℓ} (hm : Shows log m R)
    (hrestore : ∀ s s', log (restore s s') = log s' ++ undone)
    (hok : ∀ a added, R (.ok a) added → P (.ok a) added)
    (herr : ∀ e added, R (.error e) added → P (.error e) (added ++ undone)) :
    Shows log (m.orRestore restore) P := by
  intro s
  obtain ⟨added, hlog, hR⟩ := hm s
  simp only [Method.orRestore, call_of]
  rcases hcall : m.call s with ⟨e | a, s₁⟩ <;> rw [hcall] at hlog hR
  · exact ⟨added ++ undone, by rw [hrestore, hlog, List.append_assoc], herr e added hR⟩
  · exact ⟨added, hlog, hok a added hR⟩

end CpaGateway.Lib.Logged
