import CpaGateway.Lib.Fallible

/-! # Methods that mutate an object and may fail

A method of an object of type `σ` returns a result or an error, and the object as it left it: what
was written before an error stays written. `Method.call` runs a method on an object. The lemmas
`call_…_ok` say what a successful call of a composed method did, step by step; the rules of `Keeps`
say what every call leaves alone, also one that fails. -/

namespace CpaGateway.Lib.Effect

open Lib.Fallible

variable {σ ε α β : Type}

abbrev Method (σ ε α : Type) := ExceptT ε (StateM σ) α

/-- The result of a method called on `s`, and the object afterwards. -/
def Method.call (m : Method σ ε α) (s : σ) : Except ε α × σ := m.run.run s

/-- A method given by what it does. -/
def Method.of (f : σ → Except ε α × σ) : Method σ ε α := ExceptT.mk f

/-- A method of a part of the object: `get` reads the part, `put` writes it back, and `wrap` turns
its errors into errors of the object. -/
def Method.onPart {τ ε' : Type} (get : σ → τ) (put : σ → τ → σ) (wrap : ε' → ε)
    (m : Method τ ε' α) : Method σ ε α :=
  .of fun s => ((m.call (get s)).1.mapError wrap, put s (m.call (get s)).2)

/-- A method whose failure is undone: `restore before after` is the object after a failure. -/
def Method.orRestore (restore : σ → σ → σ) (m : Method σ ε α) : Method σ ε α :=
  .of fun s =>
    match m.call s with
    | (.ok a, s') => (.ok a, s')
    | (.error e, s') => (.error e, restore s s')

/-- A method called for each element in turn, with the results in a row. -/
def Method.collect {η : Type} (f : η → Method σ ε (List α)) : List η → Method σ ε (List α)
  | [] => pure []
  | x :: xs => do
    let first ← f x
    let rest ← collect f xs
    return first ++ rest

variable {s s' : σ}

theorem call_of (f : σ → Except ε α × σ) (s : σ) : (Method.of f).call s = f s := rfl

theorem call_pure (a : α) (s : σ) : (pure a : Method σ ε α).call s = (.ok a, s) := rfl

theorem call_throw (e : ε) (s : σ) : (throw e : Method σ ε α).call s = (.error e, s) := rfl

theorem call_lift (x : Except ε α) (s : σ) : (liftM x : Method σ ε α).call s = (x, s) := rfl

theorem call_get (s : σ) : (get : Method σ ε σ).call s = (.ok s, s) := rfl

theorem call_modify (f : σ → σ) (s : σ) :
    (modify f : Method σ ε Unit).call s = (.ok (), f s) := rfl

theorem call_ensure (c : Bool) (e : ε) (s : σ) :
    (ensure c e : Method σ ε Unit).call s = (if c then .ok () else .error e, s) := by
  cases c <;> rfl

theorem call_bind (m : Method σ ε α) (f : α → Method σ ε β) (s : σ) :
    (m >>= f).call s =
      match m.call s with
      | (.ok a, s₁) => (f a).call s₁
      | (.error e, s₁) => (.error e, s₁) := by
  simp only [Method.call, ExceptT.run_bind, StateT.run_bind]
  rcases h : m.run.run s with ⟨_ | a, s₁⟩ <;> rfl

/-- The equations above as one, to run a call. -/
theorem call_eq : type_of% @call_bind ∧ type_of% @call_pure ∧ type_of% @call_throw ∧
      type_of% @call_lift ∧
    type_of% @call_get ∧ type_of% @call_modify ∧ type_of% @call_ensure :=
  ⟨call_bind, call_pure, call_throw, call_lift, call_get, call_modify, call_ensure⟩

/-! ### What a successful call did -/

variable {a : α}

@[simp] theorem call_pure_ok {b : α} : (pure a : Method σ ε α).call s = (.ok b, s') ↔
      a = b ∧ s = s' := by
  change (Except.ok a, s) = (Except.ok b, s') ↔ _
  simp

variable {e : ε}

@[simp] theorem call_throw_ok : ¬ (throw e : Method σ ε α).call s = (.ok a, s') := by
  change ¬ (Except.error e, s) = (Except.ok a, s')
  simp

@[simp] theorem call_lift_ok {x : Except ε α} :
    (liftM x : Method σ ε α).call s = (.ok a, s') ↔ x = .ok a ∧ s = s' := by
  change (x, s) = (Except.ok a, s') ↔ _
  simp

@[simp] theorem call_get_ok {t : σ} :
    (get : Method σ ε σ).call s = (.ok t, s') ↔ s = t ∧ s = s' := by
  change (Except.ok s, s) = (Except.ok t, s') ↔ _
  simp

@[simp] theorem call_modify_ok {f : σ → σ} {u : Unit} :
    (modify f : Method σ ε Unit).call s = (.ok u, s') ↔ f s = s' := by
  change (Except.ok (), f s) = (Except.ok u, s') ↔ _
  simp

@[simp] theorem call_set_ok {t : σ} {u : PUnit} :
    (set t : Method σ ε PUnit).call s = (.ok u, s') ↔ t = s' := by
  change (Except.ok PUnit.unit, t) = (Except.ok u, s') ↔ _
  simp

@[simp] theorem call_ensure_ok {c : Bool} {u : Unit} :
    (ensure c e : Method σ ε Unit).call s = (.ok u, s') ↔ c = true ∧ s = s' := by
  cases c <;> simp [ensure]

@[simp] theorem call_okOr_ok {x : Option α} :
    (okOr x e : Method σ ε α).call s = (.ok a, s') ↔ x = some a ∧ s = s' := by
  cases x <;> simp [okOr]

variable {m : Method σ ε α}

@[simp] theorem call_bind_ok {f : α → Method σ ε β} {b : β} :
    (m >>= f).call s = (.ok b, s') ↔
      ∃ a s₁, m.call s = (.ok a, s₁) ∧ (f a).call s₁ = (.ok b, s') := by
  rw [call_bind]
  rcases h : m.call s with ⟨_ | a, s₁⟩
  · simp
  · simp only [Prod.mk.injEq, Except.ok.injEq]
    constructor
    · exact fun hf => ⟨a, s₁, ⟨rfl, rfl⟩, hf⟩
    · rintro ⟨_, _, ⟨rfl, rfl⟩, hf⟩
      exact hf

theorem exists_same {p : α → Prop} {q : α → σ → Prop} :
    (∃ a s₁, (p a ∧ s = s₁) ∧ q a s₁) ↔ ∃ a, p a ∧ q a s := by
  constructor
  · rintro ⟨a, _, ⟨hp, rfl⟩, hq⟩
    exact ⟨a, hp, hq⟩
  · rintro ⟨a, hp, hq⟩
    exact ⟨a, s, ⟨hp, rfl⟩, hq⟩

/-- The rules above as one, to take a call apart. -/
theorem call_ok : type_of% @call_bind_ok ∧ type_of% @call_pure_ok ∧ type_of% @call_throw_ok ∧
    type_of% @call_lift_ok ∧ type_of% @call_get_ok ∧ type_of% @call_modify_ok ∧
      type_of% @call_set_ok ∧
    type_of% @call_ensure_ok ∧ type_of% @call_okOr_ok ∧ type_of% @exists_same ∧
    type_of% @exists_eq_left'.{1} :=
  ⟨call_bind_ok, call_pure_ok, call_throw_ok, call_lift_ok, call_get_ok, call_modify_ok,
    call_set_ok, call_ensure_ok, call_okOr_ok, exists_same, exists_eq_left'⟩

theorem call_onPart_ok {τ ε' : Type} {get : σ → τ} {put : σ → τ → σ} {wrap : ε' → ε}
    {m : Method τ ε' α} : (m.onPart get put wrap).call s = (.ok a, s') ↔
      ∃ t, m.call (get s) = (.ok a, t) ∧ put s t = s' := by
  rw [Method.onPart, call_of]
  rcases m.call (get s) with ⟨_ | b, t⟩
  · simp
  · simp [Except.mapError]

variable {restore : σ → σ → σ}

theorem call_orRestore_ok :
    (m.orRestore restore).call s = (.ok a, s') ↔ m.call s = (.ok a, s') := by
  rw [Method.orRestore, call_of]
  rcases m.call s with ⟨_ | b, t⟩ <;> simp

theorem call_orRestore_error :
    (m.orRestore restore).call s = (.error e, s') ↔
      ∃ t, m.call s = (.error e, t) ∧ restore s t = s' := by
  rw [Method.orRestore, call_of]
  rcases m.call s with ⟨_ | b, t⟩ <;> simp

/-! ### How a call ends -/

section Ends

/-- The call of `m` on `s` ends with an outcome and an object that are in the relation `Q`. -/
def Ends (m : Method σ ε α) (s : σ) (Q : Except ε α → σ → Prop) : Prop :=
  Q (m.call s).1 (m.call s).2

variable {Q : Except ε α → σ → Prop} {f : β → Method σ ε α}

theorem Ends.mono {Q' : Except ε α → σ → Prop} (h : Ends m s Q)
    (himp : ∀ o s', Q o s' → Q' o s') : Ends m s Q' := himp _ _ h

theorem ends_pure (h : Q (.ok a) s) : Ends (pure a) s Q := h

variable {e : ε}

theorem ends_throw (h : Q (.error e) s) : Ends (throw e) s Q := h

theorem ends_modify {g : σ → σ} {Q : Except ε Unit → σ → Prop} (h : Q (.ok ()) (g s)) :
    Ends (modify g) s Q := h

theorem ends_bind {m : Method σ ε β} {R : Except ε β → σ → Prop} (hm : Ends m s R)
    (hok : ∀ b s', R (.ok b) s' → Ends (f b) s' Q)
    (herr : ∀ e s', R (.error e) s' → Q (.error e) s') : Ends (m >>= f) s Q := by
  unfold Ends at hm ⊢
  rw [call_bind]
  rcases h : m.call s with ⟨e | b, s₁⟩ <;> rw [h] at hm
  · exact herr e s₁ hm
  · exact hok b s₁ hm

theorem ends_map {m : Method σ ε β} {g : β → α} (h : Ends m s fun o s' => Q (o.map g) s') :
    Ends (m >>= fun b => pure (g b)) s Q :=
  ends_bind h (fun _ _ h => h) fun _ _ h => h

theorem ends_get_bind {f : σ → Method σ ε α} (h : Ends (f s) s Q) : Ends (get >>= f) s Q :=
  ends_bind (R := fun o s' => o = .ok s ∧ s' = s) ⟨rfl, rfl⟩
    (by rintro _ _ ⟨⟨⟩, rfl⟩; exact h) (by rintro _ _ ⟨⟨⟩, _⟩)

theorem ends_modify_bind {g : σ → σ} {f : Unit → Method σ ε α} (h : Ends (f ()) (g s) Q) :
    Ends (modify g >>= f) s Q :=
  ends_bind (R := fun o s' => o = .ok () ∧ s' = g s) ⟨rfl, rfl⟩
    (by rintro _ _ ⟨⟨⟩, rfl⟩; exact h) (by rintro _ _ ⟨⟨⟩, _⟩)

theorem ends_lift_bind {x : Except ε β} (hok : ∀ b, x = .ok b → Ends (f b) s Q)
    (herr : ∀ e, x = .error e → Q (.error e) s) : Ends (liftM x >>= f) s Q :=
  ends_bind (R := fun o s' => o = x ∧ s' = s) ⟨rfl, rfl⟩
    (by rintro b _ ⟨h, rfl⟩; exact hok b h.symm) (by rintro e _ ⟨h, rfl⟩; exact herr e h.symm)

theorem ends_mapError_bind {ε' : Type} {x : Except ε' β} {wrap : ε' → ε}
    (hok : ∀ b, x = .ok b → Ends (f b) s Q) (herr : ∀ e, Q (.error e) s) :
    Ends (liftM (x.mapError wrap) >>= f) s Q := by
  cases x with
  | ok b => exact hok b rfl
  | error e => exact herr (wrap e)

theorem ends_okOr_bind {x : Option β} (hok : ∀ b, x = some b → Ends (f b) s Q)
    (herr : x = none → Q (.error e) s) : Ends (okOr x e >>= f) s Q := by
  cases x with
  | some b => exact hok b rfl
  | none => exact herr rfl

theorem ends_ensure_bind {c : Bool} {f : Unit → Method σ ε α}
    (hok : c = true → Ends (f ()) s Q) (herr : c = false → Q (.error e) s) :
    Ends (ensure c e >>= f) s Q := by
  cases c with
  | true => exact hok rfl
  | false => exact herr rfl

end Ends

/-! ### What every call leaves alone -/

section Keeps

variable {τ : Type}

/-- No call of the method changes the view `f` of the object. -/
def Keeps (f : σ → τ) (m : Method σ ε α) : Prop := ∀ s, f (m.call s).2 = f s

variable {f : σ → τ}

@[simp] theorem keeps_pure (a : α) : Keeps f (pure a : Method σ ε α) := fun _ => rfl

@[simp] theorem keeps_throw (e : ε) : Keeps f (throw e : Method σ ε α) := fun _ => rfl

@[simp] theorem keeps_lift (x : Except ε α) : Keeps f (liftM x : Method σ ε α) := fun _ => rfl

@[simp] theorem keeps_get : Keeps f (get : Method σ ε σ) := fun _ => rfl

theorem keeps_modify {g : σ → σ} (h : ∀ s, f (g s) = f s) :
    Keeps f (modify g : Method σ ε Unit) := h

@[simp] theorem keeps_ensure (c : Bool) (e : ε) : Keeps f (ensure c e : Method σ ε Unit) := by
  cases c <;> exact fun _ => rfl

@[simp] theorem keeps_okOr (x : Option α) (e : ε) : Keeps f (okOr x e : Method σ ε α) := by
  cases x <;> exact fun _ => rfl

theorem keeps_bind {g : α → Method σ ε β} (hm : Keeps f m)
    (hg : ∀ a, Keeps f (g a)) : Keeps f (m >>= g) := by
  intro s
  have hfirst := hm s
  rw [call_bind]
  rcases h : m.call s with ⟨_ | a, s₁⟩ <;> rw [h] at hfirst
  · exact hfirst
  · exact (hg a s₁).trans hfirst

end Keeps

/-! ### What a call does not look at -/

section Commutes

/-- Every call does to an object changed by `g` what it does to the object itself. -/
def Commutes (g : σ → σ) (m : Method σ ε α) : Prop :=
  ∀ s, m.call (g s) = ((m.call s).1, g (m.call s).2)

variable {g : σ → σ}

@[simp] theorem commutes_pure (a : α) : Commutes g (pure a : Method σ ε α) := fun _ => rfl

@[simp] theorem commutes_throw (e : ε) : Commutes g (throw e : Method σ ε α) := fun _ => rfl

@[simp] theorem commutes_lift (x : Except ε α) : Commutes g (liftM x : Method σ ε α) := fun _ => rfl

@[simp] theorem commutes_ensure (c : Bool) (e : ε) : Commutes g (ensure c e : Method σ ε Unit) := by
  cases c <;> exact fun _ => rfl

@[simp] theorem commutes_okOr (x : Option α) (e : ε) : Commutes g (okOr x e : Method σ ε α) := by
  cases x <;> exact fun _ => rfl

theorem commutes_modify {f : σ → σ} (h : ∀ s, f (g s) = g (f s)) :
    Commutes g (modify f : Method σ ε Unit) := by
  intro s
  rw [call_modify, call_modify, h]

theorem commutes_bind {f : α → Method σ ε β} (hm : Commutes g m)
    (hf : ∀ a, Commutes g (f a)) : Commutes g (m >>= f) := by
  intro s
  rw [call_bind, call_bind, hm s]
  rcases m.call s with ⟨_ | a, s₁⟩
  · rfl
  · exact hf a s₁

theorem commutes_get_bind {f : σ → Method σ ε α} (hview : ∀ s, f (g s) = f s)
    (hf : ∀ s, Commutes g (f s)) : Commutes g (get >>= f) := by
  intro s
  rw [call_bind, call_bind, call_get]
  simp only [hview]
  exact hf s s

theorem commutes_ite {c : Prop} [Decidable c] {m' : Method σ ε α} (h : Commutes g m)
    (h' : Commutes g m') : Commutes g (if c then m else m') := by
  split_ifs
  · exact h
  · exact h'

end Commutes

end CpaGateway.Lib.Effect
