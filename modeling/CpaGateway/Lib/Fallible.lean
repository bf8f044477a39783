import Mathlib.Algebra.Group.Int.Defs
import Mathlib.Algebra.Group.Nat.Defs
import Mathlib.Data.List.Forall2

/-! # Computations that may fail

What the success of a composed computation says about its parts, and the two guards that checks are
written with. -/

namespace CpaGateway.Lib.Fallible

universe u v

variable {ε : Type u} {α β : Type v}

theorem map_ok {f : α → β} {x : Except ε α} {b : β} (h : x.map f = .ok b) :
    ∃ a, x = .ok a ∧ f a = b := by
  cases x with
  | error e => cases h
  | ok a => exact ⟨a, rfl, by simpa [Except.map] using h⟩

theorem bind_ok {f : α → Except ε β} {x : Except ε α} {b : β} (h : (x >>= f) = .ok b) :
    ∃ a, x = .ok a ∧ f a = .ok b := by
  cases x with
  | error e => cases h
  | ok a => exact ⟨a, rfl, h⟩

@[simp] theorem ok_bind (a : α) (f : α → Except ε β) : (Except.ok a >>= f) = f a := rfl

@[simp] theorem error_bind (e : ε) (f : α → Except ε β) : (Except.error e >>= f) = .error e := rfl

section Guards

variable {ε α : Type} {m : Type → Type} [Monad m] [MonadExcept ε m]

/-- Fails with `e` unless the condition holds. -/
def ensure (condition : Bool) (e : ε) : m Unit := if condition then pure () else throw e

/-- The value of an option, or the error `e`. -/
def okOr (x : Option α) (e : ε) : m α :=
  match x with
  | some a => pure a
  | none => throw e

end Guards

section Success

variable {ε α β : Type}

@[simp] theorem ensure_ok {c : Bool} {e : ε} {u : Unit} :
    (ensure c e : Except ε Unit) = .ok u ↔ c = true := by
  cases c <;> simp [ensure, throw, throwThe, pure, Except.pure]

variable {a : α}

@[simp] theorem okOr_ok {x : Option α} {e : ε} : (okOr x e : Except ε α) = .ok a ↔ x = some a := by
  cases x <;> simp [okOr, throw, throwThe, pure, Except.pure]

variable {f : α → Except ε β} {b : β}

@[simp] theorem bind_ok_iff {x : Except ε α} : (x >>= f) = .ok b ↔ ∃ a, x = .ok a ∧
      f a = .ok b := by
  cases x <;> simp

@[simp] theorem pure_ok_iff {b : α} : (pure a : Except ε α) = .ok b ↔ a = b := by
  simp [pure, Except.pure]

@[simp] theorem mapError_ok_iff {ε' : Type} {x : Except ε α} {wrap : ε → ε'} :
    x.mapError wrap = .ok a ↔ x = .ok a := by
  cases x <;> simp [Except.mapError]

/-- The rules above as one, to take a computation apart. -/
theorem except_ok : type_of% @bind_ok_iff ∧ type_of% @pure_ok_iff ∧ type_of% @ensure_ok ∧
    type_of% @okOr_ok ∧ type_of% @mapError_ok_iff :=
  ⟨bind_ok_iff, pure_ok_iff, ensure_ok, okOr_ok, mapError_ok_iff⟩

variable {l : List α}

theorem forM_ok {f : α → Except ε Unit} (h : l.forM f = .ok ()) (ha : a ∈ l) : f a = .ok () := by
  induction l with
  | nil => cases ha
  | cons b l ih =>
    obtain ⟨_, hfirst, hrest⟩ := bind_ok_iff.mp h
    rcases List.mem_cons.mp ha with rfl | ha
    · exact hfirst
    · exact ih hrest ha

/-- What every step of a loop preserves holds after the loop, of the elements it went through and
its accumulator. -/
theorem foldlM_ok {f : β → α → Except ε β} {b' : β} (I : List α → β → Prop)
    (hf : l.foldlM f b = .ok b') (done : List α) (h : I done b)
    (step : ∀ done a b b', I done b → f b a = .ok b' → I (done ++ [a]) b') : I (done ++ l) b' := by
  induction l generalizing b done with
  | nil =>
    obtain rfl := pure_ok_iff.mp hf
    rwa [List.append_nil]
  | cons a l ih =>
    rw [List.foldlM_cons, bind_ok_iff] at hf
    obtain ⟨b₁, hfirst, hrest⟩ := hf
    have := ih hrest (done ++ [a]) (step done a b b₁ h hfirst)
    rwa [List.append_assoc] at this

variable {l' : List β}

theorem mapM_ok (h : l.mapM f = .ok l') : List.Forall₂ (fun a b => f a = .ok b) l l' := by
  induction l generalizing l' with
  | nil =>
    rw [List.mapM_nil, pure_ok_iff] at h
    subst h
    exact .nil
  | cons a l ih =>
    simp only [List.mapM_cons, bind_ok_iff, pure_ok_iff] at h
    obtain ⟨b, hfirst, rest, hrest, rfl⟩ := h
    exact .cons hfirst (ih hrest)

theorem exists_mapM_ok (h : ∀ a ∈ l, ∃ b, f a = .ok b) : ∃ l', l.mapM f = .ok l' := by
  induction l with
  | nil => exact ⟨[], rfl⟩
  | cons a l ih =>
    obtain ⟨b, hb⟩ := h a (.head _)
    obtain ⟨l', hl'⟩ := ih fun a' ha' => h a' (.tail _ ha')
    exact ⟨b :: l', by rw [List.mapM_cons, hb, hl']; rfl⟩

theorem map_of_mapM_ok {γ : Type} {g : α → γ}
    {g' : β → γ} (h : l.mapM f = .ok l') (hf : ∀ a ∈ l, ∀ b, f a = .ok b → g' b = g a) :
    l'.map g' = l.map g := by
  induction l generalizing l' with
  | nil =>
    rw [List.mapM_nil, pure_ok_iff] at h
    subst h
    rfl
  | cons a l ih =>
    simp only [List.mapM_cons, bind_ok_iff, pure_ok_iff] at h
    obtain ⟨b, hfirst, rest, hrest, rfl⟩ := h
    rw [List.map_cons, List.map_cons, hf a (.head _) b hfirst,
      ih hrest fun a' ha' => hf a' (.tail _ ha')]

theorem exists_of_forall₂ {γ δ : Type v} {R : γ → δ → Prop} {l : List γ} {l' : List δ} {a : γ}
    (h : List.Forall₂ R l l') (ha : a ∈ l) : ∃ b ∈ l', R a b := by
  induction h with
  | nil => cases ha
  | cons hfirst _ ih =>
    rcases List.mem_cons.mp ha with rfl | ha
    · exact ⟨_, List.mem_cons_self, hfirst⟩
    · obtain ⟨b, hb, hR⟩ := ih ha
      exact ⟨b, List.mem_cons_of_mem _ hb, hR⟩

theorem mem_left_of_mapM_ok (h : l.mapM f = .ok l') (hb : b ∈ l') : ∃ a ∈ l, f a = .ok b :=
  exists_of_forall₂ (mapM_ok h).flip hb

theorem mem_right_of_mapM_ok (h : l.mapM f = .ok l') (ha : a ∈ l) : ∃ b ∈ l', f a = .ok b :=
  exists_of_forall₂ (mapM_ok h) ha

end Success

/-! ### Optional results -/

theorem mapM_some {f : α → Option β} {l : List α} {l' : List β} :
    l.mapM f = some l' ↔ List.Forall₂ (fun a b => f a = some b) l l' := by
  induction l generalizing l' with
  | nil => simp
  | cons a l ih =>
    rw [List.mapM_cons, List.forall₂_cons_left_iff]
    simp only [Option.bind_eq_bind, Option.bind_eq_some_iff, Option.pure_def, Option.some.injEq, ih]
    constructor
    · rintro ⟨b, hb, rest, hrest, rfl⟩
      exact ⟨b, rest, hb, hrest, rfl⟩
    · rintro ⟨b, rest, hb, hrest, rfl⟩
      exact ⟨b, hb, rest, hrest, rfl⟩

/-- Two functions with one result list agree on the list. -/
theorem mapM_some_iff {f g : α → Option β} {l : List α} {l' : List β} (hg : l.mapM g = some l') :
    l.mapM f = some l' ↔ ∀ a ∈ l, f a = g a := by
  rw [mapM_some] at hg ⊢
  constructor
  · intro hf a ha
    obtain ⟨i, hi, rfl⟩ := List.getElem_of_mem ha
    rw [List.forall₂_iff_get] at hf hg
    exact (hf.2 i hi (hf.1 ▸ hi)).trans (hg.2 i hi (hf.1 ▸ hi)).symm
  · intro hagree
    induction hg with
    | nil => exact .nil
    | cons hb _ ih =>
      exact .cons ((hagree _ (by simp)).trans hb) (ih fun a ha => hagree a (by simp [ha]))

end CpaGateway.Lib.Fallible
