import CpaGateway.Lib.Effect
import Mathlib.Data.List.AList

/-! # Tables of a transactional store

A table has rows under a primary key. A statement that would leave a row against the checks of its
table fails and changes nothing; one that finds no row to change succeeds and says so. Statements
are grouped into transactions: a transaction that fails is undone. -/

namespace CpaGateway.Lib.Tables

open Lib.Effect Lib.Fallible

variable {κ ρ σ ε α : Type} [DecidableEq κ]

/-- The rows under their primary key. -/
abbrev Table (κ ρ : Type) [DecidableEq κ] := AList fun _ : κ => ρ

/-- The rows with their keys, in no particular order. -/
def Table.rows (t : Table κ ρ) : List (κ × ρ) := t.entries.map fun entry => (entry.1, entry.2)

theorem Table.mem_rows {t : Table κ ρ} {k : κ} {row : ρ} :
    (k, row) ∈ t.rows ↔ t.lookup k = some row := by
  rw [← Option.mem_def, AList.mem_lookup_iff, Table.rows, List.mem_map]
  constructor
  · rintro ⟨⟨k', row'⟩, hmem, heq⟩
    cases heq
    exact hmem
  · intro hmem
    exact ⟨⟨k, row⟩, hmem, rfl⟩

theorem Table.nodup_rows (t : Table κ ρ) : (t.rows.map Prod.fst).Nodup := by
  rw [Table.rows, List.map_map]
  exact t.nodupKeys

/-- Changes the row at a key if it satisfies the condition; the result says whether a row was
changed. -/
def update (check : ρ → Bool) (refused : ε) (k : κ) (condition : ρ → Bool) (change : ρ → ρ) :
    Method (Table κ ρ) ε Bool := do
  match ((← get).lookup k).filter condition with
  | none => return false
  | some row =>
    ensure (check (change row)) refused
    modify (AList.insert k (change row))
    return true

/-- Removes the row at a key if it satisfies the condition; the result says whether there was one.
-/
def delete (k : κ) (condition : ρ → Bool) : Method (Table κ ρ) ε Bool := do
  match ((← get).lookup k).filter condition with
  | none => return false
  | some _ =>
    modify (AList.erase k)
    return true

/-- Adds a row at a key unless there is one. -/
def insertOrIgnore (row : ρ) (t : Table κ ρ) (k : κ) : Table κ ρ :=
  match t.lookup k with
  | some _ => t
  | none => t.insert k row

/-- A group of statements whose failure undoes them all. -/
def transaction (m : Method σ ε α) : Method σ ε α := m.orRestore fun before _ => before

section Rules

variable {check : ρ → Bool} {refused e : ε} {k k' : κ} {condition : ρ → Bool} {change : ρ → ρ}
  {row : ρ}
  {t t' : Table κ ρ} {s s' : σ} {m : Method σ ε α} {a : α}

theorem call_update :
    (update check refused k condition change).call t =
      match (t.lookup k).filter condition with
      | none => (.ok false, t)
      | some row => if check (change row) then (.ok true, t.insert k (change row))
        else (.error refused, t) := by
  rw [update, call_bind, call_get]
  dsimp only
  cases (t.lookup k).filter condition with
  | none => rfl
  | some row =>
    simp only [call_eq]
    cases check (change row) <;> rfl

theorem call_update_true :
    (update check refused k condition change).call t = (.ok true, t') ↔
      ∃ row, t.lookup k = some row ∧ condition row = true ∧ check (change row) = true ∧
        t.insert k (change row) = t' := by
  rw [call_update]
  constructor
  · intro h
    split at h
    · simp at h
    · rename_i row hrow
      obtain ⟨hlookup, hcondition⟩ := Option.filter_eq_some_iff.mp hrow
      split_ifs at h with hcheck
      · exact ⟨row, hlookup, hcondition, hcheck, (Prod.mk.inj h).2⟩
      · simp at h
  · rintro ⟨row, hlookup, hcondition, hcheck, rfl⟩
    rw [Option.filter_eq_some_iff.mpr ⟨hlookup, hcondition⟩]
    simp [hcheck]

theorem call_delete_true :
    (delete k condition : Method (Table κ ρ) ε Bool).call t = (.ok true, t') ↔
      ∃ row, t.lookup k = some row ∧ condition row = true ∧ t.erase k = t' := by
  simp only [delete, call_ok]
  constructor
  · intro h
    split at h
    · simp at h
    · rename_i row hrow
      obtain ⟨hlookup, hcondition⟩ := Option.filter_eq_some_iff.mp hrow
      obtain ⟨_, _, rfl⟩ := h
      exact ⟨row, hlookup, hcondition, rfl⟩
  · rintro ⟨row, hlookup, hcondition, rfl⟩
    have hrow : (t.lookup k).filter condition = some row :=
      Option.filter_eq_some_iff.mpr ⟨hlookup, hcondition⟩
    rw [hrow]
    simp [-bind_pure_comp]

theorem lookup_insert (k' : κ) : (t.insert k row).lookup k' = if k' = k then some row
      else t.lookup k' := by
  split_ifs with h
  · rw [h, AList.lookup_insert]
  · rw [AList.lookup_insert_ne h]

theorem lookup_erase (k' : κ) : (t.erase k).lookup k' = if k' = k then none else t.lookup k' := by
  split_ifs with h
  · rw [h, AList.lookup_erase]
  · rw [AList.lookup_erase_ne h]

theorem lookup_insertOrIgnore (k' : κ) :
    (insertOrIgnore row t k).lookup k' =
      if k' = k then some ((t.lookup k).getD row) else t.lookup k' := by
  rw [insertOrIgnore]
  split
  · rename_i old hold
    split_ifs with h
    · rw [h, hold, Option.getD_some]
    · rfl
  · rename_i hnone
    rw [lookup_insert, hnone, Option.getD_none]

theorem lookup_foldl_insertOrIgnore (keys : List κ) (k' : κ) :
    (keys.foldl (insertOrIgnore row) t).lookup k' =
      if k' ∈ keys then some ((t.lookup k').getD row) else t.lookup k' := by
  induction keys generalizing t with
  | nil => simp
  | cons k keys ih =>
    rw [List.foldl_cons, ih, lookup_insertOrIgnore]
    by_cases hk : k' = k
    · subst hk
      simp
    · simp [hk]

theorem call_transaction_ok :
    (transaction m).call s = (.ok a, s') ↔ m.call s = (.ok a, s') := call_orRestore_ok

end Rules

/-! ### Calls that fail -/

section Restores

variable {β : Type} {e : ε}

/-- A call that fails leaves the store as it was. -/
def Restores (m : Method σ ε α) : Prop := ∀ s e s', m.call s = (.error e, s') → s' = s

theorem restores_transaction (m : Method σ ε α) : Restores (transaction m) := by
  intro _ _ _ h
  obtain ⟨t, -, rfl⟩ := call_orRestore_error.mp h
  rfl

theorem Restores.ensure_bind {c : Bool} {f : Unit → Method σ ε α} (hf : Restores (f ())) :
    Restores (ensure c e >>= f) := by
  intro s e' s' h
  cases c with
  | true => exact hf s e' s' h
  | false => exact (Prod.mk.inj h).2.symm

variable {f : β → Method σ ε α}

theorem Restores.lift_bind {x : Except ε β} (hf : ∀ b, Restores (f b)) :
    Restores (liftM x >>= f) := by
  intro s e' s' h
  cases x with
  | ok b => exact hf b s e' s' h
  | error e => exact (Prod.mk.inj h).2.symm

theorem Restores.okOr_bind {x : Option β} (hf : ∀ b, Restores (f b)) :
    Restores (okOr x e >>= f) := by
  intro s e' s' h
  cases x with
  | some b => exact hf b s e' s' h
  | none => exact (Prod.mk.inj h).2.symm

theorem Restores.get_bind {f : σ → Method σ ε α} (hf : ∀ s, Restores (f s)) :
    Restores (get >>= f) := by
  intro s e' s' h
  exact hf s s e' s' h

/-- After the last change nothing may fail. -/
theorem restores_onPart_bind {τ ε' : Type} {get : σ → τ} {put : σ → τ → σ} {wrap : ε' → ε}
    {m : Method τ ε' β} (hput : ∀ s, put s (get s) = s) (hm : Restores m)
    (hf : ∀ b s, ∃ a s', (f b).call s = (.ok a, s')) : Restores (m.onPart get put wrap >>= f) := by
  intro s e' s' h
  rw [call_bind, Method.onPart, call_of] at h
  rcases hcall : m.call (get s) with ⟨result, t⟩
  rw [hcall] at h
  cases result with
  | error e =>
    rw [hm _ _ _ hcall] at h
    exact (Prod.mk.inj h).2.symm.trans (hput s)
  | ok b =>
    obtain ⟨a, s₁, hok⟩ := hf b (put s t)
    exact absurd (hok.symm.trans h) (by simp)

/-- A single statement that finds no row, or a row it may not change so, changes nothing. -/
theorem restores_update {get : σ → Table κ ρ} {put : σ → Table κ ρ → σ}
    (hput : ∀ s, put s (get s) = s) {check : ρ → Bool} {refused : ε} {k : κ} {condition : ρ → Bool}
    {change : ρ → ρ} :
    Restores ((update check refused k condition change).onPart get put id >>= fun changed =>
      ensure changed e) := by
  intro s e' s' h
  rw [call_bind, Method.onPart, call_of, call_update] at h
  rcases hrow : ((get s).lookup k).filter condition with _ | row <;> rw [hrow] at h
  · exact (Prod.mk.inj h).2.symm.trans (hput s)
  · cases hcheck : check (change row) <;> simp only [hcheck] at h
    · exact (Prod.mk.inj h).2.symm.trans (hput s)
    · exact absurd (Prod.mk.inj h).1 (by simp)

end Restores

end CpaGateway.Lib.Tables
