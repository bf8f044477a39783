import CpaGateway.Lib.Tables

/-! # Collecting a list into groups

The elements of a list are added, one by one, to the group of their key; adding may fail. What
happens at a key is what happens to the elements of that key alone: -/

namespace CpaGateway.Lib.Grouping

open Lib.Fallible Lib.Tables

variable {α κ υ ε : Type} [DecidableEq κ]

def addTo (key : α → κ) (add : Option υ → α → Except ε υ) (groups : Table κ υ) (a : α) :
    Except ε (Table κ υ) := do
  let group ← add (groups.lookup (key a)) a
  return groups.insert (key a) group

def addOne (add : Option υ → α → Except ε υ) (group : Option υ) (a : α) : Except ε (Option υ) := do
  let group ← add group a
  return some group

variable {key : α → κ} {add : Option υ → α → Except ε υ} {groups groups' : Table κ υ}
  {a : α} {l : List α}

theorem addTo_ok_iff :
    addTo key add groups a = .ok groups' ↔
      ∃ group, add (groups.lookup (key a)) a = .ok group ∧
        groups.insert (key a) group = groups' := by
  simp only [addTo, except_ok]

theorem lookup_addTo (h : addTo key add groups a = .ok groups') (k : κ) :
    (if key a = k then addOne add (groups.lookup k) a else .ok (groups.lookup k)) =
      .ok (groups'.lookup k) := by
  obtain ⟨group, hadd, rfl⟩ := addTo_ok_iff.mp h
  split_ifs with hk
  · subst hk
    rw [addOne, hadd, AList.lookup_insert]
    rfl
  · rw [AList.lookup_insert_ne (Ne.symm hk)]

/-- The group of a key is made of the elements of the key. -/
theorem lookup_of_foldlM_addTo (h : l.foldlM (addTo key add) groups = .ok groups') (k : κ) :
    (l.filter fun a => key a = k).foldlM (addOne add) (groups.lookup k) =
      .ok (groups'.lookup k) := by
  induction l generalizing groups with
  | nil =>
    cases h
    rfl
  | cons a l ih =>
    obtain ⟨groups₁, hfirst, hrest⟩ := bind_ok_iff.mp h
    have hk := lookup_addTo hfirst k
    rw [List.filter_cons]
    split_ifs at hk with heq
    · rw [if_pos (decide_eq_true heq), List.foldlM_cons, hk]
      exact ih hrest
    · rw [if_neg (by simpa using heq), Except.ok.inj hk]
      exact ih hrest

/-- **A list is accepted** iff the elements of each key are. -/
theorem foldlM_addTo_ok :
    (∃ groups', l.foldlM (addTo key add) groups = .ok groups') ↔
      ∀ k, ∃ group, (l.filter fun a => key a = k).foldlM (addOne add) (groups.lookup k) =
        .ok group := by
  constructor
  · rintro ⟨groups', h⟩ k
    exact ⟨_, lookup_of_foldlM_addTo h k⟩
  · intro h
    induction l generalizing groups with
    | nil => exact ⟨groups, rfl⟩
    | cons a l ih =>
      -- the first element is accepted, since its key begins with it
      obtain ⟨group, hfold⟩ := h (key a)
      rw [List.filter_cons_of_pos (by simp)] at hfold
      obtain ⟨first, hfirst, -⟩ := bind_ok_iff.mp hfold
      obtain ⟨added, hadd, -⟩ := bind_ok_iff.mp hfirst
      have hto : addTo key add groups a = .ok (groups.insert (key a) added) :=
        addTo_ok_iff.mpr ⟨added, hadd, rfl⟩
      obtain ⟨groups', hrest⟩ := @ih (groups.insert (key a) added) fun k => by
        obtain ⟨group', hgroup'⟩ := h k
        have hk := lookup_addTo hto k
        rw [List.filter_cons] at hgroup'
        split_ifs at hk with heq
        · rw [if_pos (decide_eq_true heq), List.foldlM_cons, hk] at hgroup'
          exact ⟨group', hgroup'⟩
        · rw [if_neg (by simpa using heq), Except.ok.inj hk] at hgroup'
          exact ⟨group', hgroup'⟩
      exact ⟨groups', by rw [List.foldlM_cons, hto]; exact hrest⟩

end CpaGateway.Lib.Grouping
