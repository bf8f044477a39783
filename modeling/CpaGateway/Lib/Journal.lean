import Mathlib.Data.List.Range

/-! # Items that grow side by side, and the journal of it

Items are opened one after another; each gets parts and is closed, in any order. The journal has one
entry for each of these steps. What it says about one item is the record of that item: its opening,
its parts in order, and its closing. -/

namespace CpaGateway.Lib.Journal

/-- An item: what it was opened with, its parts so far, and what it was closed with. -/
structure Item (α β γ : Type) where
  head : α
  parts : List β := []
  last : Option γ := none

/-- What happens to the item at an index. -/
inductive Entry (α β γ : Type)
  | opened (index : ℕ) (head : α)
  | part (index : ℕ) (head : α) (part : β)
  | closed (index : ℕ) (head : α) (last : γ)

variable {α β γ : Type} {items items' : List (Item α β γ)} {entry : Entry α β γ}
  {entries new : List (Entry α β γ)} {item : Item α β γ} {i j : ℕ} {head head' : α}

def Entry.index : Entry α β γ → ℕ
  | opened index _ | part index _ _ | closed index _ _ => index

def Entry.opens : Entry α β γ → Option ℕ
  | opened index _ => some index
  | part .. | closed .. => none

/-- An item that was opened just now. -/
def Item.begin (head : α) : Item α β γ := { head }

/-- All that happened to the item. -/
def Item.record (index : ℕ) (item : Item α β γ) : List (Entry α β γ) :=
  .opened index item.head :: item.parts.map (.part index item.head) ++
    (item.last.map (.closed index item.head)).toList

def Item.extend (item : Item α β γ) (part : β) : Item α β γ :=
  { item with parts := item.parts ++ [part] }

def Item.close (item : Item α β γ) (last : γ) : Item α β γ := { item with last := some last }

/-! ### Steps -/

/-- One step and its entry. Only an open item changes. -/
inductive Step : List (Item α β γ) → Entry α β γ → List (Item α β γ) → Prop
  | opened (items : List (Item α β γ)) (head : α) :
    Step items (.opened items.length head) (items ++ [.begin head])
  | part {items : List (Item α β γ)} {i : ℕ} {item : Item α β γ} (h : items[i]? = some item)
    (hopen : item.last = none) (part : β) :
    Step items (.part i item.head part) (items.set i (item.extend part))
  | closed {items : List (Item α β γ)} {i : ℕ} {item : Item α β γ} (h : items[i]? = some item)
    (hopen : item.last = none) (last : γ) :
    Step items (.closed i item.head last) (items.set i (item.close last))

/-- Steps one after another, and their entries. -/
inductive Steps : List (Item α β γ) → List (Entry α β γ) → List (Item α β γ) → Prop
  | nil (items : List (Item α β γ)) : Steps items [] items
  | cons {items items' items'' : List (Item α β γ)} {entry : Entry α β γ}
    {entries : List (Entry α β γ)} (h : Step items entry items')
    (hrest : Steps items' entries items'') : Steps items (entry :: entries) items''

theorem Step.steps (h : Step items entry items') : Steps items [entry] items' :=
  .cons h (.nil items')

/-! ### Open items -/

def Open (items : List (Item α β γ)) (i : ℕ) (head : α) : Prop :=
  ∃ parts, items[i]? = some { head, parts }

theorem open_of_getElem? (h : items[i]? = some item) (hopen : item.last = none) :
    Open items i item.head := by
  obtain ⟨head, parts, last⟩ := item
  cases hopen
  exact ⟨parts, h⟩

theorem open_opened_iff :
    Open (items ++ [.begin head]) i head' ↔ Open items i head' ∨ i = items.length ∧
      head' = head := by
  rcases Nat.lt_trichotomy i items.length with hlt | rfl | hgt
  · simp [Open, List.getElem?_append_left hlt, hlt.ne]
  · simp [Open, Item.begin, eq_comm]
  · simp [Open, List.getElem?_append_right hgt.le, hgt.ne', List.getElem?_eq_none hgt.le,
      Nat.sub_ne_zero_of_lt hgt]

section

variable (h : items[i]? = some item)

include h

theorem open_set_iff (item' : Item α β γ) :
    Open (items.set i item') j head' ↔
      if i = j then item'.head = head' ∧ item'.last = none else Open items j head' := by
  obtain ⟨head, parts, last⟩ := item'
  have hlt : i < items.length := (List.getElem?_eq_some_iff.mp h).1
  split_ifs with hij
  · subst hij
    simp [Open, hlt]
  · simp [Open, hij]

theorem open_part_iff (hopen : item.last = none) (part : β) :
    Open (items.set i (item.extend part)) j head' ↔ Open items j head' := by
  rw [open_set_iff h]
  split_ifs with hij
  · subst hij
    obtain ⟨head, parts, last⟩ := item
    simp [Open, h, Item.extend]
  · rfl

theorem open_closed_iff (last : γ) :
    Open (items.set i (item.close last)) j head' ↔ Open items j head' ∧ i ≠ j := by
  rw [open_set_iff h]
  split_ifs with hij
  · simp [Item.close, hij]
  · simp [hij]

theorem open_closed_of_ne (last : γ) (hne : item.head ≠ head') :
    Open (items.set i (item.close last)) j head' ↔ Open items j head' := by
  rw [open_closed_iff h, and_iff_left_iff_imp]
  rintro ⟨parts, hj⟩ rfl
  rw [h, Option.some.injEq] at hj
  exact hne (congrArg Item.head hj)

end

/-! ### The journal -/

/-- The entries tell what happened to the items: they were opened in their order, and what is said
about each is its record. -/
structure Tells (items : List (Item α β γ)) (entries : List (Entry α β γ)) : Prop where
  order : entries.filterMap Entry.opens = List.range items.length
  records : ∀ i, entries.filter (fun entry => entry.index = i) = items[i]?.elim [] (Item.record i)

theorem Tells.update (h : Tells items entries) (hi : items[i]? = some item)
    {item' : Item α β γ} (hindex : entry.index = i) (hopens : entry.opens = none)
    (hrecord : item'.record i = item.record i ++ [entry]) :
    Tells (items.set i item') (entries ++ [entry]) := by
  have hlt : i < items.length := (List.getElem?_eq_some_iff.mp hi).1
  refine ⟨by simp [h.order, hopens], fun j => ?_⟩
  rw [List.filter_append, h.records]
  by_cases hij : i = j
  · subst hij
    rw [hi, List.getElem?_set_self hlt]
    simp [hindex, hrecord]
  · simp [hindex, hij]

theorem Tells.step (h : Tells items entries) (hs : Step items entry items') :
    Tells items' (entries ++ [entry]) := by
  cases hs with
  | opened head =>
    refine ⟨by simp [h.order, Entry.opens, List.range_succ], fun i => ?_⟩
    rw [List.filter_append, h.records]
    rcases Nat.lt_trichotomy i items.length with hlt | rfl | hgt
    · simp [List.getElem?_append_left hlt, Entry.index, hlt.ne']
    · simp [Entry.index, Item.record, Item.begin]
    · have hbeyond : (items ++ [.begin head])[i]? = none := by
        rw [List.getElem?_eq_none_iff, List.length_append]
        exact hgt
      simp [hbeyond, List.getElem?_eq_none hgt.le, Entry.index, hgt.ne]
  | part hi hopen part => exact h.update hi rfl rfl (by simp [Item.record, Item.extend, hopen])
  | closed hi hopen last => exact h.update hi rfl rfl (by simp [Item.record, Item.close, hopen])

/-- **A run of steps.** -/
theorem Tells.steps (h : Tells items entries) (hs : Steps items new items') :
    Tells items' (entries ++ new) := by
  induction hs generalizing entries with
  | nil => rwa [List.append_nil]
  | cons hstep _ ih =>
    have hrest := ih (h.step hstep)
    rwa [List.append_assoc] at hrest

end CpaGateway.Lib.Journal
