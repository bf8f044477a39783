import CpaGateway.Lib.Fallible
import CpaGateway.Lib.SmoothWeighted

/-! # Tiers of equal priority

Entries, each with its index in a list, are put in groups of equal priority; the groups are listed
in ascending priority. The slots of a group rotate over its entries by their weights. -/

namespace CpaGateway.Lib.Tiers

open SmoothWeighted

variable {α : Type} (priority weight : α → ℤ)

/-- The entries of each priority, in the order in which they came. -/
abbrev Groups (α : Type) := Std.TreeMap ℤ (List (α × ℕ))

/-- Puts an entry with the others of its priority. -/
def push (groups : Groups α) (entry : α × ℕ) : Groups α :=
  groups.alter (priority entry.1) fun entries => some (entries.getD [] ++ [entry])

/-- The groups are those of the entries `done`. -/
def Grouped (done : List (α × ℕ)) (groups : Groups α) : Prop :=
  ∀ p entries, groups[p]? = some entries ↔
    entries = done.filter (priority ·.1 = p) ∧ entries ≠ []

variable {priority weight} {done : List (α × ℕ)} {groups : Groups α}

theorem grouped_nil : Grouped priority [] ∅ := by
  intro p entries
  simp

theorem Grouped.getD (h : Grouped priority done groups) (p : ℤ) :
    (groups[p]?).getD [] = done.filter (priority ·.1 = p) := by
  cases hget : groups[p]? with
  | some entries => exact ((h _ _).mp hget).1
  | none =>
    by_contra hne
    have := (h p _).mpr ⟨rfl, Ne.symm hne⟩
    rw [hget] at this
    cases this

theorem Grouped.push (h : Grouped priority done groups) (entry : α × ℕ) :
    Grouped priority (done ++ [entry]) (push priority groups entry) := by
  intro p entries
  rw [Tiers.push, Std.TreeMap.getElem?_alter, List.filter_append]
  by_cases hp : priority entry.1 = p
  · subst hp
    have hself : [entry].filter (priority ·.1 = priority entry.1) = [entry] := by simp
    rw [if_pos (Std.compare_eq_iff_eq.mpr rfl), h.getD, hself, Option.some.injEq]
    constructor
    · rintro rfl
      exact ⟨rfl, by simp⟩
    · rintro ⟨rfl, -⟩
      rfl
  · rw [if_neg (mt Std.compare_eq_iff_eq.mp hp), h]
    simp [hp]

theorem Grouped.mem_toList (h : Grouped priority done groups) {group : ℤ × List (α × ℕ)} :
    group ∈ groups.toList ↔ group.2 = done.filter (priority ·.1 = group.1) ∧ group.2 ≠ [] := by
  rw [Std.TreeMap.mem_toList_iff_getElem?_eq_some, h]

theorem ascending_of_mapM {ε τ : Type} {f : ℤ × List (α × ℕ) → Except ε τ} {tiers : List τ}
    (tierPriority : τ → ℤ) (h : groups.toList.mapM f = .ok tiers)
    (hf : ∀ group tier, f group = .ok tier → tierPriority tier = group.1) :
    tiers.Pairwise (tierPriority · < tierPriority ·) := by
  have hordered : (groups.toList.map (·.1)).Pairwise (· < ·) := by
    rw [List.pairwise_map]
    exact Std.TreeMap.ordered_keys_toList.imp compare_lt_iff_lt.mp
  rw [← Fallible.map_of_mapM_ok h fun group _ tier => hf group tier] at hordered
  exact List.pairwise_map.mp hordered

variable (weight) in
/-- The slots of a group, as the indexes of its entries. -/
def weightedSlots (entries : List (α × ℕ)) : List ℕ :=
  (slots (entries.map (weight ·.1))).filterMap fun position =>
    (entries[position]?).map (·.2)

variable {entries : List (α × ℕ)}

theorem of_mem_weightedSlots {i : ℕ} (h : i ∈ weightedSlots weight entries) :
    ∃ entry ∈ entries, entry.2 = i := by
  obtain ⟨position, -, hget⟩ := List.mem_filterMap.mp h
  obtain ⟨entry, hentry, rfl⟩ := Option.map_eq_some_iff.mp hget
  exact ⟨entry, List.mem_of_getElem? hentry, rfl⟩

theorem mem_weightedSlots (hpos : ∀ entry ∈ entries, 0 < weight entry.1) (i : ℕ) :
    i ∈ weightedSlots weight entries ↔ ∃ entry ∈ entries, entry.2 = i := by
  refine ⟨of_mem_weightedSlots, ?_⟩
  rintro ⟨entry, hentry, rfl⟩
  have hweights : ∀ w ∈ entries.map (weight ·.1), 0 < w := by
    intro w hw
    obtain ⟨entry, hentry, rfl⟩ := List.mem_map.mp hw
    exact hpos entry hentry
  have hsum : 0 < (entries.map (weight ·.1)).sum :=
    List.sum_pos _ hweights (List.ne_nil_of_mem (List.mem_map_of_mem hentry))
  obtain ⟨position, hlt, hget⟩ := List.mem_iff_getElem.mp hentry
  refine List.mem_filterMap.mpr ⟨position, ?_, ?_⟩
  · rw [mem_slots hweights hsum, List.length_map]
    exact hlt
  · rw [List.getElem?_eq_getElem hlt, hget, Option.map_some]

theorem length_weightedSlots_le (entries : List (α × ℕ)) :
    (weightedSlots weight entries).length ≤ (entries.map (weight ·.1)).sum.toNat := by
  refine (List.length_filterMap_le _ _).trans ?_
  rw [slots, length_rounds]

end CpaGateway.Lib.Tiers
