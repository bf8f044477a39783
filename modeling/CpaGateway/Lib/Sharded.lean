import CpaGateway.Lib.Effect
import Mathlib.Data.List.AList

/-! # Bounded stores kept in shards

A store spreads its entries over shards by an index of their keys. Every operation goes through the
shard of one key; to its users the store is the partial map `get?`. A shard is bounded: `reserve`
makes room for one more entry by dropping the entries that need not be kept, and fails when that is
not enough. -/

namespace CpaGateway.Lib.Sharded

open Lib.Effect Lib.Fallible

variable {κ υ ε : Type} [DecidableEq κ]

/-- One shard: a finite map. -/
abbrev Shard (κ υ : Type) [DecidableEq κ] := AList fun _ : κ => υ

/-- The entries of a shard whose value satisfies `keep`. -/
def Shard.retain (keep : υ → Bool) (shard : Shard κ υ) : Shard κ υ :=
  ⟨shard.entries.filter fun entry => keep entry.2, shard.nodupKeys.sublist List.filter_sublist⟩

theorem Shard.lookup_retain (keep : υ → Bool) (shard : Shard κ υ) (k : κ) :
    (Shard.retain keep shard).lookup k = (shard.lookup k).filter keep := by
  apply Option.ext
  intro v
  rw [Option.filter_eq_some_iff, ← Option.mem_def, AList.mem_lookup_iff, ← Option.mem_def,
    AList.mem_lookup_iff]
  exact List.mem_filter

/-- Entries spread over shards by the index of their key. -/
structure Store (κ υ : Type) [DecidableEq κ] where
  index : κ → ℕ
  shards : ℕ → Shard κ υ

namespace Store

/-- No entries. -/
def empty (index : κ → ℕ) : Store κ υ where
  index := index
  shards _ := ∅

variable (s : Store κ υ) (k k' : κ) (v : υ) (keep : υ → Bool)

/-- The value stored at a key. -/
def get? : Option υ := (s.shards (s.index k)).lookup k

/-- The number of entries in the shard of a key. -/
def count : ℕ := (s.shards (s.index k)).keys.length

/-- The shard of a key, rewritten. -/
def onShard (f : Shard κ υ → Shard κ υ) : Store κ υ :=
  { s with shards := Function.update s.shards (s.index k) (f (s.shards (s.index k))) }

def insert : Store κ υ := s.onShard k (AList.insert k v)

def remove : Store κ υ := s.onShard k (AList.erase k)

/-- Drops the entries of the shard of `k` that need not be kept. -/
def retain : Store κ υ := s.onShard k (Shard.retain keep)

variable (f : Shard κ υ → Shard κ υ)

theorem index_onShard : (s.onShard k f).index = s.index := rfl

theorem shards_onShard (i : ℕ) :
    (s.onShard k f).shards i = if i = s.index k then f (s.shards (s.index k)) else s.shards i :=
  Function.update_apply ..

theorem get?_onShard :
    (s.onShard k f).get? k' =
      if s.index k' = s.index k then (f (s.shards (s.index k))).lookup k' else s.get? k' := by
  rw [get?, shards_onShard, index_onShard]
  split_ifs with h
  · rfl
  · rfl

@[simp] theorem get?_insert : (s.insert k v).get? k' = if k' = k then some v else s.get? k' := by
  rw [insert, get?_onShard]
  split_ifs with hi hk hk
  · rw [hk, AList.lookup_insert]
  · rw [AList.lookup_insert_ne hk, get?, hi]
  · exact absurd (congrArg s.index hk) hi
  · rfl

@[simp] theorem get?_remove : (s.remove k).get? k' = if k' = k then none else s.get? k' := by
  rw [remove, get?_onShard]
  split_ifs with hi hk hk
  · rw [hk, AList.lookup_erase]
  · rw [AList.lookup_erase_ne hk, get?, hi]
  · exact absurd (congrArg s.index hk) hi
  · rfl

theorem get?_retain :
    (s.retain k keep).get? k' =
      if s.index k' = s.index k then (s.get? k').filter keep else s.get? k' := by
  rw [retain, get?_onShard]
  split_ifs with hi
  · rw [Shard.lookup_retain, get?, hi]
  · rfl

theorem count_retain :
    (s.retain k keep).count k =
      ((s.shards (s.index k)).entries.filter fun entry => keep entry.2).length := by
  rw [retain, count, index_onShard, shards_onShard, if_pos rfl]
  exact List.length_map _

theorem count_retain_le : (s.retain k keep).count k ≤ s.count k := by
  rw [count_retain, count, AList.keys, List.keys, List.length_map]
  exact List.length_filter_le ..

theorem count_insert_of_none (h : s.get? k = none) :
    (s.insert k v).count k' = s.count k' + if s.index k' = s.index k then 1 else 0 := by
  rw [insert, count, count, index_onShard, shards_onShard]
  split_ifs with hindex
  · have hnew : k ∉ (s.shards (s.index k)).keys := AList.lookup_eq_none.mp h
    rw [AList.keys_insert, List.erase_of_not_mem hnew, List.length_cons, hindex]
  · rfl

/-- What is left out makes no later cleaning leave more. -/
theorem count_retain_retain_le (keep' : υ → Bool) :
    ((s.retain k keep).retain k keep').count k ≤ (s.retain k keep').count k := by
  rw [count_retain, count_retain, retain, index_onShard, shards_onShard, if_pos rfl]
  exact (List.filter_sublist.filter _).length_le

end Store

/-! ### Shards by hash -/

/-- The shard of a key: its hash under the mask of a number of shards that is a power of two. -/
def maskedIndex (hash : κ → ℕ) (count : ℕ) (k : κ) : ℕ := hash k &&& (count - 1)

/-! ### Room for one more entry -/

/-- No shard has more than `limit` entries. -/
def Bounded (limit : ℕ) (s : Store κ υ) : Prop := ∀ i, (s.shards i).keys.length ≤ limit

/-- Makes room for one more entry in the shard of `k`: when the shard is at its limit, the entries
that need not be kept are dropped, and the call fails if the shard is still at its limit. -/
def reserve (limit : ℕ) (keep : υ → Bool) (full : ε) (k : κ) : Method (Store κ υ) ε Unit := do
  if (← get).count k < limit then
    return
  modify (·.retain k keep)
  ensure (decide ((← get).count k < limit)) full

variable {limit : ℕ} {keep : υ → Bool} {full e : ε} {k : κ} {v : υ} {u : Unit} {s s' : Store κ υ}

theorem call_reserve :
    (reserve limit keep full k).call s =
      if s.count k < limit then (.ok (), s)
      else (if (s.retain k keep).count k < limit then .ok ()
        else .error full, s.retain k keep) := by
  unfold reserve
  split_ifs <;> simp [call_eq, *]

variable {r : Except ε Unit}

/-- Nothing is lost but entries that need not be kept. -/
theorem get?_reserve (h : (reserve limit keep full k).call s = (r, s')) (k' : κ) :
    s'.get? k' = s.get? k' ∨ ∃ v, s.get? k' = some v ∧ keep v = false ∧ s'.get? k' = none := by
  rw [call_reserve] at h
  split_ifs at h
  · cases h
    exact .inl rfl
  all_goals
    cases h
    rw [Store.get?_retain]
    split_ifs
    · rcases hv : s.get? k' with _ | v
      · exact .inl rfl
      · rcases hkeep : keep v with _ | _ <;> simp
    · exact .inl rfl

theorem count_of_reserve_ok (h : (reserve limit keep full k).call s = (.ok u, s')) :
    s'.count k < limit := by
  rw [call_reserve] at h
  split_ifs at h with hroom hroom'
  · cases h
    exact hroom
  · cases h
    exact hroom'
  · cases h

/-! ### The bound -/

variable (hs : Bounded limit s)

include hs

theorem Bounded.onShard {f : Shard κ υ → Shard κ υ}
    (hf : (f (s.shards (s.index k))).keys.length ≤ limit) : Bounded limit (s.onShard k f) := by
  intro i
  rw [Store.shards_onShard]
  split_ifs
  · exact hf
  · exact hs i

theorem Bounded.retain : Bounded limit (s.retain k keep) :=
  hs.onShard (le_trans (List.filter_sublist.map _).length_le (hs (s.index k)))

theorem Bounded.remove : Bounded limit (s.remove k) := by
  apply hs.onShard
  rw [AList.keys_erase]
  exact le_trans List.erase_sublist.length_le (hs (s.index k))

theorem Bounded.insert (hroom : s.count k < limit) : Bounded limit (s.insert k v) := by
  apply hs.onShard
  rw [AList.keys_insert]
  exact Nat.succ_le_of_lt (lt_of_le_of_lt List.erase_sublist.length_le hroom)

theorem Bounded.overwrite {w : υ} (hw : s.get? k = some w) : Bounded limit (s.insert k v) := by
  apply hs.onShard
  have hmem : k ∈ (s.shards (s.index k)).keys :=
    AList.lookup_isSome.mp (by rw [show (s.shards (s.index k)).lookup k = some w from hw]; rfl)
  rw [AList.keys_insert, List.length_cons, List.length_erase_of_mem hmem]
  have := hs (s.index k)
  have := List.length_pos_of_mem hmem
  omega

theorem Bounded.reserve (h : (reserve limit keep full k).call s = (r, s')) : Bounded limit s' := by
  rw [call_reserve] at h
  split_ifs at h <;> cases h
  · exact hs
  · exact hs.retain
  · exact hs.retain

/-- In a bounded store a call without success drops nothing: a shard that lost an entry has room. -/
theorem eq_of_reserve_error (h : (reserve limit keep full k).call s = (.error e, s')) : s' = s := by
  rw [call_reserve] at h
  split_ifs at h with hroom hroom'
  · cases h
  · cases h
  cases h
  rw [not_lt, Store.count, Store.retain, Store.shards_onShard, Store.index_onShard] at hroom'
  have hall : (Shard.retain keep (s.shards (s.index k))).entries =
      (s.shards (s.index k)).entries := by
    have hle := le_trans (hs (s.index k)) hroom'
    simp only [AList.keys, List.keys, List.length_map] at hle
    exact List.filter_sublist.eq_of_length_le hle
  rw [Store.retain, Store.onShard, AList.ext hall, Function.update_eq_self]

end CpaGateway.Lib.Sharded
