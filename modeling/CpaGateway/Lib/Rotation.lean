import Mathlib.Algebra.GroupWithZero.Nat
import Mathlib.Algebra.Order.Group.Nat
import Mathlib.Data.List.Basic

/-! # Scans from a rotating cursor

A tier is a row of slots with a cursor of one machine word. A scan takes the cursor, moves it one on
and visits every slot once, from the taken position on; the addition wraps at the end of the word. A
probe of a slot finds something, lets the scan go on or stops it. Tiers are scanned in order, the
next one only after every slot of the one before let the scan go on. -/

namespace CpaGateway.Lib.Rotation

variable {α β σ τ : Type}

/-- The slots in the order in which a scan from `start` visits them. -/
def visits (start : UInt64) (slots : List α) : List α :=
  (List.range slots.length).filterMap fun offset =>
    slots[(start + UInt64.ofNat offset).toNat % slots.length]?

/-- What a probe says to the scan. -/
inductive Step (β : Type)
  | found (b : β)
  | next
  | stop
  deriving DecidableEq

/-- What a scan found. -/
def Step.toOption : Step β → Option β
  | .found b => some b
  | _ => none

/-- Probes one after the other, until one does not let the scan go on. -/
def scan (probe : α → σ → Step β × σ) : List α → σ → Step β × σ
  | [], s => (.next, s)
  | a :: rest, s =>
    match probe a s with
    | (.next, s') => scan probe rest s'
    | answer => answer

/-- Scans tier after tier, each from its cursor, which moves one on. -/
def scanTiers (slots : τ → List α) (probe : α → σ → Step β × σ) :
    List τ → List UInt64 → σ → Step β × List UInt64 × σ
  | tier :: tiers, cursor :: cursors, s =>
    match scan probe (visits cursor (slots tier)) s with
    | (.next, s') =>
      let (answer, cursors', s'') := scanTiers slots probe tiers cursors s'
      (answer, (cursor + 1) :: cursors', s'')
    | (answer, s') => (answer, (cursor + 1) :: cursors, s')
  | _, cursors, s => (.next, cursors, s)

/-! ### The visiting order -/

variable {a : α} {start : UInt64} {slots : List α}

theorem mem_of_mem_visits (h : a ∈ visits start slots) : a ∈ slots := by
  obtain ⟨offset, -, hget⟩ := List.mem_filterMap.mp h
  exact List.mem_of_getElem? hget

/-- The first slot visited is the one under the cursor. -/
theorem visits_cons (h : slots ≠ []) :
    ∃ a rest, slots[start.toNat % slots.length]? = some a ∧ visits start slots = a :: rest := by
  have hpos := List.length_pos_iff.mpr h
  have hlt := Nat.mod_lt start.toNat hpos
  have hzero : (start + UInt64.ofNat 0).toNat = start.toNat := by simp
  obtain ⟨n, hn⟩ := Nat.exists_eq_succ_of_ne_zero hpos.ne'
  simp only [visits]
  conv =>
    enter [1, a, 1, rest, 2, 1, 2]
    rw [hn, List.range_succ_eq_map]
  simp only [List.filterMap_cons, hzero, List.getElem?_eq_getElem hlt]
  exact ⟨_, _, rfl, rfl⟩

/-- Position `j` of `n` slots is reached from the cursor: its distance from the slot under the
cursor, counted around, is covered before the word wraps, or the additions left after that, which
count from zero, come to it. -/
def Reaches (start : UInt64) (n j : ℕ) : Prop :=
  j < 2 ^ 64 ∧
    ((j + n - start.toNat % n) % n < 2 ^ 64 - start.toNat ∨ j + 2 ^ 64 < start.toNat + n)

/-- All of `n` slots are reached: no addition wraps, or wrapping keeps the remainder. -/
def Covers (start : UInt64) (n : ℕ) : Prop := start.toNat + n ≤ 2 ^ 64 ∨ n ∣ 2 ^ 64

variable {n j : ℕ}

theorem toNat_add_offset (offset : ℕ) :
    (start + UInt64.ofNat offset).toNat = (start.toNat + offset) % 2 ^ 64 := by
  rw [UInt64.toNat_add, UInt64.toNat_ofNat', Nat.add_mod_mod]

/-- An offset leads from the cursor to `j` iff it is the distance counted around. -/
theorem add_mod_eq_iff {offset : ℕ} (hj : j < n) (ho : offset < n) :
    (start.toNat + offset) % n = j ↔ (j + n - start.toNat % n) % n = offset := by
  have hr := Nat.mod_lt start.toNat (Nat.zero_lt_of_lt hj)
  rw [Nat.add_mod, Nat.mod_eq_of_lt ho]
  generalize start.toNat % n = r at hr ⊢
  have hsum : (r + offset) % n = if r + offset < n then r + offset else r + offset - n := by
    split_ifs with h
    · exact Nat.mod_eq_of_lt h
    · rw [Nat.mod_eq_sub_mod (Nat.le_of_not_lt h), Nat.mod_eq_of_lt (by omega)]
  have hdistance : (j + n - r) % n = if j < r then j + n - r else j - r := by
    split_ifs with h
    · exact Nat.mod_eq_of_lt (by omega)
    · rw [Nat.mod_eq_sub_mod (by omega), Nat.mod_eq_of_lt (by omega)]
      omega
  rw [hsum, hdistance]
  split_ifs <;> omega

theorem reaches_iff (hj : j < n) :
    Reaches start n j ↔ ∃ offset < n, (start + UInt64.ofNat offset).toNat % n = j := by
  have hstart := start.toNat_lt
  simp only [toNat_add_offset]
  constructor
  · rintro ⟨hword, hbefore | hafter⟩
    · have hlt : (j + n - start.toNat % n) % n < n := Nat.mod_lt _ (Nat.zero_lt_of_lt hj)
      refine ⟨_, hlt, ?_⟩
      rw [Nat.mod_eq_of_lt (a := start.toNat + _) (by omega), add_mod_eq_iff hj hlt]
    · refine ⟨j + 2 ^ 64 - start.toNat, by omega, ?_⟩
      rw [Nat.add_sub_cancel' (by omega), Nat.add_mod_right, Nat.mod_eq_of_lt hword,
        Nat.mod_eq_of_lt hj]
  · rintro ⟨offset, ho, hoffset⟩
    have hle := Nat.mod_le ((start.toNat + offset) % 2 ^ 64) n
    refine ⟨by omega, ?_⟩
    rcases Nat.lt_or_ge (start.toNat + offset) (2 ^ 64) with hlt | hge
    · rw [Nat.mod_eq_of_lt hlt, add_mod_eq_iff hj ho] at hoffset
      exact .inl (by omega)
    · exact .inr (by omega)

theorem Covers.reaches (h : Covers start n) (hj : j < n) : Reaches start n j := by
  have hlt : (j + n - start.toNat % n) % n < n := Nat.mod_lt _ (Nat.zero_lt_of_lt hj)
  refine (reaches_iff hj).mpr ⟨_, hlt, ?_⟩
  rw [toNat_add_offset]
  rcases h with h | h
  · rw [Nat.mod_eq_of_lt (a := start.toNat + _) (by omega), add_mod_eq_iff hj hlt]
  · rw [Nat.mod_mod_of_dvd _ h, add_mod_eq_iff hj hlt]

/-- A scan visits the slots at the positions that are reached. -/
theorem mem_visits_iff : a ∈ visits start slots ↔
    ∃ j, slots[j]? = some a ∧ Reaches start slots.length j := by
  have hlt : ∀ {j}, slots[j]? = some a → j < slots.length :=
    fun h => (List.getElem?_eq_some_iff.mp h).1
  simp only [visits, List.mem_filterMap, List.mem_range]
  constructor
  · rintro ⟨offset, ho, hget⟩
    exact ⟨_, hget, (reaches_iff (hlt hget)).mpr ⟨offset, ho, rfl⟩⟩
  · rintro ⟨j, hget, hreaches⟩
    obtain ⟨offset, ho, rfl⟩ := (reaches_iff (hlt hget)).mp hreaches
    exact ⟨offset, ho, hget⟩

theorem mem_visits (h : Covers start slots.length) : a ∈ visits start slots ↔ a ∈ slots := by
  refine ⟨mem_of_mem_visits, fun ha => mem_visits_iff.mpr ?_⟩
  obtain ⟨j, hj, hget⟩ := List.mem_iff_getElem.mp ha
  exact ⟨j, List.getElem?_eq_some_iff.mpr ⟨hj, hget⟩, h.reaches hj⟩

/-! ### Scans -/

variable {probe : α → σ → Step β × σ}

section Preserves

variable (P : σ → Prop) (hprobe : ∀ a s, P s → P (probe a s).2)

include hprobe

theorem scan_preserves (l : List α) (s : σ) (h : P s) : P (scan probe l s).2 := by
  fun_induction scan probe l s with
  | case1 s => exact h
  | case2 a rest s s' hnext ih => exact ih (by simpa [hnext] using hprobe a s h)
  | case3 a rest s hends => exact hprobe a s h

theorem scanTiers_preserves (slots : τ → List α) (tiers : List τ) (cursors : List UInt64) (s : σ)
    (h : P s) : P (scanTiers slots probe tiers cursors s).2.2 := by
  have hscan := scan_preserves P hprobe
  fun_induction scanTiers slots probe tiers cursors s with
  | case1 tier tiers cursor cursors s s' hnext answer cursors' s'' hrest ih =>
    have hs' : P s' := by simpa [hnext] using hscan (visits cursor (slots tier)) s h
    simpa [hrest] using ih hs'
  | case2 tier tiers cursor cursors s answer s' _ hends =>
    simpa [hends] using hscan (visits cursor (slots tier)) s h
  | case3 cursors s _ => exact h

end Preserves

@[simp] theorem length_scanTiers (slots : τ → List α) (probe : α → σ → Step β × σ)
    (tiers : List τ) (cursors : List UInt64) (s : σ) :
    (scanTiers slots probe tiers cursors s).2.1.length = cursors.length := by
  fun_induction scanTiers slots probe tiers cursors s <;> simp_all

/-- All slots that tiers can visit, in the order of the visits. -/
def order (slots : τ → List α) : List τ → List UInt64 → List α
  | tier :: tiers, cursor :: cursors => visits cursor (slots tier) ++ order slots tiers cursors
  | _, _ => []

theorem scan_append (probe : α → σ → Step β × σ) (l l' : List α) (s : σ) :
    scan probe (l ++ l') s =
      match scan probe l s with
      | (.next, s') => scan probe l' s'
      | answer => answer := by
  fun_induction scan probe l s <;> simp_all [scan]

theorem scanTiers_eq_scan (slots : τ → List α) (probe : α → σ → Step β × σ) (tiers : List τ)
    (cursors : List UInt64) (s : σ) :
    ((scanTiers slots probe tiers cursors s).1, (scanTiers slots probe tiers cursors s).2.2) =
      scan probe (order slots tiers cursors) s := by
  fun_induction scanTiers slots probe tiers cursors s <;> simp_all [order, scan_append, scan]

/-- A scan whose probes find `f e` at the eligible entries `e` and pass the others by finds it at
the first eligible entry, or changes nothing. -/
theorem scan_first {ε : Type} {entry : α → Option ε} {ok : ε → Bool}
    {f : ε → β} {s : σ} {l : List α} (h : ∀ a ∈ l, ∃ e, entry a = some e ∧
      if ok e then (probe a s).1 = .found (f e) else probe a s = (.next, s)) :
    (scan probe l s).1.toOption = ((l.filterMap entry).find? ok).map f ∧
      ((scan probe l s).1.toOption = none → scan probe l s = (.next, s)) := by
  induction l with
  | nil => exact ⟨rfl, fun _ => rfl⟩
  | cons a l ih =>
    obtain ⟨e, hentry, hprobe⟩ := h a List.mem_cons_self
    rw [List.filterMap_cons_some hentry, List.find?_cons, scan]
    cases hok : ok e with
    | false =>
      rw [if_neg (by simp [hok])] at hprobe
      rw [hprobe]
      exact ih fun b hb => h b (List.mem_cons_of_mem _ hb)
    | true =>
      rw [if_pos hok] at hprobe
      generalize probe a s = answer at hprobe ⊢
      obtain ⟨_, s'⟩ := answer
      subst hprobe
      exact ⟨rfl, fun h => nomatch h⟩

/-- Something was found where `R` holds of it, or nothing was found and `I` still holds. -/
def Ended (I : σ → Prop) (R : β → σ → Prop) : Step β × σ → Prop
  | (.found b, s) => R b s
  | (.next, s) | (.stop, s) => I s

/-- The rule for a scan: what every slot that is let go by preserves holds where nothing is found,
and what is found was found from there. -/
theorem scan_ends {I : σ → Prop} {R : β → σ → Prop}
    (hprobe : ∀ a s, I s → Ended I R (probe a s)) (l : List α) {s : σ} (hs : I s) :
    Ended I R (scan probe l s) := by
  fun_induction scan probe l s with
  | case1 s => exact hs
  | case2 a rest s s' hnext ih => exact ih (by simpa [hnext, Ended] using hprobe a s hs)
  | case3 a rest s hends => exact hprobe a s hs

variable {tiers : List τ} {cursors : List UInt64} {slots : τ → List α}

theorem cursors_of_next {s : σ} (hlen : cursors.length = tiers.length)
    (h : (scanTiers slots probe tiers cursors s).1 = .next) :
    (scanTiers slots probe tiers cursors s).2.1 = cursors.map (· + 1) := by
  induction tiers generalizing cursors s with
  | nil =>
    obtain rfl := List.length_eq_zero_iff.mp hlen
    rfl
  | cons tier tiers ih =>
    obtain ⟨cursor, cursors, rfl⟩ := List.exists_cons_of_length_eq_add_one hlen
    simp only [scanTiers] at h ⊢
    generalize scan probe (visits cursor (slots tier)) s = answer at h ⊢
    rcases answer with ⟨_ | _ | _, s'⟩
    · cases h
    · simpa using ih (Nat.succ.inj hlen) h
    · cases h

theorem length_order_le (slots : τ → List α) (tiers : List τ) (cursors : List UInt64) :
    (order slots tiers cursors).length ≤ (tiers.map fun tier => (slots tier).length).sum := by
  fun_induction order slots tiers cursors with
  | case1 tier tiers cursor cursors ih =>
    have hvisits : (visits cursor (slots tier)).length ≤ (slots tier).length := by
      refine (List.length_filterMap_le _ _).trans ?_
      rw [List.length_range]
    simp only [List.length_append, List.map_cons, List.sum_cons]
    omega
  | case2 => exact Nat.zero_le _

theorem of_mem_order (h : a ∈ order slots tiers cursors) : ∃ tier ∈ tiers, a ∈ slots tier := by
  fun_induction order slots tiers cursors with
  | case1 tier tiers cursor cursors ih =>
    rcases List.mem_append.mp h with h | h
    · exact ⟨tier, List.mem_cons_self, mem_of_mem_visits h⟩
    · obtain ⟨other, hother, ha⟩ := ih h
      exact ⟨other, List.mem_cons_of_mem _ hother, ha⟩
  | case2 => cases h

theorem mem_order (hlen : cursors.length = tiers.length)
    (hwrap : ∀ cursor ∈ cursors, ∀ tier ∈ tiers, cursor.toNat + (slots tier).length ≤ 2 ^ 64) :
    a ∈ order slots tiers cursors ↔ ∃ tier ∈ tiers, a ∈ slots tier := by
  refine ⟨of_mem_order, ?_⟩
  rintro ⟨tier, htier, ha⟩
  induction tiers generalizing cursors with
  | nil => cases htier
  | cons first tiers ih =>
    obtain ⟨cursor, cursors, rfl⟩ := List.exists_cons_of_length_eq_add_one hlen
    rcases List.mem_cons.mp htier with rfl | htier
    · refine List.mem_append_left _ ((mem_visits (.inl ?_)).mpr ha)
      exact hwrap cursor List.mem_cons_self tier List.mem_cons_self
    · refine List.mem_append_right _ (ih (Nat.succ.inj hlen) (fun c hc t ht => ?_) htier)
      exact hwrap c (List.mem_cons_of_mem _ hc) t (List.mem_cons_of_mem _ ht)

/-! ### Answers of a search -/

section Answers

variable (slots : τ → List α) (ok : α → Bool)

/-- The answer is an eligible slot of the first tier that has one, or nothing if no tier has one. -/
def Right : List τ → Option α → Prop
  | [], answer => answer = none
  | tier :: tiers, answer =>
    if (slots tier).any ok then ∃ a ∈ slots tier, ok a ∧ answer = some a else Right tiers answer

/-- In the first tier that has eligible slots, none of them stands at a position that is reached
from the cursor. -/
def Misses : List τ → List UInt64 → Prop
  | tier :: tiers, cursor :: cursors =>
    if (slots tier).any ok then
      ∀ j a, (slots tier)[j]? = some a → ok a → ¬ Reaches cursor (slots tier).length j
    else Misses tiers cursors
  | _, _ => False

variable {slots ok}

theorem not_misses (h : ∀ p ∈ tiers.zip cursors, Covers p.2 (slots p.1).length) :
    ¬ Misses slots ok tiers cursors := by
  fun_induction Misses slots ok tiers cursors with
  | case1 tier tiers cursor cursors htier =>
    obtain ⟨a, ha, hok⟩ := List.any_eq_true.mp htier
    obtain ⟨j, hj, hget⟩ := List.mem_iff_getElem.mp ha
    have hcovers := (List.forall_mem_cons.mp h).1
    exact fun hmiss => hmiss j a (List.getElem?_eq_some_iff.mpr ⟨hj, hget⟩) hok (hcovers.reaches hj)
  | case2 tier tiers cursor cursors htier ih => exact ih (List.forall_mem_cons.mp h).2
  | case3 => exact id

/-- A search answers rightly iff it does not miss. -/
theorem right_find_order (hlen : cursors.length = tiers.length)
    (hapart : tiers.Pairwise fun t t' => ∀ a ∈ slots t, a ∉ slots t') :
    Right slots ok tiers ((order slots tiers cursors).find? ok) ↔
      ¬ Misses slots ok tiers cursors := by
  induction tiers generalizing cursors with
  | nil => simp [Right, Misses, order]
  | cons tier tiers ih =>
    obtain ⟨cursor, cursors, rfl⟩ := List.exists_cons_of_length_eq_add_one hlen
    obtain ⟨hfirst, hrest⟩ := List.pairwise_cons.mp hapart
    rw [Right, Misses, order, List.find?_append]
    by_cases htier : (slots tier).any ok
    · rw [if_pos htier, if_pos htier]
      rcases hfind : (visits cursor (slots tier)).find? ok with _ | a
      · -- what a later tier answers is no slot of this one
        refine iff_of_false ?_ (not_not.mpr fun j a hget hok hreaches => ?_)
        · rintro ⟨a, ha, -, hanswer⟩
          obtain ⟨other, hother, hmem⟩ := of_mem_order (List.mem_of_find?_eq_some hanswer)
          exact hfirst other hother a ha hmem
        · exact List.find?_eq_none.mp hfind a (mem_visits_iff.mpr ⟨j, hget, hreaches⟩) hok
      · have hmem := List.mem_of_find?_eq_some hfind
        have hok := List.find?_some hfind
        obtain ⟨j, hget, hreaches⟩ := mem_visits_iff.mp hmem
        exact iff_of_true ⟨a, mem_of_mem_visits hmem, hok, rfl⟩ fun hmiss =>
          hmiss j a hget hok hreaches
    · have hnone : (visits cursor (slots tier)).find? ok = none := by
        refine List.find?_eq_none.mpr fun a ha hok => htier ?_
        exact List.any_eq_true.mpr ⟨a, mem_of_mem_visits ha, hok⟩
      rw [if_neg htier, if_neg htier, hnone]
      exact ih (Nat.succ.inj hlen) hrest

end Answers

end CpaGateway.Lib.Rotation
