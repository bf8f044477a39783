import CpaGateway.Lib.Effect
import Mathlib.Order.Lattice

/-! # Delimited frames in a growing buffer

A text is a sequence of frames, each closed by a delimiter, and `Delimiter.next` reads the leftmost
frame off a text. `FrameBuffer` does the same on a buffer that grows by chunks and keeps two
offsets: what was read, and how far the search for a delimiter has come. -/

namespace CpaGateway.Lib.Framing

open Lib.Effect Lib.Fallible

variable {α : Type}

/-! ### Frames of a text -/

/-- A delimiter: `atFront` gives its length if the text starts with one. A text that starts with one
only by what is appended is shorter than it and holds no other delimiter. -/
structure Delimiter (α : Type) where
  atFront : List α → Option ℕ
  width : ℕ
  pos : ∀ {l n}, atFront l = some n → 0 < n
  le_width : ∀ {l n}, atFront l = some n → n ≤ width
  le_length : ∀ {l n}, atFront l = some n → n ≤ l.length
  stable : ∀ {l n} (m), atFront l = some n → atFront (l ++ m) = some n
  late : ∀ {l m n}, atFront l = none → atFront (l ++ m) = some n →
    l.length < n ∧ ∀ p, atFront (l.drop p) = none

namespace Delimiter

variable (D : Delimiter α)

/-- The position and the length of the leftmost delimiter of `suffix`, which starts at `position`.
-/
def scan (position : ℕ) : (suffix : List α) → Option (ℕ × ℕ)
  | [] => none
  | a :: l =>
    match D.atFront (a :: l) with
    | some n => some (position, n)
    | none => scan (position + 1) l

/-- The leftmost frame of a text and what follows its delimiter. -/
def next (l : List α) : Option (List α × List α) :=
  (D.scan 0 l).map fun found => (l.take found.1, l.drop (found.1 + found.2))

variable {D} {l m : List α} {i k p n : ℕ}

theorem atFront_nil : D.atFront [] = none := by
  rcases h : D.atFront [] with _ | n
  · rfl
  · have hpos := D.pos h
    have hle := D.le_length h
    simp only [List.length_nil] at hle
    omega

variable {a : α}

theorem scan_cons_some (h : D.atFront (a :: l) = some n) : D.scan i (a :: l) = some (i, n) := by
  rw [scan, h]

theorem scan_cons_none (h : D.atFront (a :: l) = none) : D.scan i (a :: l) = D.scan (i + 1) l := by
  rw [scan, h]

theorem atFront_of_scan (h : D.scan i l = some (p, n)) :
    i ≤ p ∧ D.atFront (l.drop (p - i)) = some n := by
  fun_induction D.scan i l with
  | case1 => cases h
  | case2 i a l n' ha =>
    obtain ⟨rfl, rfl⟩ := Option.some.inj h
    rw [Nat.sub_self]
    exact ⟨le_rfl, ha⟩
  | case3 i a l ha ih =>
    obtain ⟨hle, hfront⟩ := ih h
    rw [show p - i = p - (i + 1) + 1 by omega]
    exact ⟨by omega, hfront⟩

theorem scan_some (h : D.scan i l = some (p, n)) : i ≤ p ∧ p + n ≤ i + l.length ∧ 0 < n := by
  obtain ⟨hle, hfront⟩ := atFront_of_scan h
  have hpos := D.pos hfront
  have hlength := D.le_length hfront
  rw [List.length_drop] at hlength
  exact ⟨hle, by omega, hpos⟩

theorem scan_none (h : D.scan i l = none) (p : ℕ) : D.atFront (l.drop p) = none := by
  fun_induction D.scan i l generalizing p with
  | case1 => rw [List.drop_nil, atFront_nil]
  | case2 => cases h
  | case3 i a l ha ih =>
    cases p with
    | zero => exact ha
    | succ p => exact ih h p

theorem scan_eq_none (h : ∀ p, D.atFront (l.drop p) = none) : D.scan i l = none := by
  induction l generalizing i with
  | nil => rfl
  | cons a l ih =>
    rw [scan_cons_none (h 0)]
    exact ih fun p => h (p + 1)

theorem scan_skip (h : ∀ p < k, D.atFront (l.drop p) = none) (hk : k ≤ l.length) :
    D.scan i l = D.scan (i + k) (l.drop k) := by
  induction k generalizing i l with
  | zero => rfl
  | succ k ih =>
    cases l with
    | nil => simp at hk
    | cons a l =>
      rw [scan_cons_none (h 0 (by omega)), ih (fun p hp => h (p + 1) (by omega))
        (by simpa using hk)]
      congr 1
      omega

theorem scan_add : D.scan (i + k) l = (D.scan i l).map fun found => (found.1 + k, found.2) := by
  fun_induction D.scan i l with
  | case1 => rfl
  | case2 i a l n ha => rw [scan_cons_some ha, Option.map_some, Nat.add_comm]
  | case3 i a l ha ih => rw [scan_cons_none ha, Nat.add_right_comm, ih]

theorem scan_append (h : D.scan i l = some (p, n)) : D.scan i (l ++ m) = some (p, n) := by
  fun_induction D.scan i l with
  | case1 => cases h
  | case2 i a l n' ha =>
    have hmore : D.atFront (a :: (l ++ m)) = some n' := D.stable m ha
    rw [List.cons_append, scan_cons_some hmore]
    exact h
  | case3 i a l ha ih =>
    -- a delimiter that begins here and ends in `m` would leave no room for the one found
    have hmore : D.atFront (a :: (l ++ m)) = none := by
      rcases hl : D.atFront (a :: (l ++ m)) with _ | n''
      · rfl
      · have hno := (D.late ha hl).2
        rw [scan_eq_none fun p => hno (p + 1)] at h
        cases h
    rw [List.cons_append, scan_cons_none hmore]
    exact ih h

variable {frame rest : List α}

theorem next_append (h : D.next l = some (frame, rest)) :
    D.next (l ++ m) = some (frame, rest ++ m) := by
  simp only [next, Option.map_eq_some_iff] at h ⊢
  obtain ⟨⟨p, n⟩, hscan, heq⟩ := h
  obtain ⟨-, hle, hn⟩ := scan_some hscan
  obtain ⟨rfl, rfl⟩ := Prod.mk.inj heq
  refine ⟨(p, n), scan_append hscan, ?_⟩
  rw [List.take_append_of_le_length (by omega), List.drop_append_of_le_length (by omega)]

theorem next_lt (h : D.next l = some (frame, rest)) : rest.length < l.length := by
  simp only [next, Option.map_eq_some_iff] at h
  obtain ⟨⟨p, n⟩, hscan, heq⟩ := h
  obtain ⟨-, hle, hn⟩ := scan_some hscan
  obtain ⟨-, rfl⟩ := Prod.mk.inj heq
  simp only [List.length_drop]
  omega

/-- A frame that one more element completes ends with it. -/
theorem next_snoc (hl : D.next l = none) (h : D.next (l ++ [a]) = some (frame, rest)) :
    rest = [] := by
  simp only [next, Option.map_eq_none_iff, Option.map_eq_some_iff] at hl h
  obtain ⟨⟨p, n⟩, hscan, heq⟩ := h
  obtain ⟨-, rfl⟩ := Prod.mk.inj heq
  have hfront := (atFront_of_scan hscan).2
  obtain ⟨-, hle, hn⟩ := scan_some hscan
  simp only [List.length_append, List.length_singleton] at hle hfront
  refine List.drop_eq_nil_of_le ?_
  have hshort : (l.drop p).length < n := by
    refine (D.late (m := [a]) (scan_none hl p) ?_).1
    rwa [List.drop_append_of_le_length (by omega)] at hfront
  simp only [List.length_append, List.length_singleton, List.length_drop] at hshort ⊢
  omega

end Delimiter

/-! ### The buffer -/

/-- The bytes before `consumed` belong to frames already taken, and no delimiter starts between
`consumed` and `scanned`. -/
structure FrameBuffer (α : Type) where
  buffer : List α := []
  consumed : ℕ := 0
  scanned : ℕ := 0

namespace FrameBuffer

variable (D : Delimiter α) (b : FrameBuffer α)

/-- The part that was not taken yet. -/
def live : List α := b.buffer.drop b.consumed

/-- Drops the taken part once it outweighs the live one. -/
def compact : FrameBuffer α :=
  if b.buffer.length - b.consumed ≤ b.consumed then
    { buffer := b.buffer.drop b.consumed, consumed := 0, scanned := b.scanned - b.consumed }
  else b

/-- Appends a chunk, if the live part stays within the limit. -/
def append {ε : Type} (limit : ℕ) (e : ε) (chunk : List α) : Method (FrameBuffer α) ε Unit := do
  modify compact
  let b ← get
  ensure (b.buffer.length - b.consumed + chunk.length ≤ limit) e
  modify fun b => { b with buffer := b.buffer ++ chunk }

/-- Takes the next frame, resuming the search where it last stopped. A delimiter that a later chunk
completes starts at most `width - 1` places before the end. -/
def takeFrame : Option (List α) × FrameBuffer α :=
  let start := max b.scanned b.consumed
  match D.scan start (b.buffer.drop start) with
  | none => (none, { b with scanned := max (b.buffer.length - (D.width - 1)) b.consumed })
  | some (position, length) =>
    (some ((b.buffer.take position).drop b.consumed),
      { b with consumed := position + length, scanned := position + length })

/-- What the offsets promise. -/
structure Sound : Prop where
  consumed_le : b.consumed ≤ b.scanned
  scanned_le : b.scanned ≤ b.buffer.length
  clear : ∀ p, b.consumed ≤ p → p < b.scanned → D.atFront (b.buffer.drop p) = none
  margin : b.scanned = b.consumed ∨ b.scanned + (D.width - 1) ≤ b.buffer.length

variable {D b}

theorem sound_empty : Sound D {} :=
  ⟨le_rfl, le_rfl, fun _ _ hp => absurd hp (Nat.not_lt_zero _), .inl rfl⟩

theorem length_live : b.live.length = b.buffer.length - b.consumed := by
  simp [live]

theorem live_compact : b.compact.live = b.live := by
  unfold compact live
  split_ifs <;> simp

theorem sound_compact (h : Sound D b) : Sound D b.compact := by
  unfold compact
  split_ifs with hc
  · refine ⟨Nat.zero_le _, ?_, ?_, ?_⟩
    · have := h.scanned_le
      simp only [List.length_drop]
      omega
    · intro p _ hp
      rw [List.drop_drop]
      exact h.clear _ (by omega) (by simp only at hp; omega)
    · simp only [List.length_drop]
      rcases h.margin with hm | hm <;> omega
  · exact h

theorem consumed_compact : b.compact.consumed ≤ b.live.length := by
  unfold compact
  split_ifs with hc
  · exact Nat.zero_le _
  · rw [length_live]
    omega

theorem sound_extend (h : Sound D b) (chunk : List α) :
    Sound D { b with buffer := b.buffer ++ chunk } := by
  refine ⟨h.consumed_le, ?_, ?_, ?_⟩
  · have := h.scanned_le
    simp only [List.length_append]
    omega
  · intro p h₁ h₂
    have hroom : b.scanned + (D.width - 1) ≤ b.buffer.length := by
      rcases h.margin with hm | hm
      · simp only at h₁ h₂
        omega
      · exact hm
    simp only at h₂ ⊢
    rw [List.drop_append_of_le_length (by omega)]
    rcases hl : D.atFront (b.buffer.drop p ++ chunk) with _ | n
    · rfl
    · have hshort := (D.late (h.clear p h₁ h₂) hl).1
      have hwidth := D.le_width hl
      rw [List.length_drop] at hshort
      omega
  · rcases h.margin with hm | hm
    · exact .inl hm
    · simp only [List.length_append]
      omega

section Append

variable {ε : Type} {limit : ℕ} {e : ε} {chunk : List α}

/-- An append compacts first, and appends if the live part leaves room. -/
theorem call_append :
    (append limit e chunk).call b =
      if b.live.length + chunk.length ≤ limit then
        (.ok (), { b.compact with buffer := b.compact.buffer ++ chunk })
      else (.error e, b.compact) := by
  have hlen : b.compact.buffer.length - b.compact.consumed = b.live.length := by
    rw [← live_compact, length_live]
  simp only [append, call_eq, hlen, decide_eq_true_eq]
  split_ifs <;> rfl

theorem live_append (h : Sound D b) :
    live { b.compact with buffer := b.compact.buffer ++ chunk } = b.live ++ chunk := by
  have hc := sound_compact h
  have hle := hc.consumed_le.trans hc.scanned_le
  rw [← live_compact (b := b), live, live, List.drop_append_of_le_length hle]

theorem sound_append (h : Sound D b) : Sound D ((append limit e chunk).call b).2 := by
  rw [call_append]
  split_ifs
  · exact sound_extend (sound_compact h) chunk
  · exact sound_compact h

/-- The buffer holds at most twice the limit. -/
def Within (limit : ℕ) (b : FrameBuffer α) : Prop :=
  b.live.length ≤ limit ∧ b.buffer.length ≤ 2 * limit

theorem within_append (h : Within limit b) : Within limit ((append limit e chunk).call b).2 := by
  have hcons := consumed_compact (b := b)
  have hlive := live_compact (b := b)
  have hlen := congrArg List.length hlive
  rw [length_live] at hlen
  have hb := h.1
  rw [call_append]
  split_ifs with hroom
  · refine ⟨?_, ?_⟩
    · simp only [live, List.length_drop, List.length_append]
      omega
    · simp only [List.length_append]
      omega
  · refine ⟨hlive ▸ hb, ?_⟩
    simp only
    omega

end Append

/-! ### Taking a frame -/

theorem scan_live (h : Sound D b) :
    D.scan (max b.scanned b.consumed) (b.buffer.drop (max b.scanned b.consumed)) =
      (D.scan 0 b.live).map fun found => (found.1 + b.consumed, found.2) := by
  have hle := h.consumed_le
  have hlen := h.scanned_le
  have hclear : ∀ p < b.scanned - b.consumed, D.atFront (b.live.drop p) = none := by
    intro p hp
    rw [live, List.drop_drop]
    exact h.clear _ (by omega) (by omega)
  have hroom : b.scanned - b.consumed ≤ b.live.length := by
    rw [length_live]
    omega
  rw [← Delimiter.scan_add, Delimiter.scan_skip hclear hroom, live, List.drop_drop,
    max_eq_left hle]
  congr 2 <;> omega

/-- **The resumed search is the full one**: the frame taken is the leftmost of the live part. -/
theorem takeFrame_spec (h : Sound D b) :
    (b.takeFrame D).1 = (D.next b.live).map (·.1) ∧
      (b.takeFrame D).2.live = ((D.next b.live).map (·.2)).getD b.live := by
  unfold takeFrame Delimiter.next
  simp only [scan_live h]
  rcases hs : D.scan 0 b.live with _ | ⟨p, n⟩
  · exact ⟨rfl, rfl⟩
  · simp only [Option.map_some, live, List.drop_drop]
    refine ⟨?_, ?_⟩
    · rw [List.drop_take, Nat.add_sub_cancel]
    · congr 1
      omega

theorem takeFrame_none (hnone : (b.takeFrame D).1 = none) :
    (b.takeFrame D).2 =
        { b with scanned := max (b.buffer.length - (D.width - 1)) b.consumed } ∧
      D.scan (max b.scanned b.consumed) (b.buffer.drop (max b.scanned b.consumed)) = none := by
  unfold takeFrame at hnone ⊢
  simp only at hnone ⊢
  split at hnone
  · rename_i hs
    rw [hs]
    exact ⟨rfl, rfl⟩
  · cases hnone

theorem takeFrame_some {frame : List α} (hsome : (b.takeFrame D).1 = some frame) :
    ∃ offset, (b.takeFrame D).2 = { b with consumed := offset, scanned := offset } ∧
      b.consumed < offset ∧ offset ≤ b.buffer.length := by
  unfold takeFrame at hsome ⊢
  simp only at hsome ⊢
  split at hsome
  · cases hsome
  · rename_i p n hs
    obtain ⟨h₁, h₂, h₃⟩ := Delimiter.scan_some hs
    rw [List.length_drop] at h₂
    refine ⟨p + n, rfl, by omega, ?_⟩
    rcases le_or_gt (max b.scanned b.consumed) b.buffer.length with hle | hlt
    · omega
    · rw [List.drop_eq_nil_of_le (by omega)] at hs
      cases hs

theorem sound_takeFrame (h : Sound D b) : Sound D (b.takeFrame D).2 := by
  have hcs := h.consumed_le
  have hle := h.scanned_le
  rcases hf : (b.takeFrame D).1 with _ | frame
  · obtain ⟨heq, hs⟩ := takeFrame_none hf
    rw [max_eq_left hcs] at hs
    rw [heq]
    refine ⟨le_max_right _ _, by simp only; omega, ?_, ?_⟩
    · intro p h₁ h₂
      rcases lt_or_ge p b.scanned with hp | hp
      · exact h.clear p h₁ hp
      · have := Delimiter.scan_none hs (p - b.scanned)
        rwa [List.drop_drop, Nat.add_sub_cancel' hp] at this
    · simp only
      omega
  · obtain ⟨offset, heq, h₁, h₂⟩ := takeFrame_some hf
    rw [heq]
    exact ⟨le_rfl, h₂, fun p hp hp' => absurd hp (Nat.not_le.mpr hp'), .inl rfl⟩

theorem within_takeFrame {limit : ℕ} (h : Within limit b) : Within limit (b.takeFrame D).2 := by
  have hlive := h.1
  rw [length_live] at hlive
  rcases hf : (b.takeFrame D).1 with _ | frame
  · rw [(takeFrame_none hf).1]
    exact h
  · obtain ⟨offset, heq, h₁, h₂⟩ := takeFrame_some hf
    rw [heq]
    refine ⟨?_, h.2⟩
    rw [length_live]
    simp only
    omega

end FrameBuffer

end CpaGateway.Lib.Framing
