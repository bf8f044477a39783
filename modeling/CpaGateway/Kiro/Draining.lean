import CpaGateway.Kiro.Segments

/-! # Progress and bounds of the decoder

Whatever bytes arrive, a call of the decoder that does not wait takes bytes or ends it, its slices
lie within what they are taken from, and what a waiting decoder holds leaves room for a whole chunk.
-/

namespace CpaGateway.Kiro.Draining

open Lib.Fallible EventStream Segments
open KiroEventStreamDecoder (nextPrelude nextFrame recover feed finish)

/-! ### Slices -/

/-- The slices of a prelude, each with the number of bytes it is taken from. Bounds are integers,
so that a subtraction below zero shows. -/
def preludeSlices : List (ℤ × ℤ × ℤ) := [(0, 4, 12), (4, 8, 12), (0, 8, 12), (8, 12, 12), (0, 4, 4)]

/-- The slices one call takes of the buffer, those of every candidate for a prelude included. The
header reader asks with `get`, and `readExact` carries the length of what it was given. -/
def slices (d : KiroEventStreamDecoder) : List (ℤ × ℤ × ℤ) :=
  let len : ℤ := d.buffer.length
  if d.stopped ∨ d.buffer.length < preludeBytes then []
  else
    (0, (preludeBytes : ℤ), len) :: preludeSlices ++
    match parsePrelude (d.buffer.take preludeBytes) with
    | .error _ =>
      ((List.range' 1 (d.buffer.length - preludeBytes)).flatMap fun start : ℕ =>
        ((start : ℤ), (start : ℤ) + preludeBytes, len) :: preludeSlices) ++
      [(0, (nextPrelude d.buffer).elim (len - (preludeBytes - 1)) (↑), len)]
    | .ok p =>
      if d.buffer.length < p.totalLength then []
      else
        let messageWithoutCrc : ℤ := p.totalLength - messageCrcBytes
        let headersEnd : ℤ := preludeBytes + p.headersLength
        [(messageWithoutCrc, p.totalLength, len), (0, 4, p.totalLength - messageWithoutCrc),
          (0, messageWithoutCrc, len), (preludeBytes, headersEnd, len),
          (headersEnd, messageWithoutCrc, len), (0, p.totalLength, len)]

/-- The slice does not panic. -/
def Fits (i : ℤ × ℤ × ℤ) : Prop := 0 ≤ i.1 ∧ i.1 ≤ i.2.1 ∧ i.2.1 ≤ i.2.2

theorem fits_slices (d : KiroEventStreamDecoder) : ∀ i ∈ slices d, Fits i := by
  have hprelude : ∀ i ∈ preludeSlices, Fits i := by simp [preludeSlices, Fits]
  unfold slices
  simp only
  split_ifs with hshort
  · simp
  push Not at hshort
  rw [List.cons_append, List.forall_mem_cons, List.forall_mem_append]
  refine ⟨by simp only [Fits] at *; omega, hprelude, ?_⟩
  cases hp : parsePrelude (d.buffer.take preludeBytes) with
  | error e =>
    simp only [List.forall_mem_append, List.forall_mem_flatMap, List.forall_mem_cons,
      List.mem_range'_1]
    refine ⟨fun start hs => ⟨by simp only [Fits] at *; omega, hprelude⟩, ?_, by simp⟩
    cases hn : nextPrelude d.buffer with
    | none => simp only [Fits, preludeBytes, Option.elim] at *; omega
    | some n =>
      have := nextPrelude_some hn
      simp only [Fits, Option.elim] at *; omega
  | ok p =>
    have hbounds := parsePrelude_ok hp
    simp only
    split_ifs with htot
    · simp
    · simp only [Fits, minFrameBytes, messageCrcBytes, preludeBytes] at *
      simp; omega

/-! ### The header loop -/

variable {rest rest' : List UInt8}

theorem readExact_length {n : ℕ} {bytes : { bytes : List UInt8 // bytes.length = n }}
    (h : readExact n rest = .ok (bytes, rest')) : rest'.length + n = rest.length := by
  unfold readExact at h
  split_ifs at h with hn
  cases h
  simp [hn]

theorem parseHeaderValue_length {headerType : UInt8} {value : KiroEventStreamHeaderValue}
    (h : parseHeaderValue headerType rest = .ok (value, rest')) : rest'.length ≤ rest.length := by
  unfold parseHeaderValue at h
  split at h <;>
    grind [readByte, readI16, readI32, readI64, readVariableBytes, bind_ok_iff, pure_ok_iff, →
      readExact_length]

theorem parseHeader_length {header : String × KiroEventStreamHeaderValue}
    (h : parseHeader rest = .ok (header, rest')) : rest'.length < rest.length := by
  unfold parseHeader readUtf8 at h
  grind [readByte, bind_ok_iff, pure_ok_iff, → readExact_length, → parseHeaderValue_length]

/-- The header loop ends: rounds beyond the number of bytes are not used. -/
theorem parseHeadersLoop_fuel : ∀ (m n : ℕ) (bytes : List UInt8) (headers : KiroEventStreamHeaders),
    bytes.length ≤ m → bytes.length ≤ n →
      parseHeadersLoop m bytes headers = parseHeadersLoop n bytes headers
  | m, n, [], _, _, _ => by simp only [parseHeadersLoop]
  | m + 1, n + 1, byte :: rest, headers, hm, hn => by
    simp only [parseHeadersLoop]
    cases h : parseHeader (byte :: rest) with
    | error e => rfl
    | ok r =>
      have hlen := parseHeader_length h
      simp only [ok_bind]
      rw [parseHeadersLoop_fuel m n r.2 _ (by simp at *; omega) (by simp at *; omega)]

/-! ### Calls -/

/-- The calls that change a decoder. -/
inductive Call
  | feed (bytes : List UInt8)
  | nextFrame
  | finish

def after (d : KiroEventStreamDecoder) : Call → KiroEventStreamDecoder
  | .feed bytes => (d.feed bytes).2
  | .nextFrame => d.nextFrame.2
  | .finish => d.finish.2

/-- The decoder after `k` calls for a frame. -/
def pulled (k : ℕ) (d : KiroEventStreamDecoder) : KiroEventStreamDecoder :=
  (fun d => d.nextFrame.2)^[k] d

variable (d : KiroEventStreamDecoder)

theorem recover_buffer (e : KiroEventStreamError) :
    (d.recover e).2.buffer.length ≤ d.buffer.length := by
  simp only [recover]
  split_ifs
  · exact Nat.zero_le _
  · rfl

/-- A call waits, or finds the decoder stopped, or takes bytes. -/
theorem nextFrame_progress :
    (d.stopped = false ∧ head d.buffer = none ∧ d.nextFrame = (.ok none, d)) ∨
    (d.stopped = true ∧ d.nextFrame = (.error .stopped, d)) ∨
      (d.nextFrame.1 ≠ .ok none ∧ d.nextFrame.2.buffer.length < d.buffer.length) := by
  cases hd : d.stopped with
  | true => exact Or.inr (Or.inl ⟨rfl, by simp [nextFrame, hd]⟩)
  | false =>
    rcases hh : head d.buffer with _ | ⟨g, n⟩
    · exact Or.inl ⟨rfl, rfl, nextFrame_none hd hh⟩
    have hlen := discard_shorter hh
    right; right
    by_cases hg : ∃ f, g = .good f
    · obtain ⟨f, rfl⟩ := hg
      rw [nextFrame_good hd hh]
      exact ⟨by simp, hlen⟩
    · push Not at hg
      obtain ⟨e, he⟩ := nextFrame_fail hd hh hg
      rw [he]
      exact ⟨by simp, (recover_buffer _ e).trans_lt hlen⟩

/-- Asking for frames ends after at most as many calls as there are bytes. -/
theorem draining_ends : ∀ (n : ℕ) (d : KiroEventStreamDecoder), d.buffer.length ≤ n →
    ∃ k ≤ n, (pulled k d).stopped = true ∨ (pulled k d).nextFrame.1 = .ok none
  | n, d, hn => by
    rcases nextFrame_progress d with ⟨-, -, h⟩ | ⟨h, -⟩ | ⟨-, h⟩
    · exact ⟨0, Nat.zero_le n, Or.inr (congrArg Prod.fst h)⟩
    · exact ⟨0, Nat.zero_le n, Or.inl h⟩
    · cases n with
      | zero => omega
      | succ n =>
        obtain ⟨k, hk, hend⟩ := draining_ends n d.nextFrame.2 (by omega)
        exact ⟨k + 1, by omega, hend⟩

theorem buffer_after (h : d.buffer.length ≤ maxBufferBytes) (call : Call) :
    (after d call).buffer.length ≤ maxBufferBytes := by
  cases call with
  | feed bytes =>
    simp only [after, feed]
    split_ifs
    · exact h
    · exact Nat.zero_le _
    · simp only [List.length_append]; omega
  | nextFrame =>
    rcases nextFrame_progress d with ⟨-, -, hn⟩ | ⟨-, hn⟩ | ⟨-, hlt⟩
    · rwa [after, hn]
    · rwa [after, hn]
    · exact hlt.le.trans h
  | finish =>
    simp only [after, finish]
    split_ifs
    · exact h
    · exact h
    · exact Nat.zero_le _

/-- **Progress and bounds**, of every decoder that calls lead to: a call that does not wait takes
bytes or leaves the decoder stopped, so that asking again and again ends; its slices lie within what
they are taken from, and the header loop needs no more rounds than there are bytes; a decoder that
waits holds less than a frame, so that it takes any chunk of 16 MiB; and the buffer keeps to its
limit. -/
theorem decoding_bounded (calls : List Call) : let d := calls.foldl after {}
    (d.nextFrame.1 ≠ .ok none →
      d.nextFrame.2.buffer.length < d.buffer.length ∨ d.nextFrame.2.stopped = true) ∧
    (∃ k ≤ d.buffer.length, (pulled k d).stopped = true ∨ (pulled k d).nextFrame.1 = .ok none) ∧
    (∀ i ∈ slices d, Fits i) ∧
    (∀ bytes headers fuel, bytes.length ≤ fuel →
      parseHeadersLoop fuel bytes headers = parseHeadersLoop bytes.length bytes headers) ∧
    (d.nextFrame.1 = .ok none → d.nextFrame.2.buffer.length < maxFrameBytes ∧
      ∀ bytes : List UInt8, bytes.length ≤ 16 * 1024 * 1024 →
        (d.nextFrame.2.feed bytes).1 = .ok ()) ∧
    d.buffer.length ≤ maxBufferBytes := by
  intro d
  refine ⟨fun hne => ?_, draining_ends _ d le_rfl, fits_slices d,
    fun bytes headers fuel h => parseHeadersLoop_fuel fuel _ bytes headers h le_rfl,
      fun hn => ?_, ?_⟩
  · rcases nextFrame_progress d with ⟨-, -, h⟩ | ⟨hs, h⟩ | ⟨-, h⟩
    · exact absurd (congrArg Prod.fst h) hne
    · exact Or.inr (by rw [h, hs])
    · exact Or.inl h
  · rcases nextFrame_progress d with ⟨hd, hh, h⟩ | ⟨-, h⟩ | ⟨hne, -⟩
    · rw [h]
      exact ⟨head_none_length hh, fun bytes hb => by rw [feed_drained hd hh hb]⟩
    · rw [h] at hn
      cases hn
    · exact absurd hn hne
  · exact List.foldlRecOn calls after (Nat.zero_le _) fun d hd call _ => buffer_after d hd call

end CpaGateway.Kiro.Draining
