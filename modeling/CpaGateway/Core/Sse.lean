import CpaGateway.Core.Json
import CpaGateway.Lib.Framing
import Mathlib.Data.List.DropRight
import Mathlib.Data.List.Infix

/-! # Server-sent events

What the decoders of streamed bodies share: the blank line that closes a frame, the lines of a
frame, and the fragments of tool arguments, which are released without the white space around the
value. -/

namespace CpaGateway.Core.Sse

open Core.Json Lib.Framing

/-! ### Frames -/

/-- The length of the blank line a text starts with. -/
def blankLine : List UInt8 → Option ℕ
  | 0x0a :: 0x0a :: _ => some 2
  | 0x0d :: 0x0a :: 0x0d :: 0x0a :: _ => some 4
  | _ => none

variable {l : List UInt8} {n : ℕ}

theorem blankLine_some (h : blankLine l = some n) :
    n = 2 ∧ [0x0a, 0x0a] <+: l ∨ n = 4 ∧ [0x0d, 0x0a, 0x0d, 0x0a] <+: l := by
  unfold blankLine at h
  split at h
  · cases h
    exact .inl ⟨rfl, by simp⟩
  · cases h
    exact .inr ⟨rfl, by simp⟩
  · cases h

theorem blankLine_part : ∀ d ∈ [[0x0a, 0x0a], [0x0d, 0x0a, 0x0d, 0x0a]], ∀ l ∈ d.inits,
    blankLine l = none → l.length < d.length ∧ ∀ p < 4, blankLine (l.drop p) = none := by
  decide

theorem blankLine_late {m : List UInt8} (h : blankLine l = none)
    (hm : blankLine (l ++ m) = some n) : l.length < n ∧ ∀ p, blankLine (l.drop p) = none := by
  obtain ⟨d, hd, hlen, hpart⟩ :
      ∃ d ∈ [[0x0a, 0x0a], [0x0d, 0x0a, 0x0d, 0x0a]], d.length = n ∧ l ∈ d.inits := by
    simp only [List.mem_inits]
    rcases blankLine_some hm with ⟨rfl, hp⟩ | ⟨rfl, hp⟩
    all_goals
      rcases List.prefix_or_prefix_of_prefix hp (List.prefix_append l m) with hl | hl
      · obtain ⟨rest, rfl⟩ := hl
        cases h
      · exact ⟨_, by simp, rfl, hl⟩
  obtain ⟨hlt, hnone⟩ := blankLine_part d hd l hpart h
  have hle : d.length ≤ 4 := by
    simp only [List.mem_cons, List.not_mem_nil, or_false] at hd
    rcases hd with rfl | rfl <;> decide
  refine ⟨by omega, fun p => ?_⟩
  rcases Nat.lt_or_ge p 4 with hp | hp
  · exact hnone p hp
  · rw [List.drop_eq_nil_of_le (by omega)]
    rfl

/-- The delimiter of server-sent events. -/
def frameDelimiter : Delimiter UInt8 where
  atFront := blankLine
  width := 4
  pos h := by rcases blankLine_some h with ⟨rfl, -⟩ | ⟨rfl, -⟩ <;> decide
  le_width h := by rcases blankLine_some h with ⟨rfl, -⟩ | ⟨rfl, -⟩ <;> decide
  le_length h := by
    rcases blankLine_some h with ⟨rfl, hp⟩ | ⟨rfl, hp⟩ <;> exact hp.length_le
  stable _ h := by
    rcases blankLine_some h with ⟨rfl, rest, rfl⟩ | ⟨rfl, rest, rfl⟩ <;> rfl
  late h hm := blankLine_late h hm

/-- The largest live part of a decoder's buffer. -/
def maxFrameBytes : ℕ := 8 * 1024 * 1024

/-- The longest run of frames that prove only that the connection is alive. -/
def maxProgressFreeFrames : ℕ := 4096

/-- Counts on a machine word, which stops at its largest value. -/
def saturatingSucc (n : ℕ) : ℕ := min (n + 1) (2 ^ 64 - 1)

/-- The sum of two machine words, if it is one. -/
def checkedAdd (a b : UInt64) : Option UInt64 :=
  if a.toNat + b.toNat < 2 ^ 64 then some (a + b) else none

/-! ### Text -/

/-- The text that bytes encode. -/
def fromUtf8 (bytes : List UInt8) : Option String := String.fromUTF8? ⟨⟨bytes⟩⟩

/-- The white space of Unicode. -/
def isWhitespace (c : Char) : Bool :=
  (0x09 ≤ c.toNat && c.toNat ≤ 0x0d) || c.toNat = 0x20 || c.toNat = 0x85 || c.toNat = 0xa0 ||
    c.toNat = 0x1680 || (0x2000 ≤ c.toNat && c.toNat ≤ 0x200a) || c.toNat = 0x2028 ||
    c.toNat = 0x2029 || c.toNat = 0x202f || c.toNat = 0x205f || c.toNat = 0x3000

/-- The white space of ASCII. -/
def isAsciiWhitespace (b : UInt8) : Bool :=
  b = 0x20 || b = 0x09 || b = 0x0a || b = 0x0c || b = 0x0d

/-- The text without the white space around it. -/
def trim (text : String) : String :=
  .ofList ((text.toList.dropWhile isWhitespace).rdropWhile isWhitespace)

/-- The line without the carriage return before its line feed. -/
def stripCarriageReturn (line : List Char) : List Char :=
  if line.getLast? = some '\r' then line.dropLast else line

/-- The lines of a text; `line` is what was read of the current one. The last line may lack its line
feed, and keeps a carriage return then. -/
def linesFrom (line : List Char) : List Char → List String
  | [] => if line.isEmpty then [] else [.ofList line]
  | c :: rest =>
    if c = '\n' then .ofList (stripCarriageReturn line) :: linesFrom [] rest
    else linesFrom (line ++ [c]) rest

def lines (text : String) : List String := linesFrom [] text.toList

def stripStart (start text : String) : Option String :=
  if start.toList.isPrefixOf text.toList then some (.ofList (text.toList.drop start.length))
  else none

/-! ### Fragments of tool arguments -/

/-- The argument text received so far and how much of it was released. Offsets count characters. -/
structure Fragments where
  assembled : String := ""
  released : ℕ := 0

namespace Fragments

variable (f : Fragments)

/-- Where the value starts and ends between the white space around it. -/
def valueBounds : ℕ × ℕ :=
  (f.assembled.length - (f.assembled.toList.dropWhile isJsonSpace).length,
    (f.assembled.toList.rdropWhile isJsonSpace).length)

/-- The characters of the assembled text from `start` to `stop`. -/
def slice (start stop : ℕ) : String := .ofList ((f.assembled.toList.take stop).drop start)

/-- Releases every character the value already frames. -/
def release : Option String × Fragments :=
  let start := max f.released f.valueBounds.1
  if f.valueBounds.2 ≤ start then (none, f)
  else (some (f.slice start f.valueBounds.2), { f with released := f.valueBounds.2 })

def push (text : String) : Fragments := { f with assembled := f.assembled ++ text }

end Fragments

end CpaGateway.Core.Sse
