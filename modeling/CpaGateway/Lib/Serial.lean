import Mathlib.Data.List.Basic
import Mathlib.Order.Nat

/-! # Blocks that grow side by side and are written one after another

A `Queue` holds blocks in the order in which they were opened. All of them may grow; they are
written one after another, each from its start to its stop. -/

namespace CpaGateway.Lib.Serial

variable {α β φ : Type}

/-- A block: its head, the parts it has so far, how many of them were written, and whether more may
come. -/
structure Entry (α β : Type) where
  head : α
  parts : List β
  sent : ℕ
  closed : Bool

/-- The block without what was done about it. -/
def Entry.block (e : Entry α β) : α × List β := (e.head, e.parts)

/-- How a block is written. -/
structure Writer (α β φ : Type) where
  start : ℕ → α → φ
  part : ℕ → α → β → φ
  stop : ℕ → φ

namespace Writer

variable (w : Writer α β φ)

def block (index : ℕ) (b : α × List β) : List φ :=
  w.start index b.1 :: b.2.map (w.part index b.1) ++ [w.stop index]

/-- Blocks one after another, numbered from zero. -/
def blocks (bs : List (α × List β)) : List φ := (bs.mapIdx w.block).flatten

theorem blocks_concat (bs : List (α × List β)) (b : α × List β) :
    w.blocks (bs ++ [b]) = w.blocks bs ++ w.block bs.length b := by
  simp [blocks]

/-- The block at `index` as far as it was written. -/
def begun (index : ℕ) (e : Entry α β) : List φ :=
  w.start index e.head :: (e.parts.take e.sent).map (w.part index e.head)

end Writer

/-- Blocks in their order, and how far they were written. -/
structure Queue (α β : Type) where
  entries : List (Entry α β)
  next : ℕ
  opened : Bool

variable {w : Writer α β φ}

namespace Queue

def blocks (q : Queue α β) : List (α × List β) := q.entries.map Entry.block

/-- What was written so far. -/
def transcript (w : Writer α β φ) (q : Queue α β) : List φ :=
  w.blocks ((q.entries.take q.next).map Entry.block) ++
    if q.opened then q.entries[q.next]?.elim [] (w.begun q.next) else []

/-- The counts of the queue agree with its blocks. -/
structure Sound (q : Queue α β) : Prop where
  le : q.next ≤ q.entries.length
  active : q.opened = true → q.next < q.entries.length
  done : ∀ (i : ℕ) (e : Entry α β), q.entries[i]? = some e → i < q.next → e.closed = true
  bound : ∀ (i : ℕ) (e : Entry α β), q.entries[i]? = some e → e.sent ≤ e.parts.length
  fresh : ∀ (i : ℕ) (e : Entry α β), q.entries[i]? = some e → q.next ≤ i →
    (q.opened = true → i ≠ q.next) → e.sent = 0

/-- When no block is left, every block was written. -/
theorem transcript_complete {q : Queue α β} (hopen : q.opened = false)
    (hnext : q.next = q.entries.length) : q.transcript w = w.blocks q.blocks := by
  simp [transcript, hopen, hnext, blocks]

end Queue

/-! ### Growing -/

/-- The block got more parts or was closed; a closed one stays as it is. -/
structure Entry.Grows (e e' : Entry α β) : Prop where
  head : e'.head = e.head
  sent : e'.sent = e.sent
  parts : e.parts <+: e'.parts
  closed : e.closed = true → e' = e

/-- Blocks grew and blocks were added; nothing was written. -/
structure Queue.Grows (q q' : Queue α β) : Prop where
  next : q'.next = q.next
  opened : q'.opened = q.opened
  keeps : ∀ (i : ℕ) (e : Entry α β), q.entries[i]? = some e →
    ∃ e', q'.entries[i]? = some e' ∧ e.Grows e'
  added : ∀ (i : ℕ) (e : Entry α β), q'.entries[i]? = some e → q.entries.length ≤ i → e.sent = 0

theorem Entry.Grows.refl (e : Entry α β) : e.Grows e := ⟨rfl, rfl, List.prefix_rfl, fun _ => rfl⟩

theorem Entry.Grows.trans {e d c : Entry α β} (h : e.Grows d) (h' : d.Grows c) : e.Grows c where
  head := h'.head.trans h.head
  sent := h'.sent.trans h.sent
  parts := h.parts.trans h'.parts
  closed hclosed := by
    have hd := h.closed hclosed
    subst hd
    exact h'.closed hclosed

namespace Queue

variable {q q' : Queue α β}

theorem grows_push (q : Queue α β) (head : α) :
    q.Grows { q with entries := q.entries ++ [⟨head, [], 0, false⟩] } where
  next := rfl
  opened := rfl
  keeps i e h :=
    ⟨e, by rw [List.getElem?_append_left (List.getElem?_eq_some_iff.mp h).1, h], .refl e⟩
  added i e h hi := by
    rw [List.getElem?_append_right hi, List.getElem?_singleton] at h
    split_ifs at h
    cases h
    rfl

variable {i : ℕ}

theorem grows_set {e d : Entry α β} (he : q.entries[i]? = some e) (h : e.Grows d) :
    q.Grows { q with entries := q.entries.set i d } where
  next := rfl
  opened := rfl
  keeps j c hj := by
    by_cases hij : i = j
    · subst hij
      cases he.symm.trans hj
      exact ⟨d, by simp [(List.getElem?_eq_some_iff.mp he).1], h⟩
    · exact ⟨c, by rw [List.getElem?_set_ne hij, hj], .refl c⟩
  added j c hj hlen := by
    have hlt := (List.getElem?_eq_some_iff.mp hj).1
    rw [List.length_set] at hlt
    omega

theorem Grows.refl (q : Queue α β) : q.Grows q where
  next := rfl
  opened := rfl
  keeps _ e h := ⟨e, h, .refl e⟩
  added i e h hi := by
    have hlt := (List.getElem?_eq_some_iff.mp h).1
    omega

theorem Grows.length_le (h : q.Grows q') : q.entries.length ≤ q'.entries.length := by
  by_contra hlt
  have hlast : q'.entries.length < q.entries.length := by omega
  obtain ⟨e', he', -⟩ := h.keeps _ _ (List.getElem?_eq_getElem hlast)
  simp at he'

theorem Grows.origin (h : q.Grows q') {e' : Entry α β} (he' : q'.entries[i]? = some e')
    (hi : i < q.entries.length) : ∃ e, q.entries[i]? = some e ∧ e.Grows e' := by
  obtain ⟨d, hd, hgrows⟩ := h.keeps i _ (List.getElem?_eq_getElem hi)
  rw [he', Option.some.injEq] at hd
  exact ⟨_, List.getElem?_eq_getElem hi, hd ▸ hgrows⟩

theorem Grows.trans {q'' : Queue α β} (h : q.Grows q') (h' : q'.Grows q'') : q.Grows q'' where
  next := h'.next.trans h.next
  opened := h'.opened.trans h.opened
  keeps i e he := by
    obtain ⟨d, hd, hgrows⟩ := h.keeps i e he
    obtain ⟨c, hc, hgrows'⟩ := h'.keeps i d hd
    exact ⟨c, hc, hgrows.trans hgrows'⟩
  added i e he hi := by
    rcases Nat.lt_or_ge i q'.entries.length with hlt | hge
    · obtain ⟨d, hd, hgrows⟩ := h'.origin he hlt
      rw [hgrows.sent]
      exact h.added i d hd hi
    · exact h'.added i e he hge

theorem Grows.sound (h : q.Grows q') (hq : q.Sound) : q'.Sound where
  le := h.next ▸ hq.le.trans h.length_le
  active hopen := by
    rw [h.opened] at hopen
    exact h.next ▸ (hq.active hopen).trans_le h.length_le
  done i e he hi := by
    rw [h.next] at hi
    obtain ⟨d, hd, hgrows⟩ := h.origin he (hi.trans_le hq.le)
    have hclosed := hq.done i d hd hi
    rw [hgrows.closed hclosed, hclosed]
  bound i e he := by
    rcases Nat.lt_or_ge i q.entries.length with hi | hi
    · obtain ⟨d, hd, hgrows⟩ := h.origin he hi
      rw [hgrows.sent]
      exact (hq.bound i d hd).trans hgrows.parts.length_le
    · rw [h.added i e he hi]
      exact Nat.zero_le _
  fresh i e he hi hne := by
    rw [h.next] at hi hne
    rw [h.opened] at hne
    rcases Nat.lt_or_ge i q.entries.length with hlt | hge
    · obtain ⟨d, hd, hgrows⟩ := h.origin he hlt
      rw [hgrows.sent]
      exact hq.fresh i d hd hi hne
    · exact h.added i e he hge

theorem Grows.take (h : q.Grows q') (hq : q.Sound) :
    q'.entries.take q'.next = q.entries.take q.next := by
  rw [h.next]
  refine List.ext_getElem? fun i => ?_
  rw [List.getElem?_take, List.getElem?_take]
  split_ifs with hi
  · obtain ⟨e', he', hgrows⟩ := h.keeps i _ (List.getElem?_eq_getElem (hi.trans_le hq.le))
    have hclosed := hq.done i _ (List.getElem?_eq_getElem (hi.trans_le hq.le)) hi
    rw [he', hgrows.closed hclosed, List.getElem?_eq_getElem (hi.trans_le hq.le)]
  · rfl

theorem begun_grows {e e' : Entry α β} (h : e.Grows e')
    (hbound : e.sent ≤ e.parts.length) : w.begun i e' = w.begun i e := by
  obtain ⟨rest, hrest⟩ := h.parts
  rw [Writer.begun, Writer.begun, h.head, h.sent, ← hrest, List.take_append_of_le_length hbound]

/-- **Growing writes nothing.** -/
theorem Grows.transcript (h : q.Grows q') (hq : q.Sound) : q'.transcript w = q.transcript w := by
  rw [Queue.transcript, Queue.transcript, h.take hq, h.next, h.opened]
  split_ifs with hopen
  · have he := List.getElem?_eq_getElem (hq.active hopen)
    obtain ⟨e', he', hgrows⟩ := h.keeps _ _ he
    rw [he', he, Option.elim_some, Option.elim_some, begun_grows hgrows (hq.bound _ _ he)]
  · rfl

end Queue

/-! ### Writing -/

/-- The block with every part written. -/
def Entry.flushed (e : Entry α β) : Entry α β := { e with sent := e.parts.length }

/-- The parts that were not written. -/
def Entry.pending (e : Entry α β) : List β := e.parts.drop e.sent

namespace Queue

/-- The queue with the first unwritten block written as far as it goes. -/
def flushed (q : Queue α β) (e : Entry α β) : Queue α β :=
  { q with entries := q.entries.set q.next e.flushed }

/-- A flush: what it writes, and the queue afterwards. It goes from block to block as long as they
are closed. -/
inductive Flushes (w : Writer α β φ) : Queue α β → List φ → Queue α β → Prop
  | idle {q} : q.opened = false → q.next = q.entries.length → Flushes w q [] q
  | start {q q' e out} : q.opened = false → q.entries[q.next]? = some e →
      Flushes w { q with opened := true } out q' →
      Flushes w q (w.start q.next e.head :: out) q'
  | wait {q e} : q.opened = true → q.entries[q.next]? = some e → e.closed = false →
      Flushes w q (e.pending.map (w.part q.next e.head)) (q.flushed e)
  | stop {q q' e out} : q.opened = true → q.entries[q.next]? = some e → e.closed = true →
      Flushes w { q.flushed e with opened := false, next := q.next + 1 } out q' →
      Flushes w q (e.pending.map (w.part q.next e.head) ++ w.stop q.next :: out) q'

variable {w : Writer α β φ} {q q' : Queue α β} {e : Entry α β} {out : List φ}

theorem begun_flushed {i : ℕ} (e : Entry α β) :
    w.begun i e.flushed = w.begun i e ++ e.pending.map (w.part i e.head) := by
  simp only [Writer.begun, Entry.flushed, Entry.pending, List.take_length, List.cons_append,
    ← List.map_append, List.take_append_drop]

theorem Sound.opened (hq : q.Sound) (h : q.entries[q.next]? = some e) :
    Sound { q with opened := true } where
  le := hq.le
  active _ := (List.getElem?_eq_some_iff.mp h).1
  done := hq.done
  bound := hq.bound
  fresh i d hd hi hne := hq.fresh i d hd hi fun _ => hne rfl

theorem getElem?_flushed {i : ℕ} {d : Entry α β} (he : q.entries[q.next]? = some e)
    (h : (q.flushed e).entries[i]? = some d) :
    i = q.next ∧ d = e.flushed ∨ i ≠ q.next ∧ q.entries[i]? = some d := by
  by_cases hi : q.next = i
  · subst hi
    simp only [flushed, List.getElem?_set_self (List.getElem?_eq_some_iff.mp he).1,
      Option.some.injEq] at h
    exact .inl ⟨rfl, h.symm⟩
  · rw [flushed, List.getElem?_set_ne hi] at h
    exact .inr ⟨Ne.symm hi, h⟩

theorem Sound.flushed (hq : q.Sound) (hopen : q.opened = true) (he : q.entries[q.next]? = some e) :
    (q.flushed e).Sound where
  le := by simpa [Queue.flushed] using hq.le
  active _ := by simpa [Queue.flushed] using hq.active hopen
  done i d hd hi := by
    rcases getElem?_flushed he hd with ⟨rfl, -⟩ | ⟨-, hd⟩
    · exact absurd hi (Nat.lt_irrefl _)
    · exact hq.done i d hd hi
  bound i d hd := by
    rcases getElem?_flushed he hd with ⟨-, rfl⟩ | ⟨-, hd⟩
    · exact Nat.le_refl _
    · exact hq.bound i d hd
  fresh i d hd hi hne := by
    rcases getElem?_flushed he hd with ⟨rfl, -⟩ | ⟨hne', hd⟩
    · exact absurd rfl (hne hopen)
    · exact hq.fresh i d hd hi fun _ => hne'

/-- A closed block that was written to its end is left behind. -/
theorem Sound.stopped (hq : q.Sound) (hopen : q.opened = true) (he : q.entries[q.next]? = some e)
    (hclosed : e.closed = true) :
    Sound { q.flushed e with opened := false, next := q.next + 1 } where
  le := by simpa [Queue.flushed, Nat.succ_le_iff] using hq.active hopen
  active h := by cases h
  done i d hd hi := by
    rcases getElem?_flushed he hd with ⟨-, rfl⟩ | ⟨hne, hd⟩
    · exact hclosed
    · exact hq.done i d hd (lt_of_le_of_ne (Nat.le_of_lt_succ hi) hne)
  bound := (hq.flushed hopen he).bound
  fresh i d hd hi _ := by
    change q.next + 1 ≤ i at hi
    refine (hq.flushed hopen he).fresh i d hd (by change q.next ≤ i; omega) fun _ => ?_
    change i ≠ q.next
    omega

theorem transcript_start (hopen : q.opened = false) (he : q.entries[q.next]? = some e)
    (hq : q.Sound) :
    transcript w { q with opened := true } = q.transcript w ++ [w.start q.next e.head] := by
  have hsent : e.sent = 0 := hq.fresh _ e he (Nat.le_refl _) (by simp [hopen])
  simp [transcript, hopen, he, Writer.begun, hsent]

theorem take_flushed : (q.flushed e).entries.take q.next = q.entries.take q.next := by
  rw [flushed, List.take_set, List.set_eq_of_length_le (List.length_take_le _ _)]

theorem transcript_flushed (hopen : q.opened = true) (he : q.entries[q.next]? = some e) :
    (q.flushed e).transcript w =
      q.transcript w ++ e.pending.map (w.part q.next e.head) := by
  have hlt := (List.getElem?_eq_some_iff.mp he).1
  have hself : (q.flushed e).entries[q.next]? = some e.flushed := by simp [flushed, hlt]
  change w.blocks (((q.flushed e).entries.take q.next).map Entry.block) ++
    (if q.opened then (q.flushed e).entries[q.next]?.elim [] (w.begun q.next) else []) = _
  rw [take_flushed, hself, transcript, he, if_pos hopen, if_pos hopen, Option.elim_some,
    Option.elim_some, begun_flushed, List.append_assoc]

theorem transcript_stop (hopen : q.opened = true) (he : q.entries[q.next]? = some e) :
    transcript w { q.flushed e with opened := false, next := q.next + 1 } =
      (q.flushed e).transcript w ++ [w.stop q.next] := by
  have hlt := (List.getElem?_eq_some_iff.mp he).1
  have hself : (q.flushed e).entries[q.next]? = some e.flushed := by simp [flushed, hlt]
  have hlength : ((q.entries.take q.next).map Entry.block).length = q.next := by
    simp [Nat.le_of_lt hlt]
  have htake : (q.flushed e).entries.take (q.next + 1) = q.entries.take q.next ++ [e.flushed] := by
    rw [List.take_add_one, take_flushed, hself]
    rfl
  have hblock : w.block q.next e.flushed.block = w.begun q.next e.flushed ++ [w.stop q.next] := by
    simp [Writer.block, Writer.begun, Entry.block, Entry.flushed]
  change w.blocks (((q.flushed e).entries.take (q.next + 1)).map Entry.block) ++ [] =
    (w.blocks (((q.flushed e).entries.take q.next).map Entry.block) ++
      (if q.opened then (q.flushed e).entries[q.next]?.elim [] (w.begun q.next) else [])) ++
      [w.stop q.next]
  rw [htake, List.map_append, List.map_singleton, Writer.blocks_concat, hlength, hblock,
    take_flushed, hself, if_pos hopen, Option.elim_some, List.append_nil, List.append_assoc]

theorem Flushes.sound (h : Flushes w q out q') (hq : q.Sound) : q'.Sound := by
  induction h with
  | idle => exact hq
  | start _ he _ ih => exact ih (hq.opened he)
  | wait hopen he _ => exact hq.flushed hopen he
  | stop hopen he hclosed _ ih => exact ih (hq.stopped hopen he hclosed)

/-- **A flush writes the continuation.** -/
theorem Flushes.transcript (h : Flushes w q out q') (hq : q.Sound) :
    q'.transcript w = q.transcript w ++ out := by
  induction h with
  | idle => simp
  | start hopen he _ ih =>
    rw [ih (hq.opened he), transcript_start hopen he hq, List.append_assoc]
    rfl
  | wait hopen he _ => exact transcript_flushed hopen he
  | stop hopen he hclosed _ ih =>
    rw [ih (hq.stopped hopen he hclosed), transcript_stop hopen he, transcript_flushed hopen he]
    simp

end Queue

end CpaGateway.Lib.Serial
