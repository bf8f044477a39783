import Mathlib.Data.List.Basic

/-! # Entries that are handed to a store at least once

A sender keeps what it accepted until the store has settled it: each entry is stored or refused, in
the order in which it came. Attempts take a first part of what is pending, several entries at once
or one, and an attempt may take effect without the sender knowing; then the entries are handed over
again. Where a store takes an entry that it has as done, this ends as if the entries had been
appended one after the other (`refines_move`). -/

namespace CpaGateway.Lib.Outbox

variable {σ α : Type}

/-- What becomes of an entry: `stuck` is an attempt that the sender has to repeat. -/
inductive Verdict
  | stored
  | refused
  | stuck
  deriving DecidableEq

/-- Appending one entry. Nothing but `stored` changes the store, and an entry stays stored. -/
structure Appending (σ α : Type) where
  append : σ → α → Verdict × σ
  has : σ → α → Prop
  unchanged : ∀ {s s' a v}, append s a = (v, s') → v ≠ .stored → s' = s
  has_of_append : ∀ {s s' a}, append s a = (.stored, s') → has s' a
  has_append : ∀ {s a b}, has s a → has (append s b).2 a
  append_of_has : ∀ {s a}, has s a → append s a = (.stored, s)

variable (A : Appending σ α)

/-- The entries appended one after the other, each with what became of it. -/
def Appending.singly (s : σ) : List α → List (α × Verdict) × σ
  | [] => ([], s)
  | a :: as =>
    let (verdict, s₁) := A.append s a
    let (verdicts, s₂) := singly s₁ as
    ((a, verdict) :: verdicts, s₂)

def allStored (as : List α) : List (α × Verdict) := as.map fun a => (a, .stored)

/-- What was accepted, what was settled, and what is pending. -/
structure Sender (σ α : Type) where
  store : σ
  accepted : List α := []
  settled : List (α × Verdict) := []
  pending : List α := []

/-- What a sender does, and whether something took effect that it does not know of. -/
inductive Move : Sender σ α → Bool → Sender σ α → Prop
  | accept (o : Sender σ α) (a : α) :
    Move o false { o with accepted := o.accepted ++ [a], pending := o.pending ++ [a] }
  | store {o : Sender σ α} {done rest : List α} {s : σ} (hpending : o.pending = done ++ rest)
    (h : A.singly o.store done = (allStored done, s)) :
    Move o false { o with store := s, settled := o.settled ++ allStored done, pending := rest }
  | refuse {o : Sender σ α} {a : α} {rest : List α} (hpending : o.pending = a :: rest)
    (h : (A.append o.store a).1 = .refused) :
    Move o false { o with settled := o.settled ++ [(a, .refused)], pending := rest }
  | unknown {o : Sender σ α} {done rest : List α} {s : σ} (hpending : o.pending = done ++ rest)
    (h : A.singly o.store done = (allStored done, s)) :
    Move o true { o with store := s }

section Singly

variable {A} {s s' : σ} {a : α} {as bs : List α}

theorem singly_append :
    A.singly s (as ++ bs) = ((A.singly s as).1 ++ (A.singly (A.singly s as).2 bs).1,
      (A.singly (A.singly s as).2 bs).2) := by
  induction as generalizing s with
  | nil => rfl
  | cons a as ih => simp [Appending.singly, ih]

theorem has_singly (h : A.has s a) : A.has (A.singly s as).2 a := by
  induction as generalizing s with
  | nil => exact h
  | cons b as ih => exact ih (A.has_append h)

theorem has_of_singly (h : A.singly s as = (allStored as, s')) : ∀ a ∈ as, A.has s' a := by
  induction as generalizing s with
  | nil => simp
  | cons b as ih =>
    simp only [Appending.singly, allStored, List.map_cons, Prod.mk.injEq, List.cons.injEq,
      true_and] at h
    obtain ⟨⟨hfirst, hrest⟩, hstore⟩ := h
    have hb : A.has (A.append s b).2 b := A.has_of_append (Prod.ext hfirst rfl)
    intro a ha
    rcases List.mem_cons.mp ha with rfl | ha
    · rw [← hstore]
      exact has_singly hb
    · exact ih (Prod.ext hrest hstore) a ha

theorem singly_of_has (h : ∀ a ∈ as, A.has s a) : A.singly s as = (allStored as, s) := by
  induction as with
  | nil => rfl
  | cons a as ih =>
    rw [Appending.singly, A.append_of_has (h a (.head _))]
    simp only [ih fun b hb => h b (.tail _ hb)]
    rfl

theorem length_singly : (A.singly s as).1.length = as.length := by
  induction as generalizing s with
  | nil => rfl
  | cons a as ih => exact congrArg (· + 1) ih

theorem allStored_append : allStored (as ++ bs) = allStored as ++ allStored bs := List.map_append

end Singly

/-! ### Every sender -/

section Moves

variable {A} {s₀ s : σ} {o o' : Sender σ α} {doubtful done rest : List α} {hidden : Bool}

def Sender.entries (o : Sender σ α) : List α := o.settled.map Prod.fst

/-- The sender is at the point of one that appends singly and has appended the settled entries and
those of `doubtful`, of which the sender does not know. -/
structure Refines (A : Appending σ α) (s₀ : σ) (o : Sender σ α) (doubtful : List α) : Prop where
  accepted : o.accepted = o.entries ++ o.pending
  pending : doubtful <+: o.pending
  settled : (A.singly s₀ o.entries).1 = o.settled
  store : A.singly (A.singly s₀ o.entries).2 doubtful = (allStored doubtful, o.store)

theorem Refines.singly (h : Refines A s₀ o doubtful) :
    A.singly s₀ (o.entries ++ doubtful) = (o.settled ++ allStored doubtful, o.store) := by
  rw [singly_append, h.store, h.settled]

/-- Entries handed over after `doubtful` took effect: the store takes those of `doubtful` as done.
-/
theorem singly_doubtful (h : Refines A s₀ o doubtful) (hpending : o.pending = done ++ rest)
    (hdone : A.singly o.store done = (allStored done, s)) :
    ∃ left, left <+: rest ∧ (doubtful = [] → left = []) ∧
      A.singly (A.singly s₀ o.entries).2 (done ++ left) = (allStored (done ++ left), s) := by
  have hhas := has_of_singly h.store
  obtain hfirst | hfirst := List.prefix_or_prefix_of_prefix (hpending ▸ h.pending)
    (List.prefix_append done rest)
  · obtain ⟨more, rfl⟩ := hfirst
    refine ⟨[], List.nil_prefix, fun _ => rfl, ?_⟩
    rw [singly_append, singly_of_has hhas, allStored_append] at hdone
    obtain ⟨hverdicts, hstore⟩ := Prod.mk.inj hdone
    rw [List.append_nil, singly_append, h.store, allStored_append, hverdicts, hstore]
  · obtain ⟨left, rfl⟩ := hfirst
    refine ⟨left, ?_, fun hnil => (List.append_eq_nil_iff.mp hnil).2, ?_⟩
    · have hleft := h.pending
      rwa [hpending, List.prefix_append_right_inj] at hleft
    · rw [singly_of_has fun a ha => hhas a (List.mem_append_left _ ha)] at hdone
      rw [h.store, (Prod.mk.inj hdone).2]

/-- **One move** of the sender is some of the steps of one that appends singly. -/
theorem refines_move (h : Refines A s₀ o doubtful) (hmove : Move A o hidden o') :
    ∃ doubtful', Refines A s₀ o' doubtful' ∧ (hidden = false → doubtful = [] → doubtful' = []) := by
  cases hmove with
  | accept a =>
    refine ⟨doubtful, ⟨?_, h.pending.trans (List.prefix_append _ _), h.settled, h.store⟩,
      fun _ hd => hd⟩
    simp [h.accepted, Sender.entries]
  | @store done rest s hpending hdone =>
    obtain ⟨left, hleft, hnil, hstored⟩ := singly_doubtful h hpending hdone
    rw [singly_append, allStored_append] at hstored
    obtain ⟨hverdicts, hstore⟩ := Prod.mk.inj hstored
    have hlength : (A.singly (A.singly s₀ o.entries).2 done).1.length =
        (allStored done).length := by
      rw [length_singly, allStored, List.length_map]
    obtain ⟨hnow, hlater⟩ := List.append_inj hverdicts hlength
    have hentries : (o.settled ++ allStored done).map Prod.fst = o.entries ++ done := by
      simp [Sender.entries, allStored, Function.comp_def]
    refine ⟨left, ⟨?_, hleft, ?_, ?_⟩, fun _ hd => hnil hd⟩
    · rw [Sender.entries, hentries, h.accepted, hpending, List.append_assoc]
    · rw [Sender.entries, hentries, singly_append, h.settled, hnow]
    · rw [Sender.entries, hentries, singly_append]
      exact Prod.ext hlater hstore
  | @refuse a rest hpending hrefused =>
    -- an entry that took effect would not be refused
    have hnil : doubtful = [] := by
      cases doubtful with
      | nil => rfl
      | cons b doubtful =>
        have hfirst := h.pending
        rw [hpending, List.cons_prefix_cons] at hfirst
        obtain ⟨rfl, -⟩ := hfirst
        rw [A.append_of_has (has_of_singly h.store b (.head _))] at hrefused
        cases hrefused
    subst hnil
    have hstore : (A.singly s₀ o.entries).2 = o.store := congrArg Prod.snd h.store
    have hsame : A.append o.store a = (.refused, o.store) :=
      Prod.ext hrefused (A.unchanged (Prod.ext hrefused rfl) (by simp))
    have hone : A.singly o.store [a] = ([(a, .refused)], o.store) := by
      simp [Appending.singly, hsame]
    have hentries : (o.settled ++ [(a, Verdict.refused)]).map Prod.fst = o.entries ++ [a] := by
      rw [List.map_append]
      rfl
    refine ⟨[], ⟨?_, List.nil_prefix, ?_, ?_⟩, fun _ _ => rfl⟩
    · rw [Sender.entries, hentries, h.accepted, hpending, List.append_assoc]
      rfl
    · rw [Sender.entries, hentries, singly_append, h.settled, hstore, hone]
    · rw [Sender.entries, hentries, singly_append, hstore, hone]
      rfl
  | @unknown done rest s hpending hdone =>
    obtain ⟨left, hleft, -, hstored⟩ := singly_doubtful h hpending hdone
    refine ⟨done ++ left, ⟨h.accepted, ?_, h.settled, hstored⟩, fun hhidden => by cases hhidden⟩
    rw [hpending]
    exact (List.prefix_append_right_inj done).mpr hleft

end Moves

end CpaGateway.Lib.Outbox
