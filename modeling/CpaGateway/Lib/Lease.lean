import CpaGateway.Lib.Transition
import Mathlib.Data.Int.Notation
import Mathlib.Data.List.Nodup

/-! # Leases on versioned records

A record has a revision, a content and a phase. In each phase one holder may lease the record: its
ticket has a fresh identifier and a deadline, and a new lease replaces it. A lease is completed
while its identifier stands in the slot and its deadline is to come; that empties the slot, and may
replace the content under the next revision. -/

namespace CpaGateway.Lib.Lease

open Lib.Transition

variable {κ φ ι χ : Type}

structure Record (φ χ : Type) where
  revision : ℤ
  content : χ
  phase : φ

/-- A lease that was given out. -/
structure Ticket (κ φ ι χ : Type) where
  key : κ
  phase : φ
  id : ι
  deadline : ℤ
  revision : ℤ
  content : χ

structure State (κ φ ι χ : Type) where
  record : κ → Option (Record φ χ)
  slot : κ → φ → Option (ι × ℤ)
  tickets : List (Ticket κ φ ι χ)

/-- The ticket is in its slot. -/
def Held (s : State κ φ ι χ) (t : Ticket κ φ ι χ) : Prop :=
  ∃ deadline, s.slot t.key t.phase = some (t.id, deadline)

inductive Label (κ φ ι χ : Type)
  | claim (tickets : List (Ticket κ φ ι χ))
  | complete (ticket : Ticket κ φ ι χ) (now : ℤ)
  | idle

/-- New tickets are for records in the phase of their slot, and take their slots. -/
structure Claims (s s' : State κ φ ι χ) (new : List (Ticket κ φ ι χ)) : Prop where
  fresh : ∀ t ∈ new, ∀ t' ∈ s.tickets, t.id ≠ t'.id
  distinct : (new.map Ticket.id).Nodup
  current : ∀ t ∈ new, s.record t.key = some ⟨t.revision, t.content, t.phase⟩
  taken : ∀ t ∈ new, s'.slot t.key t.phase = some (t.id, t.deadline)
  others : ∀ key phase, (∀ t ∈ new, ¬(t.key = key ∧ t.phase = phase)) →
    s'.slot key phase = s.slot key phase
  record : s'.record = s.record
  tickets : s'.tickets = s.tickets ++ new

/-- A ticket in its slot, before its deadline, is used up; the record may get its next content. -/
structure Completes (s s' : State κ φ ι χ) (t : Ticket κ φ ι χ) (now : ℤ) : Prop where
  issued : t ∈ s.tickets
  held : ∃ deadline, s.slot t.key t.phase = some (t.id, deadline) ∧ now < deadline
  emptied : s'.slot t.key t.phase = none
  others : ∀ key phase, ¬(key = t.key ∧ phase = t.phase) → s'.slot key phase = s.slot key phase
  replaced : ∀ r, s.record t.key = some r → ∃ r', s'.record t.key = some r' ∧
    (r'.revision = r.revision ∧ r'.content = r.content ∨
      r.revision = t.revision ∧ r'.revision = r.revision + 1)
  record : ∀ key, key ≠ t.key → s'.record key = s.record key
  tickets : s'.tickets = s.tickets

inductive Step : State κ φ ι χ → Label κ φ ι χ → State κ φ ι χ → Prop
  | claim {s s' : State κ φ ι χ} {new : List (Ticket κ φ ι χ)} (h : Claims s s' new) :
    Step s (.claim new) s'
  | complete {s s' : State κ φ ι χ} {t : Ticket κ φ ι χ} {now : ℤ} (h : Completes s s' t now) :
    Step s (.complete t now) s'
  | idle {s : State κ φ ι χ} : Step s .idle s

structure Sound (s : State κ φ ι χ) : Prop where
  known : ∀ t ∈ s.tickets, ∃ r, s.record t.key = some r ∧ t.revision ≤ r.revision ∧
    (r.revision = t.revision → r.content = t.content)
  held : ∀ t ∈ s.tickets, ∀ deadline, s.slot t.key t.phase = some (t.id, deadline) →
    deadline = t.deadline ∧ ∃ r, s.record t.key = some r ∧ r.phase = t.phase ∧
      r.revision = t.revision
  distinct : (s.tickets.map Ticket.id).Nodup
  superseded : s.tickets.Pairwise fun t t' => t.key = t'.key → t.phase = t'.phase → ¬ Held s t

variable {s s' : State κ φ ι χ} {l : Label κ φ ι χ} {t t' : Ticket κ φ ι χ}
  {new : List (Ticket κ φ ι χ)} {now : ℤ}

theorem Sound.eq_of_id (h : Sound s) (ht : t ∈ s.tickets) (ht' : t' ∈ s.tickets)
    (hid : t.id = t'.id) : t = t' := List.inj_on_of_nodup_map h.distinct ht ht' hid

/-- **At most one ticket** of a record is in its slot: the phase of the record says in which. -/
theorem held_unique (h : Sound s) (ht : t ∈ s.tickets) (ht' : t' ∈ s.tickets)
    (hkey : t.key = t'.key) (hheld : Held s t) (hheld' : Held s t') : t = t' := by
  obtain ⟨d, hd⟩ := hheld
  obtain ⟨d', hd'⟩ := hheld'
  obtain ⟨-, r, hr, hphase, -⟩ := h.held t ht d hd
  obtain ⟨-, r', hr', hphase', -⟩ := h.held t' ht' d' hd'
  rw [hkey, hr', Option.some.injEq] at hr
  subst hr
  rw [hkey, ← hphase, hphase', hd', Option.some.injEq, Prod.mk.injEq] at hd
  exact h.eq_of_id ht ht' hd.1.symm

/-! ### Claims -/

theorem Claims.held_old (hc : Claims s s' new) (ht : t ∈ s.tickets) {deadline : ℤ}
    (hheld : s'.slot t.key t.phase = some (t.id, deadline)) :
    s.slot t.key t.phase = some (t.id, deadline) ∧
      ∀ t' ∈ new, ¬(t'.key = t.key ∧ t'.phase = t.phase) := by
  have hnot : ∀ t' ∈ new, ¬(t'.key = t.key ∧ t'.phase = t.phase) := by
    rintro t' ht' ⟨hkey, hphase⟩
    have htaken := hc.taken t' ht'
    rw [hkey, hphase, hheld, Option.some.injEq, Prod.mk.injEq] at htaken
    exact hc.fresh t' ht' t ht htaken.1.symm
  exact ⟨(hc.others _ _ hnot).symm.trans hheld, hnot⟩

theorem Sound.claim (h : Sound s) (hc : Claims s s' new) : Sound s' where
  known t ht := by
    rw [hc.tickets, List.mem_append] at ht
    rw [hc.record]
    rcases ht with hold | hnew
    · exact h.known t hold
    · exact ⟨_, hc.current t hnew, Int.le_refl _, fun _ => rfl⟩
  held t ht deadline hheld := by
    rw [hc.tickets, List.mem_append] at ht
    rw [hc.record]
    rcases ht with hold | hnew
    · exact h.held t hold deadline (hc.held_old hold hheld).1
    · rw [hc.taken t hnew, Option.some.injEq, Prod.mk.injEq] at hheld
      exact ⟨hheld.2.symm, _, hc.current t hnew, rfl, rfl⟩
  distinct := by
    rw [hc.tickets, List.map_append, List.nodup_append]
    refine ⟨h.distinct, hc.distinct, ?_⟩
    rintro _ ha _ hb rfl
    obtain ⟨t, ht, hid⟩ := List.mem_map.mp ha
    obtain ⟨t', ht', hid'⟩ := List.mem_map.mp hb
    exact hc.fresh t' ht' t ht (hid'.trans hid.symm)
  superseded := by
    rw [hc.tickets, List.pairwise_append]
    refine ⟨h.superseded.imp_of_mem ?_, ?_, ?_⟩
    · rintro t t' ht - hout hkey hphase ⟨deadline, hslot⟩
      exact hout hkey hphase ⟨deadline, (hc.held_old ht hslot).1⟩
    · refine (List.pairwise_map.mp hc.distinct).imp_of_mem ?_
      rintro t t' ht ht' hne hkey hphase -
      have htaken := hc.taken t ht
      rw [hkey, hphase, hc.taken t' ht', Option.some.injEq, Prod.mk.injEq] at htaken
      exact hne htaken.1.symm
    · rintro t ht t' ht' hkey hphase ⟨deadline, hslot⟩
      exact (hc.held_old ht hslot).2 t' ht' ⟨hkey.symm, hphase.symm⟩

/-! ### Completions -/

theorem Completes.current (hc : Completes s s' t now) (h : Sound s) :
    now < t.deadline ∧ ∃ r, s.record t.key = some r ∧ r.phase = t.phase ∧ r.revision = t.revision ∧
      r.content = t.content := by
  obtain ⟨deadline, hslot, hnow⟩ := hc.held
  obtain ⟨rfl, r, hr, hphase, hrevision⟩ := h.held t hc.issued deadline hslot
  obtain ⟨r', hr', -, hcontent⟩ := h.known t hc.issued
  cases hr.symm.trans hr'
  exact ⟨hnow, r, hr, hphase, hrevision, hcontent hrevision⟩

theorem Completes.not_held (hc : Completes s s' t now) (h : Sound s) (ht' : t' ∈ s.tickets)
    (hkey : t'.key = t.key) : ¬ Held s' t' := by
  rintro ⟨deadline, hslot⟩
  by_cases hphase : t'.phase = t.phase
  · rw [hkey, hphase, hc.emptied] at hslot
    cases hslot
  · rw [hc.others _ _ (fun heq => hphase heq.2)] at hslot
    obtain ⟨d, hd, -⟩ := hc.held
    have heq := held_unique h ht' hc.issued hkey ⟨deadline, hslot⟩ ⟨d, hd⟩
    exact hphase (congrArg Ticket.phase heq)

theorem Completes.held_old (hc : Completes s s' t now) (h : Sound s) (ht' : t' ∈ s.tickets)
    (hheld : Held s' t') : t'.key ≠ t.key ∧ Held s t' := by
  have hkey : t'.key ≠ t.key := fun hkey => hc.not_held h ht' hkey hheld
  obtain ⟨deadline, hslot⟩ := hheld
  exact ⟨hkey, deadline, by rw [← hc.others _ _ (fun heq => hkey heq.1)]; exact hslot⟩

theorem Sound.complete (h : Sound s) (hc : Completes s s' t now) : Sound s' where
  known t' ht' := by
    rw [hc.tickets] at ht'
    obtain ⟨r, hr, hle, hcontent⟩ := h.known t' ht'
    by_cases hkey : t'.key = t.key
    · rw [hkey] at hr ⊢
      obtain ⟨r', hr', hreplaced⟩ := hc.replaced r hr
      refine ⟨r', hr', ?_⟩
      rcases hreplaced with ⟨hrevision, hsame⟩ | ⟨-, hnext⟩
      · rw [hrevision, hsame]
        exact ⟨hle, hcontent⟩
      · exact ⟨by omega, fun heq => by omega⟩
    · rw [hc.record _ hkey]
      exact ⟨r, hr, hle, hcontent⟩
  held t' ht' deadline hslot := by
    rw [hc.tickets] at ht'
    have hkey : t'.key ≠ t.key := fun hkey => hc.not_held h ht' hkey ⟨deadline, hslot⟩
    rw [hc.others _ _ (fun heq => hkey heq.1)] at hslot
    rw [hc.record _ hkey]
    exact h.held t' ht' deadline hslot
  distinct := by
    rw [hc.tickets]
    exact h.distinct
  superseded := by
    rw [hc.tickets]
    exact h.superseded.imp_of_mem fun ht _ hout hkey hphase hheld =>
      hout hkey hphase (hc.held_old h ht hheld).2

/-! ### Runs -/

theorem Sound.step (h : Sound s) (hstep : Step s l s') : Sound s' := by
  cases hstep with
  | claim hc => exact h.claim hc
  | complete hc => exact h.complete hc
  | idle => exact h

theorem tickets_step (hstep : Step s l s') (ht : t ∈ s.tickets) : t ∈ s'.tickets := by
  cases hstep with
  | claim hc =>
    rw [hc.tickets]
    exact List.mem_append_left _ ht
  | complete hc =>
    rw [hc.tickets]
    exact ht
  | idle => exact ht

/-- **Once out, always out**: no step puts an old ticket back into its slot. -/
theorem not_held_step (h : Sound s) (ht : t ∈ s.tickets) (hnot : ¬ Held s t) (hstep : Step s l s') :
    ¬ Held s' t := by
  rintro ⟨deadline, hslot⟩
  cases hstep with
  | claim hc => exact hnot ⟨deadline, (hc.held_old ht hslot).1⟩
  | complete hc => exact hnot (hc.held_old h ht ⟨deadline, hslot⟩).2
  | idle => exact hnot ⟨deadline, hslot⟩

variable {trace : List (Label κ φ ι χ)}

theorem sound_of_run (h : Sound s) (hrun : Run Step s trace s') : Sound s' :=
  hrun.keeps (fun _ _ _ hs hl => hs.step hl) h

/-- A ticket that is out of its slot is not completed any more. -/
theorem not_completed_of_run (h : Sound s) (ht : t ∈ s.tickets)
    (hnot : ¬ Held s t) (hrun : Run Step s trace s') :
    ∀ l ∈ trace, ∀ t' now, l = .complete t' now → t'.id ≠ t.id := by
  refine (Run.labels (P := fun x => Sound x ∧ t ∈ x.tickets ∧ ¬ Held x t)
    (fun x l y ⟨hx, hin, hout⟩ hstep => ?_) ⟨h, ht, hnot⟩ hrun).2
  refine ⟨⟨hx.step hstep, tickets_step hstep hin, not_held_step hx hin hout hstep⟩, ?_⟩
  rintro t' now rfl hid
  cases hstep with
  | complete hc =>
    obtain ⟨deadline, hslot, -⟩ := hc.held
    rw [hx.eq_of_id hc.issued hin hid] at hslot
    exact hout ⟨deadline, hslot⟩

end CpaGateway.Lib.Lease
