import CpaGateway.Lib.Transition
import Mathlib.Algebra.Group.Nat.Defs
import Mathlib.Data.Finset.Card

/-! # The lease counter of one Credential

The number of live leases of a Credential is kept in one atomic counter. `tryAcquire` loads the
counter and tries to swap it for the next number, again and again while another thread gets in
between or the weak exchange fails for no reason; a dropped lease subtracts one. Threads take these
steps in any order. A lease lives from the exchange that granted it to the subtraction that ends it.
-/

namespace CpaGateway.Upstream.LeaseCounter

open Lib.Transition

/-- The number of values of the counter. -/
def modulus : ℕ := 2 ^ 64

/-- What the counter is kept for. -/
structure CredentialSlot where
  maximumConcurrency : ℕ
  fits : maximumConcurrency < modulus

/-- Where a thread is in `tryAcquire`. -/
inductive Phase
  | idle
  /-- The thread has the value that it will compare with the maximum and exchange. -/
  | observed (activeLeases : ℕ)
  deriving DecidableEq

variable {τ : Type} [DecidableEq τ]

/-- The counter, the threads, and the leases that have been granted and not dropped. -/
structure State (τ : Type) where
  activeLeases : ℕ
  phase : τ → Phase
  live : Finset ℕ

/-- No thread has done anything. -/
def initial : State τ where
  activeLeases := 0
  phase _ := .idle
  live := ∅

/-- What happens. -/
inductive Label (τ : Type)
  | load (thread : τ)
  /-- `tryAcquire` returns false. -/
  | refused (thread : τ)
  /-- `tryAcquire` returns true, for the lease. -/
  | granted (thread : τ) (lease : ℕ)
  /-- The exchange fails, since the counter has changed. -/
  | stale (thread : τ)
  /-- The weak exchange fails for no reason. -/
  | spurious (thread : τ)
  /-- A lease is dropped or released. -/
  | dropped (lease : ℕ)
  deriving DecidableEq

/-- The step of a thread of `tryAcquire`, or the end of a lease. -/
inductive Step (slot : CredentialSlot) : State τ → Label τ → State τ → Prop
  | load {s t} (h : s.phase t = .idle) :
      Step slot s (.load t) { s with phase := Function.update s.phase t (.observed s.activeLeases) }
  | refused {s t n} (h : s.phase t = .observed n) (hfull : slot.maximumConcurrency ≤ n) :
      Step slot s (.refused t) { s with phase := Function.update s.phase t .idle }
  | granted {s t n lease} (h : s.phase t = .observed n) (hroom : n < slot.maximumConcurrency)
      (hsame : s.activeLeases = n) (hfresh : lease ∉ s.live) :
      Step slot s (.granted t lease)
        { activeLeases := (n + 1) % modulus
          phase := Function.update s.phase t .idle
          live := insert lease s.live }
  | stale {s t n} (h : s.phase t = .observed n) (hroom : n < slot.maximumConcurrency)
      (hchanged : s.activeLeases ≠ n) :
      Step slot s (.stale t)
        { s with phase := Function.update s.phase t (.observed s.activeLeases) }
  | spurious {s t n} (h : s.phase t = .observed n) (hroom : n < slot.maximumConcurrency) :
      Step slot s (.spurious t)
        { s with phase := Function.update s.phase t (.observed s.activeLeases) }
  | dropped {s lease} (h : lease ∈ s.live) :
      Step slot s (.dropped lease)
        { s with
          activeLeases := (s.activeLeases + (modulus - 1)) % modulus
          live := s.live.erase lease }

variable {slot : CredentialSlot} {s s' : State τ} {l : Label τ} {t : τ} {tr : List (Label τ)}

/-! ### The counter -/

/-- What holds at every moment. -/
structure Counts (slot : CredentialSlot) (s : State τ) : Prop where
  counter : s.activeLeases = s.live.card
  bound : s.activeLeases ≤ slot.maximumConcurrency

omit [DecidableEq τ] in
theorem Counts.pos {lease : ℕ} (hs : Counts slot s) (h : lease ∈ s.live) : 0 < s.activeLeases := by
  rw [hs.counter]
  exact Finset.card_pos.mpr ⟨lease, h⟩

omit [DecidableEq τ] in
/-- Adding the largest value subtracts one, without underflow. -/
theorem Counts.sub_one (hs : Counts slot s) (hpos : 0 < s.activeLeases) :
    (s.activeLeases + (modulus - 1)) % modulus = s.activeLeases - 1 := by
  have hfits := slot.fits
  have hbound := hs.bound
  unfold modulus at hfits ⊢
  omega

theorem counts_step (hs : Counts slot s) (h : Step slot s l s') : Counts slot s' := by
  cases h with
  | load | refused | stale | spurious => exact ⟨hs.counter, hs.bound⟩
  | @granted t n lease _ hroom hsame hfresh =>
    have hnext : (n + 1) % modulus = n + 1 :=
      Nat.mod_eq_of_lt (lt_of_le_of_lt (Nat.succ_le_of_lt hroom) slot.fits)
    refine ⟨?_, ?_⟩
    · rw [hnext, Finset.card_insert_of_notMem hfresh, ← hs.counter, hsame]
    · rw [hnext]
      exact hroom
  | @dropped lease hlive =>
    have hsub := hs.sub_one (hs.pos hlive)
    refine ⟨?_, ?_⟩
    · rw [hsub, Finset.card_erase_of_mem hlive, hs.counter]
    · rw [hsub]
      exact le_trans (Nat.sub_le _ _) hs.bound

/-! ### An acquisition that runs alone -/

/-- The label is a step of `tryAcquire` on the thread. -/
def Acquires (t : τ) : Label τ → Prop
  | .load t' | .refused t' | .granted t' _ | .stale t' | .spurious t' => t' = t
  | .dropped _ => False

/-- The thread has an up-to-date observation below the maximum. -/
def Fresh (slot : CredentialSlot) (t : τ) (s : State τ) : Prop :=
  s.phase t = .observed s.activeLeases ∧ s.activeLeases < slot.maximumConcurrency

/-- Alone with a fresh observation, only a spurious failure keeps a thread from its lease. -/
theorem fresh_step (hs : Fresh slot t s) (h : Step slot s l s') (hl : Acquires t l) :
    (∃ lease, l = .granted t lease) ∨ l = .spurious t ∧ Fresh slot t s' := by
  obtain ⟨hphase, hroom⟩ := hs
  cases h with
  | load hidle =>
    cases (show _ = t from hl)
    rw [hphase] at hidle
    cases hidle
  | refused hobserved hfull =>
    cases (show _ = t from hl)
    cases hphase.symm.trans hobserved
    omega
  | granted => exact .inl ⟨_, by rw [show _ = t from hl]⟩
  | stale hobserved _ hchanged =>
    cases (show _ = t from hl)
    cases hphase.symm.trans hobserved
    exact absurd rfl hchanged
  | spurious =>
    cases (show _ = t from hl)
    exact .inr ⟨rfl, Function.update_self .., hroom⟩
  | dropped => exact hl.elim

/-- A run of the thread alone: some spurious failures, and then the lease. -/
def Granted (t : τ) (tr : List (Label τ)) : Prop :=
  ∃ k, tr = List.replicate k (.spurious t) ∨
    ∃ lease rest, tr = List.replicate k (.spurious t) ++ .granted t lease :: rest

theorem granted_of_run (h : Run (Step slot) s tr s') (hs : Fresh slot t s)
    (htr : ∀ l ∈ tr, Acquires t l) : Granted t tr := by
  induction h with
  | nil s => exact ⟨0, .inl rfl⟩
  | @cons s u v l tr hstep _ ih =>
    rcases fresh_step hs hstep (htr l List.mem_cons_self) with ⟨lease, rfl⟩ | ⟨rfl, hfresh⟩
    · exact ⟨0, .inr ⟨lease, tr, rfl⟩⟩
    · obtain ⟨k, rfl | ⟨lease, rest, rfl⟩⟩ :=
        ih hfresh fun l' hl' => htr l' (List.mem_cons_of_mem _ hl')
      · exact ⟨k + 1, .inl rfl⟩
      · exact ⟨k + 1, .inr ⟨lease, rest, rfl⟩⟩

/-- After any number of spurious failures the exchange can succeed. -/
theorem run_of_fresh {lease : ℕ} : ∀ {k : ℕ} {s : State τ}, Fresh slot t s → lease ∉ s.live →
    ∃ s', Run (Step slot) s (List.replicate k (.spurious t) ++ [.granted t lease]) s' ∧
      lease ∈ s'.live
  | 0, s, hs, hfresh =>
    ⟨_, .cons (.granted hs.1 hs.2 rfl hfresh) (.nil _), Finset.mem_insert_self _ _⟩
  | k + 1, s, hs, hfresh => by
    have hstep : Step slot s (.spurious t)
        { s with phase := Function.update s.phase t (.observed s.activeLeases) } :=
      .spurious hs.1 hs.2
    obtain ⟨s', hrun, hlive⟩ := run_of_fresh (k := k)
      (s := { s with phase := Function.update s.phase t (.observed s.activeLeases) })
      ⟨Function.update_self .., hs.2⟩ hfresh
    exact ⟨s', .cons hstep hrun, hlive⟩

/-- **The counter counts the leases**: over every interleaving it is the number of live leases, at
most the maximum, and positive whenever a lease ends. A thread that runs alone below the maximum is
granted a lease by its first exchange that does not fail spuriously. -/
theorem counter_counts_leases (hrun : Run (Step slot) initial tr s) :
    (s.activeLeases = s.live.card ∧ s.activeLeases ≤ slot.maximumConcurrency) ∧
    (∀ lease s', Step slot s (.dropped lease) s' →
      0 < s.activeLeases ∧ s'.activeLeases = s.activeLeases - 1) ∧
    ∀ t, s.phase t = .idle → s.activeLeases < slot.maximumConcurrency →
      (∀ k lease, lease ∉ s.live → ∃ s', Run (Step slot) s
        (.load t :: (List.replicate k (.spurious t) ++ [.granted t lease])) s' ∧ lease ∈ s'.live) ∧
      ∀ alone s', Run (Step slot) s (.load t :: alone) s' → (∀ l ∈ alone, Acquires t l) →
        Granted t alone := by
  have hs := hrun.keeps (fun _ _ _ => counts_step) ⟨rfl, Nat.zero_le _⟩
  refine ⟨⟨hs.counter, hs.bound⟩, ?_, fun t hidle hroom => ⟨?_, ?_⟩⟩
  · intro lease s' hstep
    cases hstep with
    | dropped hlive => exact ⟨hs.pos hlive, hs.sub_one (hs.pos hlive)⟩
  · intro k lease hfresh
    obtain ⟨s', hsolo, hlive⟩ := run_of_fresh (k := k)
      (s := { s with phase := Function.update s.phase t (.observed s.activeLeases) })
      ⟨Function.update_self .., hroom⟩ hfresh
    exact ⟨s', .cons (.load hidle) hsolo, hlive⟩
  · intro alone s' hsolo halone
    cases hsolo with
    | cons hload hrest =>
      cases hload with
      | load => exact granted_of_run hrest ⟨Function.update_self .., hroom⟩ halone

/-- Two threads contend for the single lease of a Credential; the loser observes the full counter.
-/
theorem counter_counts_leases_two_threads : ∃ s : State Bool,
    Run (Step ⟨1, by decide⟩) initial
      [.load true, .load false, .granted true 0, .stale false, .refused false] s ∧
      s.activeLeases = s.live.card := by
  have hrun : Run (Step ⟨1, by decide⟩) (initial : State Bool)
      [.load true, .load false, .granted true 0, .stale false, .refused false] _ :=
    .cons (.load rfl) <| .cons (.load rfl) <|
      .cons (.granted rfl (by decide) rfl (by decide)) <|
      .cons (.stale rfl (by decide) (by decide)) <| .cons (.refused rfl (by decide)) <| .nil _
  exact ⟨_, hrun, (counter_counts_leases hrun).1.1⟩

end CpaGateway.Upstream.LeaseCounter
