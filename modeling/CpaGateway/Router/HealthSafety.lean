import CpaGateway.Lib.Tickets
import CpaGateway.Router.HealthHistory

/-! # Safety of the runtime health registry

What every history of the registry guarantees about blocked accounts, tickets and open circuits. -/

namespace CpaGateway.Router.HealthSafety

open Core.Identity Router.RuntimeHealth Router.HealthHistory Lib.Effect Lib.Temporal Lib.Tickets
open Lib.Transition RuntimeHealthRegistry

/-! ### What a label says -/

@[simp] def Marks (key : RuntimeHealthKey) : Label → Prop
  | (⟨_, .markCredentialForbidden e c⟩, .ok _) => .endpointCredential e c = key
  | (⟨_, .markCredentialUnauthorized e c⟩, .ok _) => .endpointCredential e c = key
  | _ => False

@[simp] def IssuesRecovery (probe : RuntimeHealthAccountRecoveryProbe) : Label → Prop
  | (⟨_, .beginAccountRecovery ..⟩, .ok (.recovery (some issued))) => issued = probe
  | _ => False

@[simp] def AcceptsRecovery (probe : RuntimeHealthAccountRecoveryProbe)
    (result : RuntimeHealthAccountRecoveryResult) : Label → Prop
  | (⟨_, .completeAccountRecovery presented given⟩, .ok _) => presented = probe ∧ given = result
  | _ => False

@[simp] def IssuesProbe (probe : RuntimeHealthCircuitProbe) : Label → Prop
  | (⟨_, .beginCircuitProbe ..⟩, .ok (.probe (some issued))) => issued = probe
  | _ => False

@[simp] def AcceptsProbe (probe : RuntimeHealthCircuitProbe)
    (result : RuntimeHealthCircuitProbeResult) : Label → Prop
  | (⟨_, .completeCircuitProbe presented given⟩, .ok _) => presented = probe ∧ given = result
  | _ => False

@[simp] def MarksHealthy (key : RuntimeHealthKey) : Label → Prop
  | (⟨_, .markHealthy healthy⟩, .ok _) => healthy = key
  | _ => False

@[simp] def OpensCircuit (key : RuntimeHealthKey) : Label → Prop
  | (⟨_, .openCircuitUntil opened _⟩, .ok _) => opened = key
  | _ => False

variable {r r' : RuntimeHealthRegistry} {l : Label} {key : RuntimeHealthKey}

/-- What ends the recovery of a key: a mark, a new ticket, or the end of its ticket. -/
@[simp] def DisturbsRecovery (key : RuntimeHealthKey) (l : Label) : Prop :=
  Marks key l ∨ (∃ probe, probe.key = key ∧ IssuesRecovery probe l) ∨
    ∃ probe result, probe.key = key ∧ AcceptsRecovery probe result l

/-- What ends the probe of a key: a mark of either kind, the opening of its circuit, a new ticket,
or the end of its ticket. -/
@[simp] def DisturbsProbe (key : RuntimeHealthKey) (l : Label) : Prop :=
  Marks key l ∨ MarksHealthy key l ∨ OpensCircuit key l ∨
    (∃ probe, probe.key = key ∧ IssuesProbe probe l) ∨
    ∃ probe result, probe.key = key ∧ AcceptsProbe probe result l

/-! ### The changes of a key -/

/-- The ways in which a call changes the state of a key. -/
inductive Change (key : RuntimeHealthKey) (l : Label) :
    Option RuntimeHealthState → Option RuntimeHealthState → Prop
  | rests {s} (hrecovery : ¬ DisturbsRecovery key l) (hprobe : Blocked s ∨ ¬ DisturbsProbe key l) :
      Change key l s s
  | dropped {untilMs} : Change key l (some (.coolingDown untilMs)) none
  | marked {s state} (h : Marks key l)
      (hstate : state = .accountForbidden ∨ state = .credentialUnauthorized) :
      Change key l s (some state)
  | recovering {s probe} (h : IssuesRecovery probe l) (hkey : probe.key = key) (hs : Blocked s) :
      Change key l s (some (.accountRecoveryInFlight probe.probeId probe.expiresAtMs))
  | recovered {probe result} (h : AcceptsRecovery probe result l) (hkey : probe.key = key)
      (hclock : ∃ now, l.1.clock = .ok now ∧ now < probe.expiresAtMs) :
      Change key l (some (.accountRecoveryInFlight probe.probeId probe.expiresAtMs))
        (recovered result)
  | cooled {s untilMs} (hblocked : ¬ Blocked s) (hopen : ¬ Open s) :
      Change key l s (some (.coolingDown untilMs))
  | opened {s retryAfterMs} (hblocked : ¬ Blocked s) :
      Change key l s (some (.circuitOpen retryAfterMs))
  | healed {s} (h : MarksHealthy key l) (hblocked : ¬ Blocked s) : Change key l s none
  | probing {s retryAfterMs probe} (h : IssuesProbe probe l) (hkey : probe.key = key)
    (hs : Open s) :
      Change key l s (some (.circuitHalfOpen retryAfterMs probe.probeId probe.expiresAtMs))
  | probed {retryAfterMs probe result} (h : AcceptsProbe probe result l) (hkey : probe.key = key)
      (hclock : ∃ now, l.1.clock = .ok now ∧ now < probe.expiresAtMs) :
      Change key l (some (.circuitHalfOpen retryAfterMs probe.probeId probe.expiresAtMs))
        (probed result)

variable {s s' : Option RuntimeHealthState}

theorem change_of_spared (h : Spared s s')
    (hrecovery : ¬ DisturbsRecovery key l) (hprobe : ¬ DisturbsProbe key l) :
    Change key l s s' := by
  obtain rfl | ⟨untilMs, rfl, rfl⟩ := h
  · exact .rests hrecovery (.inr hprobe)
  · exact .dropped

theorem change_of_moves (h : Moves key l s s') : Change key l s s' := by
  obtain ⟨⟨clock, request⟩, o⟩ := l
  rcases o with error | reply
  · exact change_of_spared (by cases request <;> exact h) (by simp) (by simp)
  cases request with
  | markCredentialForbidden e c | markCredentialUnauthorized e c =>
    simp only [Moves] at h
    split_ifs at h with hkey
    · subst h
      exact .marked hkey.symm (by simp)
    · exact change_of_spared h (by simpa using Ne.symm hkey) (by simpa using Ne.symm hkey)
  | beginAccountRecovery e c expires =>
    rcases reply with _ | (_ | probe) | _
    case recovery.some =>
      obtain ⟨-, h⟩ := h
      split_ifs at h with hkey
      · obtain ⟨hblocked, rfl⟩ := h
        exact .recovering rfl hkey.symm hblocked
      · subst h
        exact .rests (by simpa using Ne.symm hkey) (.inr (by simp))
    all_goals exact change_of_spared h (by simp) (by simp)
  | completeAccountRecovery probe result =>
    simp only [Moves] at h
    split_ifs at h with hkey
    · obtain ⟨rfl, hclock, rfl⟩ := h
      exact .recovered ⟨rfl, rfl⟩ hkey.symm hclock
    · subst h
      exact .rests (by simpa using Ne.symm hkey) (.inr (by simp))
  | coolDownUntil key' untilMs =>
    simp only [Moves] at h
    split_ifs at h with hkey
    · obtain ⟨-, rfl⟩ | ⟨hblocked, hopen, _, rfl⟩ := h
      · exact .rests (by simp) (.inr (by simp))
      · exact .cooled hblocked hopen
    · exact change_of_spared h (by simp) (by simp)
  | openCircuitUntil key' retryAfterMs =>
    simp only [Moves] at h
    split_ifs at h with hkey
    · obtain ⟨hblocked, rfl⟩ | ⟨hblocked, _, rfl⟩ := h
      · exact .rests (by simp) (.inl hblocked)
      · exact .opened hblocked
    · exact change_of_spared h (by simp) (by simpa using Ne.symm hkey)
  | markHealthy key' =>
    simp only [Moves] at h
    split_ifs at h with hkey
    · obtain ⟨hblocked, rfl⟩ | ⟨hblocked, rfl⟩ := h
      · exact .rests (by simp) (.inl hblocked)
      · exact .healed hkey.symm hblocked
    · subst h
      exact .rests (by simp) (.inr (by simpa using Ne.symm hkey))
  | beginCircuitProbe key' expires =>
    rcases reply with _ | _ | (_ | probe)
    case probe.some =>
      obtain ⟨-, h⟩ := h
      split_ifs at h with hkey
      · obtain ⟨hopen, _, rfl⟩ := h
        exact .probing rfl hkey.symm hopen
      · subst h
        exact .rests (by simp) (.inr (by simpa using Ne.symm hkey))
    all_goals exact change_of_spared h (by simp) (by simp)
  | completeCircuitProbe probe result =>
    simp only [Moves] at h
    split_ifs at h with hkey
    · obtain ⟨⟨_, rfl⟩, hclock, rfl⟩ := h
      exact .probed ⟨rfl, rfl⟩ hkey.symm hclock
    · subst h
      exact .rests (by simp) (.inr (by simpa using Ne.symm hkey))

theorem change_of_step (h : Step r l r') (key : RuntimeHealthKey) :
    Change key l (r.entry key) (r'.entry key) := change_of_moves (moves_of_step h key)

/-! ### Blocked accounts and open circuits -/

theorem not_open_of_blocked (hs : Blocked s) : ¬ Open s := by
  rcases s with _ | state
  · exact hs.elim
  · cases state <;> first | exact hs.elim | exact id

/-- A blocked key stays blocked, whatever is done, but for an accepted recovery. -/
theorem blocked_of_change (h : Change key l s s') (hs : Blocked s)
    (hl : ∀ probe, probe.key = key → ¬ AcceptsRecovery probe .allowed l) : Blocked s' := by
  cases h with
  | rests => exact hs
  | marked _ hstate => rcases hstate with rfl | rfl <;> trivial
  | recovering => trivial
  | @recovered probe result haccepts hkey =>
    cases result with
    | allowed => exact absurd haccepts (hl probe hkey)
    | forbidden => trivial
  | dropped | probed => exact hs.elim
  | cooled hblocked | opened hblocked | healed _ hblocked => exact absurd hs hblocked
  | probing _ _ hopen => exact absurd hopen (not_open_of_blocked hs)

theorem blocked_of_marks (h : Step r l r') (hl : Marks key l) : Blocked (r'.entry key) := by
  have hmoves := moves_of_step h key
  unfold Marks at hl
  split at hl
  case h_3 => exact hl.elim
  all_goals
    rw [Moves, if_pos hl.symm] at hmoves
    rw [hmoves]
    trivial

/-- A circuit stays open or gives way to a blocked account, but for an explicit recovery. -/
theorem open_of_change (h : Change key l s s') (hs : Open s) (hhealthy : ¬ MarksHealthy key l)
    (hprobe : ∀ probe, probe.key = key → ¬ AcceptsProbe probe .healthy l) :
    Open s' ∨ Marks key l := by
  cases h with
  | rests => exact .inl hs
  | marked hmarks => exact .inr hmarks
  | opened | probing => exact .inl trivial
  | @probed _ probe result haccepts hkey =>
    cases result with
    | healthy => exact absurd haccepts (hprobe probe hkey)
    | unhealthy => exact .inl trivial
  | dropped | recovered => exact hs.elim
  | recovering _ _ hblocked => exact absurd hs (not_open_of_blocked hblocked)
  | cooled _ hopen => exact absurd hs hopen
  | healed h => exact absurd h hhealthy

/-! ### The two kinds of tickets -/

/-- The state of a key that waits for a recovery ticket. -/
def HoldsRecovery (r : RuntimeHealthRegistry) (probe : RuntimeHealthAccountRecoveryProbe) : Prop :=
  r.entry probe.key = some (.accountRecoveryInFlight probe.probeId probe.expiresAtMs)

/-- The state of a key that waits for a probe ticket. -/
def HoldsProbe (r : RuntimeHealthRegistry) (probe : RuntimeHealthCircuitProbe) : Prop :=
  ∃ retryAfterMs,
    r.entry probe.key = some (.circuitHalfOpen retryAfterMs probe.probeId probe.expiresAtMs)

variable {probe : RuntimeHealthAccountRecoveryProbe} {result : RuntimeHealthAccountRecoveryResult}

theorem recovery_of_accepts (h : Step r l r') (hl : AcceptsRecovery probe result l) :
    HoldsRecovery r probe ∧ (∃ now, l.1.clock = .ok now ∧ now < probe.expiresAtMs) := by
  have hmoves := moves_of_step h probe.key
  unfold AcceptsRecovery at hl
  split at hl
  · obtain ⟨rfl, rfl⟩ := hl
    rw [Moves, if_pos rfl] at hmoves
    exact ⟨hmoves.1, hmoves.2.1⟩
  · exact hl.elim

theorem probe_of_accepts {probe : RuntimeHealthCircuitProbe}
    {result : RuntimeHealthCircuitProbeResult} (h : Step r l r')
    (hl : AcceptsProbe probe result l) :
    HoldsProbe r probe ∧ (∃ now, l.1.clock = .ok now ∧ now < probe.expiresAtMs) := by
  have hmoves := moves_of_step h probe.key
  unfold AcceptsProbe at hl
  split at hl
  · obtain ⟨rfl, rfl⟩ := hl
    rw [Moves, if_pos rfl] at hmoves
    exact ⟨hmoves.1, hmoves.2.1⟩
  · exact hl.elim

theorem recovery_of_change (h : Change probe.key l s s')
    (hs' : s' = some (.accountRecoveryInFlight probe.probeId probe.expiresAtMs)) :
    IssuesRecovery probe l ∨
      s = some (.accountRecoveryInFlight probe.probeId probe.expiresAtMs) ∧
        ¬ DisturbsRecovery probe.key l := by
  cases h with
  | rests hrecovery => exact .inr ⟨hs', hrecovery⟩
  | @recovering _ issued hissues hkey =>
    obtain ⟨key, probeId, expires⟩ := issued
    cases hs'
    cases hkey
    exact .inl hissues
  | marked _ hstate => rcases hstate with rfl | rfl <;> cases hs'
  | @recovered _ result | @probed _ _ result => cases result <;> cases hs'
  | _ => cases hs'

theorem probe_of_change {probe : RuntimeHealthCircuitProbe} (h : Change probe.key l s s')
    (hs' : ∃ retryAfterMs,
      s' = some (.circuitHalfOpen retryAfterMs probe.probeId probe.expiresAtMs)) :
    IssuesProbe probe l ∨
      (∃ retryAfterMs, s = some (.circuitHalfOpen retryAfterMs probe.probeId probe.expiresAtMs)) ∧
        ¬ DisturbsProbe probe.key l := by
  obtain ⟨retryAfterMs, hs'⟩ := hs'
  cases h with
  | rests _ hprobe =>
    refine .inr ⟨⟨retryAfterMs, hs'⟩, hprobe.resolve_left ?_⟩
    rw [hs']
    exact id
  | @probing _ _ issued hissues hkey =>
    obtain ⟨key, probeId, expires⟩ := issued
    cases hs'
    cases hkey
    exact .inl hissues
  | marked _ hstate => rcases hstate with rfl | rfl <;> cases hs'
  | @recovered _ result | @probed _ _ result => cases result <;> cases hs'
  | _ => cases hs'

theorem sequences_le (h : Step r l r') :
    r.nextCircuitProbeId ≤ r'.nextCircuitProbeId ∧
      r.nextAccountRecoveryProbeId ≤ r'.nextAccountRecoveryProbeId := by
  have hdraws := (does_of_step h).draws
  unfold Draws sequences at hdraws
  split at hdraws <;> simp only [Prod.mk.injEq] at hdraws <;> omega

theorem number_of_issuesRecovery (h : Step r l r')
    (hl : IssuesRecovery probe l) : probe.probeId = r.nextAccountRecoveryProbeId ∧
      r.nextAccountRecoveryProbeId < r'.nextAccountRecoveryProbeId := by
  have hdraws := (does_of_step h).draws
  unfold IssuesRecovery at hl
  split at hl
  · subst hl
    simp only [Draws, sequences, Prod.mk.injEq] at hdraws
    omega
  · exact hl.elim

theorem number_of_issuesProbe {probe : RuntimeHealthCircuitProbe} (h : Step r l r')
    (hl : IssuesProbe probe l) : probe.probeId = r.nextCircuitProbeId ∧
      r.nextCircuitProbeId < r'.nextCircuitProbeId := by
  have hdraws := (does_of_step h).draws
  unfold IssuesProbe at hl
  split at hl
  · subst hl
    simp only [Draws, sequences, Prod.mk.injEq] at hdraws
    omega
  · exact hl.elim

def recoveries : Ticketing Step RuntimeHealthAccountRecoveryProbe RuntimeHealthKey where
  slot := RuntimeHealthAccountRecoveryProbe.key
  number := RuntimeHealthAccountRecoveryProbe.probeId
  issues := IssuesRecovery
  accepts probe l := ∃ result, AcceptsRecovery probe result l
  disturbs := DisturbsRecovery
  holds := HoldsRecovery
  next := nextAccountRecoveryProbeId
  held_of_accepts h := fun ⟨_, hl⟩ => (recovery_of_accepts h hl).1
  disturbs_of_issues h := .inr (.inl ⟨_, rfl, h⟩)
  disturbs_of_accepts := fun ⟨result, h⟩ => .inr (.inr ⟨_, result, rfl, h⟩)
  of_holds h := recovery_of_change (change_of_step h _)
  number_of_issues := number_of_issuesRecovery
  next_le h := (sequences_le h).2

def probes : Ticketing Step RuntimeHealthCircuitProbe RuntimeHealthKey where
  slot := RuntimeHealthCircuitProbe.key
  number := RuntimeHealthCircuitProbe.probeId
  issues := IssuesProbe
  accepts probe l := ∃ result, AcceptsProbe probe result l
  disturbs := DisturbsProbe
  holds := HoldsProbe
  next := nextCircuitProbeId
  held_of_accepts h := fun ⟨_, hl⟩ => (probe_of_accepts h hl).1
  disturbs_of_issues h := .inr (.inr (.inr (.inl ⟨_, rfl, h⟩)))
  disturbs_of_accepts := fun ⟨result, h⟩ => .inr (.inr (.inr (.inr ⟨_, result, rfl, h⟩)))
  of_holds h := probe_of_change (change_of_step h _)
  number_of_issues := number_of_issuesProbe
  next_le h := (sequences_le h).1

section Histories

variable {hash : RuntimeHealthKey → ℕ} {shardCount : ℕ} {tr : List Label}

theorem fresh_recoveries : recoveries.Fresh (withShards hash shardCount) := fun _ h => by cases h

theorem fresh_probes : probes.Fresh (withShards hash shardCount) := fun _ ⟨_, h⟩ => by cases h

/-- The shards keep within their capacity, so that a failed call leaves nothing behind. -/
theorem fits_of_run (hrun : Run Step (withShards hash shardCount) tr r) : Fits r :=
  hrun.keeps (fun _ _ _ h hstep => ((does_of_step hstep).fits h).1) fun _ => Nat.zero_le _

theorem eq_of_failed {call : Call} {e : RuntimeHealthError}
    (hrun : Run Step (withShards hash shardCount) tr r) (h : Step r (call, .error e) r') : r' = r :=
  ((does_of_step h).fits (fits_of_run hrun)).2 e rfl

theorem accountStatus_of_blocked {e : EndpointId} {c : CredentialId}
    (h : Blocked (r.entry (.endpointCredential e c))) (now : ℤ) :
    r.credentialAccountStatusAt e c now ≠ .available := by
  unfold credentialAccountStatusAt
  generalize r.entry _ = s at h ⊢
  rcases s with _ | state
  · exact h.elim
  cases state with
  | accountRecoveryInFlight _ expires =>
    simp only [RuntimeHealthState.accountStatusAt]
    split_ifs <;> simp
  | accountForbidden | credentialUnauthorized => simp [RuntimeHealthState.accountStatusAt]
  | _ => exact h.elim

/-- **Blocked accounts.** After a mark of a binding its account is blocked at every time, until a
completion with `Allowed` is accepted; and a completion is accepted only while its ticket has not
expired, if it is the last one issued for the binding and no mark has been recorded since. -/
theorem account_blocked_until_allowed (hrun : Run Step (withShards hash shardCount) tr r)
    (e : EndpointId) (c : CredentialId) :
    (Since (Marks (.endpointCredential e c))
      (fun l => ∀ probe, probe.key = .endpointCredential e c →
        ¬ AcceptsRecovery probe .allowed l) tr →
      ∀ now, r.credentialAccountStatusAt e c now ≠ .available) ∧
    ∀ a l b probe, tr = a ++ l :: b → probe.key = .endpointCredential e c →
      AcceptsRecovery probe .allowed l →
        (∃ now, l.1.clock = .ok now ∧ now < probe.expiresAtMs) ∧
        Since (IssuesRecovery probe) (fun l => ¬ Marks (.endpointCredential e c) l ∧
          ∀ later, later.key = .endpointCredential e c → ¬ IssuesRecovery later l) a := by
  constructor
  · intro hsince
    have hblocked : Blocked (r.entry (.endpointCredential e c)) :=
      Run.of_since (S := fun r => Blocked (r.entry (.endpointCredential e c))) hrun hsince
        (fun _ _ _ hstep hmarks => blocked_of_marks hstep hmarks)
        (fun _ _ _ hstep hl hs => blocked_of_change (change_of_step hstep _) hs hl)
    exact accountStatus_of_blocked hblocked
  · rintro a l b probe rfl hkey haccepts
    obtain ⟨s, s', hbefore, hstep, -⟩ := hrun.at_label
    obtain ⟨hheld, hclock⟩ := recovery_of_accepts hstep haccepts
    refine ⟨hclock, (recoveries.issued_since fresh_recoveries hbefore hheld).mono (fun _ _ h => h)
      fun l' _ hquiet => ?_⟩
    rw [← hkey]
    exact ⟨fun hmarks => hquiet (.inl hmarks),
      fun later hlater hissues => hquiet (.inr (.inl ⟨later, hlater, hissues⟩))⟩

/-! ### A binding that is blocked and recovered -/

def sampleEndpoint : EndpointId := .lit "e"

def sampleCredential : CredentialId := .lit "c"

def sampleKey : RuntimeHealthKey := .endpointCredential sampleEndpoint sampleCredential

def sampleRegistry : RuntimeHealthRegistry := withShards (fun _ => 0) 64

/-- A binding is forbidden at 0, and its recovery starts at 1 and is to end before 5. -/
def sampleBlock : List Call :=
  [⟨.ok 0, .markCredentialForbidden sampleEndpoint sampleCredential⟩,
   ⟨.ok 1, .beginAccountRecovery sampleEndpoint sampleCredential 5⟩]

/-- The recovery ends at 2. -/
def sampleAllow : Call := ⟨.ok 2, .completeAccountRecovery ⟨sampleKey, 1, 5⟩ .allowed⟩

theorem account_blocked_sample :
    (play respond sampleRegistry sampleBlock).2.credentialAccountStatusAt
        sampleEndpoint sampleCredential 100 ≠ .available ∧
      Since (IssuesRecovery ⟨sampleKey, 1, 5⟩) (fun l => ¬ Marks sampleKey l ∧
          ∀ later, later.key = sampleKey → ¬ IssuesRecovery later l)
        (play respond sampleRegistry sampleBlock).1 := by
  constructor
  · refine (account_blocked_until_allowed (run_play respond sampleBlock sampleRegistry)
      sampleEndpoint sampleCredential).1 ⟨[], _, _, rfl, rfl, ?_⟩ 100
    intro l hl
    obtain rfl : l = (⟨.ok 1, .beginAccountRecovery sampleEndpoint sampleCredential 5⟩, _) :=
      List.mem_singleton.mp hl
    exact fun _ _ => id
  · exact ((account_blocked_until_allowed
      (run_play respond (sampleBlock ++ [sampleAllow]) sampleRegistry)
      sampleEndpoint sampleCredential).2 _ (sampleAllow, .ok .done) [] ⟨sampleKey, 1, 5⟩ rfl rfl
      ⟨rfl, rfl⟩).2

/-! ### Tickets -/

section Completion

variable {τ β : Type}

/-- What a history that led to `r` guarantees for one kind of tickets, with `complete` the operation
that takes them back. -/
structure TicketGuarantees (key : τ → RuntimeHealthKey) (expiresAtMs : τ → ℤ)
    (issues accepts : τ → Label → Prop) (complete : τ → β → Reading → Operation Unit)
    (tr : List Label) (r : RuntimeHealthRegistry) : Prop where
  /-- At any moment at most one ticket of a key is able to complete. -/
  exclusive : ∀ {x y result result' clock clock' r₁ r₂}, key x = key y →
    (complete x result clock).call r = (.ok (), r₁) →
    (complete y result' clock').call r = (.ok (), r₂) → x = y
  /-- No ticket is accepted twice. -/
  once : ∀ {a l b l' c x}, tr = a ++ l :: (b ++ l' :: c) → accepts x l → ¬ accepts x l'
  /-- A ticket that was superseded is refused, and nothing changes. -/
  superseded : ∀ {a l b l' x y}, tr = a ++ l :: b → issues x l → l' ∈ b → issues y l' →
    key y = key x → ∀ result clock, ∃ e, (complete x result clock).call r = (.error e, r)
  /-- So is a ticket that was accepted before. -/
  used : ∀ {l x}, l ∈ tr → accepts x l →
    ∀ result clock, ∃ e, (complete x result clock).call r = (.error e, r)
  /-- So is a ticket that has expired. -/
  expired : ∀ {x now}, expiresAtMs x ≤ now →
    ∀ result, ∃ e, (complete x result (.ok now)).call r = (.error e, r)

/-- The guarantees follow when only a ticket that is held and has not expired is taken back, and a
failure changes nothing. -/
theorem ticketGuarantees {T : Ticketing Step τ RuntimeHealthKey} {expiresAtMs : τ → ℤ}
    {complete : τ → β → Reading → Operation Unit} {s : RuntimeHealthRegistry} (hfresh : T.Fresh s)
    (hrun : Run Step s tr r)
    (hunique : ∀ {r x y}, T.slot x = T.slot y → T.holds r x → T.holds r y → x = y)
    (hok : ∀ {x result clock r r'}, (complete x result clock).call r = (.ok (), r') →
      T.holds r x ∧ ∃ now, clock = .ok now ∧ now < expiresAtMs x)
    (herror : ∀ {x result clock e r'}, (complete x result clock).call r = (.error e, r') → r' = r) :
    TicketGuarantees T.slot expiresAtMs T.issues T.accepts complete tr r := by
  have hrefused : ∀ {x result clock},
      (∀ now, T.holds r x → clock = .ok now → expiresAtMs x ≤ now) →
      ∃ e, (complete x result clock).call r = (.error e, r) := by
    intro x result clock h
    rcases hcall : (complete x result clock).call r with ⟨e | u, r'⟩
    · exact ⟨e, by rw [herror hcall]⟩
    · obtain ⟨hheld, now, hclock, hnow⟩ := hok hcall
      have := h now hheld hclock
      omega
  refine ⟨fun hkey hx hy => hunique hkey (hok hx).1 (hok hy).1, ?_, ?_, ?_, ?_⟩
  · rintro a l b l' c x rfl hx hx'
    rw [show a ++ l :: (b ++ l' :: c) = (a ++ l :: b) ++ l' :: c by simp] at hrun
    obtain ⟨u, u', hbefore, hstep, -⟩ := hrun.at_label
    exact T.not_holds_of_accepted hfresh hbefore ⟨l, by simp, hx⟩ (T.held_of_accepts hstep hx')
  · rintro a l b l' x y rfl hx hl' hy hkey result clock
    have hdisturbs : T.disturbs (T.slot x) l' := hkey ▸ T.disturbs_of_issues hy
    have hlost := Ticketing.not_holds_of_disturbed hrun hx ⟨l', hl', hdisturbs⟩
    exact hrefused fun _ hheld => absurd hheld hlost
  · intro l x hl hx result clock
    have hlost := T.not_holds_of_accepted hfresh hrun ⟨l, hl, hx⟩
    exact hrefused fun _ hheld => absurd hheld hlost
  · rintro x now hexpired result
    exact hrefused fun _ _ hclock => Except.ok.inj hclock ▸ hexpired

variable {clock : Reading}

theorem step_of_completes {m : Operation Unit} {o : Except RuntimeHealthError Unit}
    (h : m.call r = (o, r')) :
    (m >>= fun _ => pure Reply.done).call r = (o.map fun _ => .done, r') := by
  rw [call_bind, h]
  cases o <;> rfl

end Completion

/-! ### Open circuits -/

/-- How a key with an open circuit after the history `a` became available in the course of `b`. -/
inductive Restored (key : RuntimeHealthKey) (a b : List Label) : Prop
  | healthy {l : Label} (hl : l ∈ b) (h : MarksHealthy key l)
  /-- The current probe ticket was completed as healthy before it expired. -/
  | probe {b₁ b₂ : List Label} {l : Label} {probe : RuntimeHealthCircuitProbe}
      (hb : b = b₁ ++ l :: b₂) (hkey : probe.key = key) (h : AcceptsProbe probe .healthy l)
      (hclock : ∃ now, l.1.clock = .ok now ∧ now < probe.expiresAtMs)
      (hcurrent : Since (IssuesProbe probe) (fun l => ¬ DisturbsProbe key l) (a ++ b₁))
  /-- The circuit gave way to a blocked account, and the account was recovered. -/
  | account {b₁ b₂ b₃ : List Label} {l l' : Label} {probe : RuntimeHealthAccountRecoveryProbe}
      (hb : b = b₁ ++ l :: (b₂ ++ l' :: b₃)) (hmarks : Marks key l) (hkey : probe.key = key)
      (h : AcceptsRecovery probe .allowed l')

theorem Restored.snoc {a b : List Label} (h : Restored key a b) (l : Label) :
    Restored key a (b ++ [l]) := by
  cases h with
  | healthy hl h => exact .healthy (List.mem_append_left _ hl) h
  | probe hb hkey h hclock hcurrent => exact .probe (by rw [hb]; simp; rfl) hkey h hclock hcurrent
  | account hb hmarks hkey h => exact .account (by rw [hb]; simp; rfl) hmarks hkey h

/-- The circuit of the key is open, or an account block has replaced it, or it was restored. -/
def Guarded (key : RuntimeHealthKey) (a b : List Label) (r : RuntimeHealthRegistry) : Prop :=
  Open (r.entry key) ∨ ((∃ l ∈ b, Marks key l) ∧ Blocked (r.entry key)) ∨ Restored key a b

theorem guarded_step {s : RuntimeHealthRegistry} {a b : List Label}
    (hrun : Run Step (withShards hash shardCount) (a ++ b) r) (hguarded : Guarded key a b r)
    (hstep : Step r l s) : Guarded key a (b ++ [l]) s := by
  have hchange := change_of_step hstep key
  rcases hguarded with hopen | ⟨⟨m, hm, hmarks⟩, hblocked⟩ | hrestored
  · by_cases hhealthy : MarksHealthy key l
    · exact .inr (.inr (.healthy (by simp) hhealthy))
    by_cases hprobe : ∃ probe, probe.key = key ∧ AcceptsProbe probe .healthy l
    · obtain ⟨probe, rfl, haccepts⟩ := hprobe
      obtain ⟨hheld, hclock⟩ := probe_of_accepts hstep haccepts
      exact .inr (.inr (.probe rfl rfl haccepts hclock
        (probes.issued_since fresh_probes hrun hheld)))
    rcases open_of_change hchange hopen hhealthy fun p hp h => hprobe ⟨p, hp, h⟩ with hopen | hmarks
    · exact .inl hopen
    · exact .inr (.inl ⟨⟨l, by simp, hmarks⟩, blocked_of_marks hstep hmarks⟩)
  · by_cases hallowed : ∃ probe, probe.key = key ∧ AcceptsRecovery probe .allowed l
    · obtain ⟨probe, hkey, haccepts⟩ := hallowed
      obtain ⟨b₁, b₂, rfl⟩ := List.append_of_mem hm
      exact .inr (.inr (.account (by simp; rfl) hmarks hkey haccepts))
    · exact .inr (.inl ⟨⟨m, by simp [hm], hmarks⟩,
        blocked_of_change hchange hblocked fun p hp h => hallowed ⟨p, hp, h⟩⟩)
  · exact .inr (.inr (hrestored.snoc l))

theorem open_of_circuitOpen {now deadline : ℤ}
    (h : r.availabilityAt key now = .circuitOpen deadline) : Open (r.entry key) := by
  unfold availabilityAt at h
  generalize r.entry key = s at h ⊢
  rcases s with _ | state
  · cases h
  cases state with
  | circuitOpen | circuitHalfOpen => trivial
  | coolingDown untilMs | accountRecoveryInFlight _ untilMs =>
    simp only [RuntimeHealthState.availabilityAt] at h
    split_ifs at h
  | _ => cases h

theorem not_open_of_available {now : ℤ} (h : r.availabilityAt key now = .available) :
    ¬ Open (r.entry key) ∧ ¬ Blocked (r.entry key) := by
  unfold availabilityAt at h
  generalize r.entry key = s at h ⊢
  rcases s with _ | state
  · exact ⟨id, id⟩
  cases state with
  | coolingDown => exact ⟨id, id⟩
  | accountRecoveryInFlight _ untilMs =>
    simp only [RuntimeHealthState.availabilityAt] at h
    split_ifs at h
  | _ => cases h

/-- **Tickets and circuits.** -/
theorem tickets_and_circuits (hrun : Run Step (withShards hash shardCount) tr r) :
    TicketGuarantees RuntimeHealthCircuitProbe.key RuntimeHealthCircuitProbe.expiresAtMs IssuesProbe
      (fun probe l => ∃ result, AcceptsProbe probe result l) completeCircuitProbe tr r ∧
    TicketGuarantees RuntimeHealthAccountRecoveryProbe.key
      RuntimeHealthAccountRecoveryProbe.expiresAtMs IssuesRecovery
      (fun probe l => ∃ result, AcceptsRecovery probe result l) completeAccountRecovery tr r ∧
    ∀ a b s key now deadline now', tr = a ++ b → Run Step (withShards hash shardCount) a s →
      Run Step s b r → s.availabilityAt key now = .circuitOpen deadline →
      r.availabilityAt key now' = .available → Restored key a b := by
  refine ⟨?_, ?_, ?_⟩
  · refine ticketGuarantees (T := probes) fresh_probes hrun ?_
      (fun {x result clock _ _} h =>
        probe_of_accepts (l := (⟨clock, .completeCircuitProbe x result⟩, _))
        (step_of_completes h) ⟨rfl, rfl⟩)
      fun {x result clock e r'} h => eq_of_failed hrun
        (show Step r (⟨clock, .completeCircuitProbe x result⟩, .error e) r'
          from step_of_completes h)
    rintro r ⟨key, id, expires⟩ ⟨key', id', expires'⟩ hkey ⟨_, hx⟩ ⟨_, hy⟩
    cases (show key = key' from hkey)
    cases hx.symm.trans hy
    rfl
  · refine ticketGuarantees (T := recoveries) fresh_recoveries hrun ?_
      (fun {x result clock _ _} h =>
        recovery_of_accepts (l := (⟨clock, .completeAccountRecovery x result⟩, _))
        (step_of_completes h)
          ⟨rfl, rfl⟩)
      fun {x result clock e r'} h => eq_of_failed hrun
        (show Step r (⟨clock, .completeAccountRecovery x result⟩, .error e) r'
          from step_of_completes h)
    rintro r ⟨key, id, expires⟩ ⟨key', id', expires'⟩ hkey hx hy
    cases (show key = key' from hkey)
    cases (Eq.symm hx).trans hy
    rfl
  · rintro a b s key now deadline now' - ha hb hopen havailable
    have hinv : Guarded key a b r := hb.invariant (.inl (open_of_circuitOpen hopen))
      fun hr hguarded hstep => guarded_step (ha.append hr) hguarded hstep
    obtain ⟨hnotopen, hnotblocked⟩ := not_open_of_available havailable
    rcases hinv with h | ⟨-, h⟩ | h
    · exact absurd h hnotopen
    · exact absurd h hnotblocked
    · exact h

/-- A circuit is opened at 0 for ten milliseconds. -/
def sampleOpen : Call := ⟨.ok 0, .openCircuitUntil sampleKey 10⟩

/-- The probe of the circuit: it starts at 10, and succeeds at 11. -/
def sampleProbe : List Call :=
  [⟨.ok 10, .beginCircuitProbe sampleKey 20⟩,
   ⟨.ok 11, .completeCircuitProbe ⟨sampleKey, 1, 20⟩ .healthy⟩]

theorem circuit_restored_sample :
    Restored sampleKey (play respond sampleRegistry [sampleOpen]).1
      (play respond (respond sampleRegistry sampleOpen).2 sampleProbe).1 :=
  (tickets_and_circuits (run_play respond (sampleOpen :: sampleProbe) sampleRegistry)).2.2
    _ _ _ sampleKey 0 10 12 rfl (run_play respond [sampleOpen] sampleRegistry)
    (run_play respond sampleProbe _) rfl rfl

/-- An account that is forbidden and recovered while its circuit is open takes the circuit with it:
the key is available before the circuit's retry time, without a probe and without being marked
healthy. -/
theorem circuit_lost_to_account :
    (play respond sampleRegistry [sampleOpen]).2.availabilityAt sampleKey 0 = .circuitOpen 10 ∧
      (play respond sampleRegistry (sampleOpen :: (sampleBlock ++ [sampleAllow]))).2.availabilityAt
        sampleKey 3 = .available ∧
      ∀ l ∈ (play respond sampleRegistry (sampleOpen :: (sampleBlock ++ [sampleAllow]))).1,
        ¬ MarksHealthy sampleKey l ∧ ∀ probe result, ¬ AcceptsProbe probe result l := by
  refine ⟨rfl, rfl, ?_⟩
  intro l hl
  simp only [play, sampleBlock, List.cons_append, List.nil_append, List.mem_cons,
    List.not_mem_nil, or_false] at hl
  rcases hl with rfl | rfl | rfl | rfl <;> exact ⟨id, fun _ _ => id⟩

/-! ### Room for new entries -/

/-- An entry that makes room for another was of no effect any more. -/
theorem availabilityAt_ensureInsertCapacity {key' : RuntimeHealthKey} {now t : ℤ} (ht : now ≤ t) :
    ((ensureInsertCapacity key now).call r).2.availabilityAt key' t = r.availabilityAt key' t := by
  have hends : Ends (ensureInsertCapacity key now) r _ := ends_ensureInsertCapacity now
  unfold availabilityAt
  rcases hends.1 key' with hsame | ⟨untilMs, hexpired, hcooling, hnone⟩
  · rw [hsame]
  · simp only [hcooling, hnone, RuntimeHealthState.availabilityAt]
    rw [if_neg (by omega)]

/-- **Failures and eviction.** After any calls, with any readings of the clock. -/
theorem failures_and_eviction (hash : RuntimeHealthKey → ℕ) (shardCount : ℕ) (calls : List Call) :
    let r := (play respond (withShards hash shardCount) calls).2
    (∀ call e, (respond r call).1 = .error e → (respond r call).2 = r) ∧
    (∀ i, (r.states.shards i).keys.length ≤ maxRuntimeHealthEntriesPerShard) ∧
    ∀ key now key' t, now ≤ t →
      ((ensureInsertCapacity key now).call r).2.availabilityAt key' t =
        r.availabilityAt key' t := by
  intro r
  have hrun := run_play respond calls (withShards hash shardCount)
  refine ⟨fun call e h => ?_, fits_of_run hrun, fun _ _ _ _ => availabilityAt_ensureInsertCapacity⟩
  exact eq_of_failed hrun (show respond r call = (.error e, _) from Prod.ext h rfl)

end Histories

end CpaGateway.Router.HealthSafety
