import CpaGateway.Lib.Temporal
import CpaGateway.Router.RuntimeHealth

/-! # Histories of the runtime health registry

A history is a sequence of calls, each with the reading of the clock it got and the reply it was
given. To one key a call does what `Moves` says, whatever the other keys are: this is the abstract
registry, a state for each key, and `does_of_step` is the refinement. Everything below is about
`Moves`. -/

namespace CpaGateway.Router.HealthHistory

open Core.Identity Router.RuntimeHealth Lib.Effect Lib.Sharded Lib.Temporal

/-! ### Calls -/

inductive Request
  | markCredentialForbidden (endpointId : EndpointId) (credentialId : CredentialId)
  | markCredentialUnauthorized (endpointId : EndpointId) (credentialId : CredentialId)
  | beginAccountRecovery (endpointId : EndpointId) (credentialId : CredentialId)
      (recoveryExpiresAtMs : ℤ)
  | completeAccountRecovery (probe : RuntimeHealthAccountRecoveryProbe)
      (result : RuntimeHealthAccountRecoveryResult)
  | coolDownUntil (key : RuntimeHealthKey) (untilMs : ℤ)
  | openCircuitUntil (key : RuntimeHealthKey) (retryAfterMs : ℤ)
  | markHealthy (key : RuntimeHealthKey)
  | beginCircuitProbe (key : RuntimeHealthKey) (probeExpiresAtMs : ℤ)
  | completeCircuitProbe (probe : RuntimeHealthCircuitProbe)
      (result : RuntimeHealthCircuitProbeResult)
  deriving DecidableEq

/-- A request, and what the clock says when it is made. -/
structure Call where
  clock : Reading
  request : Request

inductive Reply
  | done
  | recovery (probe : Option RuntimeHealthAccountRecoveryProbe)
  | probe (probe : Option RuntimeHealthCircuitProbe)
  deriving DecidableEq

def perform (call : Call) : Operation Reply :=
  match call.request with
  | .markCredentialForbidden e c => do
    markCredentialForbidden e c call.clock
    return .done
  | .markCredentialUnauthorized e c => do
    markCredentialUnauthorized e c call.clock
    return .done
  | .beginAccountRecovery e c expires => do
    return .recovery (← beginAccountRecovery e c expires call.clock)
  | .completeAccountRecovery probe result => do
    completeAccountRecovery probe result call.clock
    return .done
  | .coolDownUntil key untilMs => do
    coolDownUntil key untilMs call.clock
    return .done
  | .openCircuitUntil key retryAfterMs => do
    openCircuitUntil key retryAfterMs call.clock
    return .done
  | .markHealthy key => do
    markHealthy key
    return .done
  | .beginCircuitProbe key expires => do
    return .probe (← beginCircuitProbe key expires call.clock)
  | .completeCircuitProbe probe result => do
    completeCircuitProbe probe result call.clock
    return .done

/-- A call and its outcome. -/
abbrev Label := Call × Except RuntimeHealthError Reply

/-- The registry as a machine. -/
def respond (r : RuntimeHealthRegistry) (call : Call) :
    Except RuntimeHealthError Reply × RuntimeHealthRegistry :=
  (perform call).call r

/-- One call. -/
abbrev Step : RuntimeHealthRegistry → Label → RuntimeHealthRegistry → Prop := Answers respond

/-! ### The abstract registry -/

def Blocked : Option RuntimeHealthState → Prop
  | some .accountForbidden | some .credentialUnauthorized
  | some (.accountRecoveryInFlight ..) => True
  | _ => False

/-- The circuit of the key is open, possibly with a probe under way. -/
def Open : Option RuntimeHealthState → Prop
  | some (.circuitOpen _) | some (.circuitHalfOpen ..) => True
  | _ => False

/-- Nothing happens to a key, but that its expired cooldown may be dropped to make room. -/
def Spared (s s' : Option RuntimeHealthState) : Prop :=
  s' = s ∨ ∃ untilMs, s = some (.coolingDown untilMs) ∧ s' = none

/-- What the end of an account recovery leaves of the key. -/
def recovered : RuntimeHealthAccountRecoveryResult → Option RuntimeHealthState
  | .allowed => none
  | .forbidden => some .accountForbidden

/-- What the end of a probe leaves of the key. -/
def probed : RuntimeHealthCircuitProbeResult → Option RuntimeHealthState
  | .healthy => none
  | .unhealthy retryAfterMs => some (.circuitOpen retryAfterMs)

/-- What a call does to the state of a key. -/
def Moves (key : RuntimeHealthKey) (l : Label) (s s' : Option RuntimeHealthState) : Prop :=
  match l with
  | (⟨_, .markCredentialForbidden e c⟩, .ok _) =>
    if key = .endpointCredential e c then s' = some .accountForbidden else Spared s s'
  | (⟨_, .markCredentialUnauthorized e c⟩, .ok _) =>
    if key = .endpointCredential e c then s' = some .credentialUnauthorized else Spared s s'
  | (⟨_, .beginAccountRecovery e c _⟩, .ok (.recovery (some probe))) =>
    probe.key = .endpointCredential e c ∧
      if key = probe.key then
        Blocked s ∧ s' = some (.accountRecoveryInFlight probe.probeId probe.expiresAtMs)
      else s' = s
  | (⟨clock, .completeAccountRecovery probe result⟩, .ok _) =>
    if key = probe.key then
      s = some (.accountRecoveryInFlight probe.probeId probe.expiresAtMs) ∧
        (∃ now, clock = .ok now ∧ now < probe.expiresAtMs) ∧ s' = recovered result
    else s' = s
  | (⟨_, .coolDownUntil key' _⟩, .ok _) =>
    if key = key' then
      (Blocked s ∨ Open s) ∧ s' = s ∨
        ¬ Blocked s ∧ ¬ Open s ∧ ∃ untilMs, s' = some (.coolingDown untilMs)
    else Spared s s'
  | (⟨_, .openCircuitUntil key' _⟩, .ok _) =>
    if key = key' then
      Blocked s ∧ s' = s ∨ ¬ Blocked s ∧ ∃ retryAfterMs, s' = some (.circuitOpen retryAfterMs)
    else Spared s s'
  | (⟨_, .markHealthy key'⟩, .ok _) =>
    if key = key' then Blocked s ∧ s' = s ∨ ¬ Blocked s ∧ s' = none else s' = s
  | (⟨_, .beginCircuitProbe key' _⟩, .ok (.probe (some probe))) =>
    probe.key = key' ∧
      if key = probe.key then
        Open s ∧ ∃ retryAfterMs,
          s' = some (.circuitHalfOpen retryAfterMs probe.probeId probe.expiresAtMs)
      else s' = s
  | (⟨clock, .completeCircuitProbe probe result⟩, .ok _) =>
    if key = probe.key then
      (∃ retryAfterMs,
        s = some (.circuitHalfOpen retryAfterMs probe.probeId probe.expiresAtMs)) ∧
        (∃ now, clock = .ok now ∧ now < probe.expiresAtMs) ∧ s' = probed result
    else s' = s
  | _ => Spared s s'

/-! ### The registry is the abstract registry -/

section Refinement

variable {r r' : RuntimeHealthRegistry} {key key' : RuntimeHealthKey} {state : RuntimeHealthState}
  {s : Option RuntimeHealthState} {clock : Reading}

theorem spared_refl (s : Option RuntimeHealthState) : Spared s s := .inl rfl

theorem entry_insert :
    RuntimeHealthRegistry.entry { r with states := r.states.insert key state } key' =
    if key' = key then some state else r.entry key' := Store.get?_insert ..

theorem entry_remove : RuntimeHealthRegistry.entry { r with states := r.states.remove key } key' =
    if key' = key then none else r.entry key' := Store.get?_remove ..

/-- The next tickets of the two sequences. -/
def sequences (r : RuntimeHealthRegistry) : ℕ × ℕ :=
  (r.nextCircuitProbeId, r.nextAccountRecoveryProbeId)

/-- What a call does to the sequences: a ticket takes the next number of its sequence. -/
def Draws (l : Label) (r r' : RuntimeHealthRegistry) : Prop :=
  match l with
  | (⟨_, .beginAccountRecovery ..⟩, .ok (.recovery (some probe))) =>
    probe.probeId = r.nextAccountRecoveryProbeId ∧
      sequences r' = (r.nextCircuitProbeId, r.nextAccountRecoveryProbeId + 1)
  | (⟨_, .beginCircuitProbe ..⟩, .ok (.probe (some probe))) =>
    probe.probeId = r.nextCircuitProbeId ∧
      sequences r' = (r.nextCircuitProbeId + 1, r.nextAccountRecoveryProbeId)
  | _ => sequences r' = sequences r

/-- A call with this outcome does what `Moves` says to every key. -/
def Refines (call : Call) (r : RuntimeHealthRegistry) (o : Except RuntimeHealthError Reply)
    (r' : RuntimeHealthRegistry) : Prop :=
  ∀ key, Moves key (call, o) (r.entry key) (r'.entry key)

/-- No shard of the registry is over its capacity. -/
def Fits (r : RuntimeHealthRegistry) : Prop := Bounded maxRuntimeHealthEntriesPerShard r.states

/-- All that a call with this outcome does. The shards keep within their capacity; that they do is
also why a failure leaves nothing behind. -/
structure Does (call : Call) (r : RuntimeHealthRegistry) (o : Except RuntimeHealthError Reply)
    (r' : RuntimeHealthRegistry) : Prop where
  refines : Refines call r o r'
  draws : Draws (call, o) r r'
  fits (h : Fits r) : Fits r' ∧ ∀ e, o = .error e → r' = r

variable {call : Call} {reply : Reply}

theorem does_error (e : RuntimeHealthError)
    (hspared : ∀ key', Spared (r.entry key') (r'.entry key')) (hdraws : sequences r' = sequences r)
    (hfits : Fits r → r' = r) : Does call r (.error e) r' := by
  obtain ⟨_, request⟩ := call
  refine ⟨fun key' => ?_, ?_, fun h => ⟨(hfits h).symm ▸ h, fun _ _ => hfits h⟩⟩
  · cases request <;> exact hspared key'
  · cases request <;> exact hdraws

theorem does_refused (e : RuntimeHealthError) : Does call r (.error e) r :=
  does_error e (fun _ => spared_refl _) rfl fun _ => rfl

theorem does_nothing (hmoves : ∀ key', Moves key' (call, .ok reply) (r.entry key') (r.entry key'))
    (hdraws : Draws (call, .ok reply) r r) : Does call r (.ok reply) r :=
  ⟨hmoves, hdraws, fun h => ⟨h, fun _ h => nomatch h⟩⟩

theorem does_insert {old : RuntimeHealthState} (hentry : r.entry key = some old)
    (hmoves : ∀ key', Moves key' (call, .ok reply) (r.entry key')
      (if key' = key then some state else r.entry key'))
    (hdraws : Draws (call, .ok reply) r { r with states := r.states.insert key state }) :
    Does call r (.ok reply) { r with states := r.states.insert key state } :=
  ⟨fun key' => entry_insert ▸ hmoves key', hdraws,
    fun h => ⟨Bounded.overwrite h hentry, fun _ h => nomatch h⟩⟩

theorem does_remove (hmoves : ∀ key', Moves key' (call, .ok reply) (r.entry key')
      (if key' = key then none else r.entry key'))
    (hdraws : Draws (call, .ok reply) r { r with states := r.states.remove key }) :
    Does call r (.ok reply) { r with states := r.states.remove key } :=
  ⟨fun key' => entry_remove ▸ hmoves key', hdraws, fun h =>
    ⟨Bounded.remove h, fun _ h => nomatch h⟩⟩

theorem ends_ensureInsertCapacity (now : ℤ) :
    Ends (ensureInsertCapacity key now) r fun o r' =>
      (∀ key', r'.entry key' = r.entry key' ∨
        ∃ untilMs ≤ now, r.entry key' = some (.coolingDown untilMs) ∧ r'.entry key' = none) ∧
      sequences r' = sequences r ∧ (Fits r → Fits r') ∧
      match o with
      | .ok _ => r'.states.count key < maxRuntimeHealthEntriesPerShard
      | .error _ => Fits r → r' = r := by
  rw [Ends, ensureInsertCapacity, Method.onPart, call_of]
  generalize hcall : (reserve _ _ _ _).call r.states = c
  obtain ⟨o, states⟩ := c
  refine ⟨fun key' => ?_, rfl, fun h => Bounded.reserve h hcall, ?_⟩
  · rcases get?_reserve hcall key' with hsame | ⟨state, hstate, hkeep, hnone⟩
    · exact .inl hsame
    · cases state with
      | coolingDown untilMs =>
        exact .inr
          ⟨untilMs, by simpa [RuntimeHealthState.isExpiredCooldown] using hkeep, hstate, hnone⟩
      | _ => simp [RuntimeHealthState.isExpiredCooldown] at hkeep
  · rcases o with e | u
    · intro h
      rw [eq_of_reserve_error h hcall]
    · exact count_of_reserve_ok hcall

theorem ends_insertNew (now : ℤ)
    (hmoves : ∀ key' s', (if key' = key then s' = some state else Spared (r.entry key') s') →
      Moves key' (call, .ok .done) (r.entry key') s')
    (hdraws : ∀ r', sequences r' = sequences r → Draws (call, .ok .done) r r') :
    Ends (do ensureInsertCapacity key now; insertState key state) r
      fun o r' => Does call r (o.map fun _ => .done) r' := by
  have hspared : ∀ {r₁ : RuntimeHealthRegistry} {key'}, (r₁.entry key' = r.entry key' ∨
      ∃ untilMs ≤ now, r.entry key' = some (.coolingDown untilMs) ∧ r₁.entry key' = none) →
      Spared (r.entry key') (r₁.entry key') :=
    fun h => h.imp_right fun ⟨untilMs, _, h⟩ => ⟨untilMs, h⟩
  refine ends_bind (ends_ensureInsertCapacity now) (fun _ r₁ ⟨hkeys, hseq, hfits, hroom⟩ => ?_)
    fun e r₁ ⟨hkeys, hseq, _, hsame⟩ => does_error e (fun key' => hspared (hkeys key')) hseq hsame
  refine ends_modify ⟨fun key' => hmoves key' _ ?_, hdraws _ hseq,
    fun h => ⟨(hfits h).insert hroom, fun _ h => nomatch h⟩⟩
  rw [entry_insert]
  split_ifs
  · rfl
  · exact hspared (hkeys key')

theorem ends_markCredential (e : EndpointId) (c : CredentialId)
    (hmoves : ∀ key' s s',
      (if key' = .endpointCredential e c then s' = some state else Spared s s') →
      Moves key' (call, .ok .done) s s')
    (hdraws : ∀ r', sequences r' = sequences r → Draws (call, .ok .done) r r') :
    Ends (markCredential state e c clock) r fun o r' => Does call r (o.map fun _ => .done) r' := by
  refine ends_mapError_bind (fun now _ => ends_get_bind ?_) fun _ => does_refused _
  rcases hentry : r.entry (.endpointCredential e c) with _ | _
  · exact ends_insertNew now (fun key' => hmoves key' _) hdraws
  · refine ends_modify (does_insert hentry (fun key' => hmoves key' _ _ ?_) (hdraws _ rfl))
    split_ifs
    · rfl
    · exact spared_refl _

/-- A ticket for a key that is due: it takes the next number, and nothing happens without one. -/
theorem ends_begin {τ : Type} {D : ℤ → RuntimeHealthState → Bool} {T : Operation ℕ}
    {N : RuntimeHealthState → ℕ → RuntimeHealthState} {I : ℕ → τ} {expires : ℤ} {n : ℕ}
    {Q : Except RuntimeHealthError (Option τ) → RuntimeHealthRegistry → Prop}
    (hquiet : Q (.ok none) r) (herror : ∀ e, Q (.error e) r)
    (htake : Ends T r fun o r₁ =>
      match o with
      | .ok m => m = n ∧ r₁ = r'
      | .error _ => r₁ = r)
    (hissue : ∀ now state, r.entry key = some state → D now state = true →
      Q (.ok (some (I n))) { r' with states := r'.states.insert key (N state n) }) :
    Ends (do
      let now ← nowMs clock
      validateDeadline expires now
      match (← get).entry key with
      | none => return none
      | some state =>
        if D now state then do
          let n ← T
          insertState key (N state n)
          return some (I n)
        else return none) r Q := by
  refine ends_mapError_bind (fun now _ => ?_) fun _ => herror _
  refine ends_ensure_bind (fun _ => ends_get_bind ?_) fun _ => herror _
  rcases hentry : r.entry key with _ | state
  · exact ends_pure hquiet
  simp only
  split_ifs with hdue
  · refine ends_bind htake ?_ ?_
    · rintro _ _ ⟨rfl, rfl⟩
      exact ends_modify_bind (ends_pure (hissue now state hentry hdue))
    · rintro e _ rfl
      exact herror e
  · exact ends_pure hquiet

theorem ends_beginAccountRecovery (e : EndpointId) (c : CredentialId) (expires : ℤ) :
    Ends (beginAccountRecovery e c expires clock) r fun o r' =>
      Does ⟨clock, .beginAccountRecovery e c expires⟩ r (o.map .recovery) r' := by
  refine ends_begin (D := dueForRecovery) (does_nothing (fun _ => spared_refl _) rfl) does_refused
    (ends_get_bind (ends_ensure_bind (fun _ => ends_modify_bind (ends_pure ⟨rfl, rfl⟩)) fun _ =>
      rfl)) ?_
  intro now state hentry hdue
  refine ⟨fun key' => ⟨rfl, ?_⟩, ⟨rfl, rfl⟩, fun h =>
    ⟨Bounded.overwrite h hentry, fun _ h => nomatch h⟩⟩
  rw [entry_insert]
  split_ifs with hkey
  · cases state <;> simp_all [dueForRecovery, Blocked]
  · rfl

theorem ends_beginCircuitProbe (expires : ℤ) :
    Ends (beginCircuitProbe key expires clock) r fun o r' =>
      Does ⟨clock, .beginCircuitProbe key expires⟩ r (o.map .probe) r' := by
  refine ends_begin (D := dueForProbe) (does_nothing (fun _ => spared_refl _) rfl) does_refused
    (ends_get_bind (ends_ensure_bind (fun _ => ends_modify_bind (ends_pure ⟨rfl, rfl⟩)) fun _ =>
      rfl)) ?_
  intro now state hentry hdue
  refine ⟨fun key' => ⟨rfl, ?_⟩, ⟨rfl, rfl⟩, fun h =>
    ⟨Bounded.overwrite h hentry, fun _ h => nomatch h⟩⟩
  rw [entry_insert]
  split_ifs with hkey
  · cases state <;> simp_all [dueForProbe, Open]
  · rfl

theorem ends_completeAccountRecovery (probe : RuntimeHealthAccountRecoveryProbe)
    (result : RuntimeHealthAccountRecoveryResult) :
    Ends (completeAccountRecovery probe result clock) r fun o r' =>
      Does ⟨clock, .completeAccountRecovery probe result⟩ r (o.map fun _ => .done) r' := by
  refine ends_mapError_bind (fun now hclock => ends_get_bind ?_) fun _ => does_refused _
  rcases hentry : r.entry probe.key with _ | state
  · exact ends_throw (does_refused _)
  cases state with
  | accountRecoveryInFlight probeId expires =>
    refine ends_ensure_bind (fun hcurrent => ?_) fun _ => does_refused _
    obtain ⟨⟨rfl, rfl⟩, hnow⟩ : (probeId = probe.probeId ∧ expires = probe.expiresAtMs) ∧
        now < expires := by simpa using hcurrent
    have hmoves : ∀ key', Moves key' (⟨clock, .completeAccountRecovery probe result⟩, .ok .done)
        (r.entry key') (if key' = probe.key then recovered result else r.entry key') := by
      intro key'
      simp only [Moves]
      split_ifs with hkey
      · exact ⟨hkey ▸ hentry, ⟨now, hclock, hnow⟩, rfl⟩
      · rfl
    cases result with
    | allowed => exact ends_modify (does_remove hmoves rfl)
    | forbidden => exact ends_modify (does_insert hentry hmoves rfl)
  | _ => exact ends_throw (does_refused _)

theorem ends_coolDownUntil (untilMs : ℤ) :
    Ends (coolDownUntil key untilMs clock) r fun o r' =>
      Does ⟨clock, .coolDownUntil key untilMs⟩ r (o.map fun _ => .done) r' := by
  refine ends_mapError_bind (fun now _ => ?_) fun _ => does_refused _
  refine ends_ensure_bind (fun _ => ends_get_bind ?_) fun _ => does_refused _
  rcases hentry : r.entry key with _ | state
  · refine ends_insertNew now (fun key' s' h => ?_) fun _ h => h
    simp only [Moves]
    split_ifs at h ⊢ with hkey
    · subst hkey
      exact .inr ⟨by simp [hentry, Blocked], by simp [hentry, Open], untilMs, h⟩
    · exact h
  · cases state with
    | coolingDown existing =>
      refine ends_modify (does_insert hentry (fun key' => ?_) rfl)
      simp only [Moves]
      split_ifs with hkey
      · subst hkey
        exact .inr ⟨by simp [hentry, Blocked], by simp [hentry, Open], _, rfl⟩
      · exact spared_refl _
    | _ =>
      refine ends_pure (does_nothing (fun key' => ?_) rfl)
      simp only [Moves]
      split_ifs with hkey
      · exact .inl ⟨by simp [hkey, hentry, Blocked, Open], trivial⟩
      · exact spared_refl _

theorem ends_openCircuitUntil (retryAfterMs : ℤ) :
    Ends (openCircuitUntil key retryAfterMs clock) r fun o r' =>
      Does ⟨clock, .openCircuitUntil key retryAfterMs⟩ r (o.map fun _ => .done) r' := by
  refine ends_mapError_bind (fun now _ => ?_) fun _ => does_refused _
  refine ends_ensure_bind (fun _ => ends_get_bind ?_) fun _ => does_refused _
  rcases hentry : r.entry key with _ | state
  · refine ends_insertNew now (fun key' s' h => ?_) fun _ h => h
    simp only [Moves]
    split_ifs at h ⊢ with hkey
    · subst hkey
      exact .inr ⟨by simp [hentry, Blocked], retryAfterMs, h⟩
    · exact h
  · cases state with
    | coolingDown _ | circuitOpen _ | circuitHalfOpen _ _ _ =>
      refine ends_modify (does_insert hentry (fun key' => ?_) rfl)
      simp only [Moves]
      split_ifs with hkey
      · exact .inr ⟨by simp [hkey, hentry, Blocked], _, rfl⟩
      · exact spared_refl _
    | _ =>
      refine ends_pure (does_nothing (fun key' => ?_) rfl)
      simp only [Moves]
      split_ifs with hkey
      · exact .inl ⟨by simp [hkey, hentry, Blocked], trivial⟩
      · exact spared_refl _

theorem ends_markHealthy :
    Ends (markHealthy key) r fun o r' =>
      Does ⟨clock, .markHealthy key⟩ r (o.map fun _ => .done) r' := by
  refine ends_get_bind ?_
  have hheals : ¬ Blocked (r.entry key) →
      Does ⟨clock, .markHealthy key⟩ r (.ok .done) { r with states := r.states.remove key } := by
    refine fun hblocked => does_remove (fun key' => ?_) rfl
    simp only [Moves]
    split_ifs with hkey
    · exact .inr ⟨hkey ▸ hblocked, rfl⟩
    · rfl
  rcases hentry : r.entry key with _ | state
  · exact ends_modify (hheals (by simp [hentry, Blocked]))
  · cases state with
    | coolingDown _ | circuitOpen _ | circuitHalfOpen _ _ _ =>
      exact ends_modify (hheals (by simp [hentry, Blocked]))
    | _ =>
      refine ends_pure (does_nothing (fun key' => ?_) rfl)
      simp only [Moves]
      split_ifs with hkey
      exact .inl ⟨by simp [hkey, hentry, Blocked], trivial⟩

theorem ends_completeCircuitProbe (probe : RuntimeHealthCircuitProbe)
    (result : RuntimeHealthCircuitProbeResult) :
    Ends (completeCircuitProbe probe result clock) r fun o r' =>
      Does ⟨clock, .completeCircuitProbe probe result⟩ r (o.map fun _ => .done) r' := by
  refine ends_mapError_bind (fun now hclock => ends_get_bind ?_) fun _ => does_refused _
  rcases hentry : r.entry probe.key with _ | state
  · exact ends_throw (does_refused _)
  cases state with
  | circuitHalfOpen retryAfterMs probeId expires =>
    refine ends_ensure_bind (fun hcurrent => ?_) fun _ => does_refused _
    obtain ⟨⟨rfl, rfl⟩, hnow⟩ : (probeId = probe.probeId ∧ expires = probe.expiresAtMs) ∧
        now < expires := by simpa using hcurrent
    have hmoves : ∀ key', Moves key' (⟨clock, .completeCircuitProbe probe result⟩, .ok .done)
        (r.entry key') (if key' = probe.key then probed result else r.entry key') := by
      intro key'
      simp only [Moves]
      split_ifs with hkey
      · exact ⟨⟨_, hkey ▸ hentry⟩, ⟨now, hclock, hnow⟩, rfl⟩
      · rfl
    cases result with
    | healthy => exact ends_modify (does_remove hmoves rfl)
    | unhealthy next =>
      exact ends_ensure_bind (fun _ => ends_modify (does_insert hentry hmoves rfl))
        fun _ => does_refused _
  | _ => exact ends_throw (does_refused _)

/-- **Refinement**: every call does to every key what the abstract registry says. -/
theorem does_of_step {l : Label} (h : Step r l r') : Does l.1 r l.2 r' := by
  obtain ⟨⟨clock, request⟩, o⟩ := l
  have hends : Ends (perform ⟨clock, request⟩) r fun o r' => Does ⟨clock, request⟩ r o r' := by
    cases request with
    | markCredentialForbidden e c | markCredentialUnauthorized e c =>
      exact ends_map (ends_markCredential e c (fun _ _ _ h => h) fun _ h => h)
    | beginAccountRecovery e c expires => exact ends_map (ends_beginAccountRecovery e c expires)
    | completeAccountRecovery probe result =>
      exact ends_map (ends_completeAccountRecovery probe result)
    | coolDownUntil key untilMs => exact ends_map (ends_coolDownUntil untilMs)
    | openCircuitUntil key retryAfterMs => exact ends_map (ends_openCircuitUntil retryAfterMs)
    | markHealthy key => exact ends_map ends_markHealthy
    | beginCircuitProbe key expires => exact ends_map (ends_beginCircuitProbe expires)
    | completeCircuitProbe probe result => exact ends_map (ends_completeCircuitProbe probe result)
  have heq : (perform ⟨clock, request⟩).call r = (o, r') := h
  rw [Ends, heq] at hends
  exact hends

theorem moves_of_step {l : Label} (h : Step r l r') (key : RuntimeHealthKey) :
    Moves key l (r.entry key) (r'.entry key) := (does_of_step h).refines key

end Refinement

end CpaGateway.Router.HealthHistory
