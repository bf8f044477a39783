import CpaGateway.Grok.CredentialRefresh
import CpaGateway.Lib.Transition

/-! # One refresh of a credential at a time

The slot of a key is marked while a caller leads a flight: from its decision to refresh until it has
recorded the result. A transport that panics takes its caller away in between, and the mark stays.
-/

namespace CpaGateway.Grok.RefreshFlight

open Grok.CredentialRefresh Lib.Fallible Lib.Transition

/-! ### Phases -/

/-- The caller is in a refresh. -/
def Running : Phase → Prop
  | .refreshing _ | .swapping _ _ | .resolving | .finishing _ => True
  | .arrived | .waiting _ _ | .reloading | .returned _ | .panicked => False

/-- The caller has marked the slot and not cleared the mark. -/
def Leads (phase : Phase) : Prop := Running phase ∨ phase = .panicked

/-- A version is stored and of use at a time. -/
def IsGood (versions : List GrokBuildCredentialVersion) (nowMs : ℤ)
    (version : GrokBuildCredentialVersion) : Prop :=
  version ∈ versions ∧ version.credential.isExpiredAt nowMs = false

/-- What a caller has in hand. -/
def Backed (versions : List GrokBuildCredentialVersion) (nowMs : ℤ) : Phase → Prop
  | .swapping _ refreshed => refreshed.isExpiredAt nowMs = false
  | .finishing (.ok outcome) | .returned (.ok outcome) => IsGood versions nowMs outcome.version
  | .waiting generation awaited => generation = awaited % 2 ^ 64
  | _ => True

/-- The slot agrees with the flights that have ended. -/
structure Recorded (entry : Entry) : Prop where
  generation : entry.slot.generation = entry.flights.length % 2 ^ 64
  lastError : entry.slot.refreshing = false →
    entry.slot.lastError = entry.flights.getLast?.bind lastErrorOf

/-- The versions stay, or one with the next revision is put in front. -/
def Succeeds (versions versions' : List GrokBuildCredentialVersion) : Prop :=
  versions' = versions ∨ ∃ current version, versions.head? = some current ∧
    version.revision = current.revision + 1 ∧ versions' = version :: versions

variable {version : GrokBuildCredentialVersion}
  {versions versions' : List GrokBuildCredentialVersion}

theorem Succeeds.mem (h : Succeeds versions versions') (hmem : version ∈ versions) :
    version ∈ versions' := by
  rcases h with rfl | ⟨current, new, -, -, rfl⟩
  · exact hmem
  · exact .tail _ hmem

/-! ### Steps of a caller -/

variable {current : GrokBuildCredentialVersion}

section Acts

variable {nowMs : ℤ} {fault loadFault : Fault} {entry entry' : Entry} {phase phase' : Phase}
  {action : Action} {generation awaited : ℕ} {timedOut : Bool}

/-- What a step of a caller does to its key. -/
structure ActSpec (nowMs : ℤ) (phase : Phase) (entry entry' : Entry) (phase' : Phase) : Prop where
  recorded : Recorded entry'
  backed : Backed entry'.versions nowMs phase'
  versions : Succeeds entry.versions entry'.versions
  /-- Only a caller that finds no mark starts to lead. -/
  leads : Leads phase' → Leads phase ∨ entry.slot.refreshing = false
  refreshing : entry'.slot.refreshing = true ↔ Leads phase' ∨
    (entry.slot.refreshing = true ∧ ¬ Leads phase)

theorem ActSpec.moved (hrecorded : Recorded entry)
    (hleads : Leads phase → entry.slot.refreshing = true)
    (hbacked : Backed entry.versions nowMs phase') (hphase : Leads phase' ↔ Leads phase) :
    ActSpec nowMs phase entry entry phase' where
  recorded := hrecorded
  backed := hbacked
  versions := .inl rfl
  leads h := .inl (hphase.mp h)
  refreshing := by
    rw [hphase]
    by_cases h : Leads phase
    · simp [h, hleads h]
    · simp [h]

theorem loadRequired_ok
    (h : loadRequired fault entry = .ok version) : entry.versions.head? = some version := by
  cases fault with
  | some error => cases h
  | none => exact okOr_ok.mp h

theorem isGood_of_loaded
    (h : loadRequired fault entry = .ok version)
    (hfresh : ¬ version.credential.isExpiredAt nowMs = true) :
    IsGood entry.versions nowMs version :=
  ⟨List.mem_of_mem_head? (loadRequired_ok h), by simpa using hfresh⟩

theorem lead_spec (hrecorded : Recorded entry) (hphase : ¬ Leads phase)
    (hfree : entry.slot.refreshing = false) :
    ActSpec nowMs phase entry (lead nowMs fault entry).1 (lead nowMs fault entry).2 := by
  have hmoved : ∀ {phase'}, Backed entry.versions nowMs phase' → ¬ Leads phase' →
      ActSpec nowMs phase entry entry phase' := fun hbacked hphase' =>
    .moved hrecorded (fun h => absurd h hphase) hbacked (iff_of_false hphase' hphase)
  unfold lead
  split
  · exact hmoved trivial (by simp [Leads, Running])
  · rename_i current hload
    split_ifs with hexpired
    · exact
        { recorded := ⟨hrecorded.generation, by simp⟩
          backed := trivial
          versions := .inl rfl
          leads := fun _ => .inr hfree
          refreshing := by simp [Leads, Running] }
    · exact hmoved (isGood_of_loaded hload hexpired) (by simp [Leads, Running])

theorem enter_spec (hrecorded : Recorded entry) :
    ActSpec nowMs .arrived entry (enter nowMs fault entry).1 (enter nowMs fault entry).2 := by
  have hphase : ¬ Leads .arrived := by simp [Leads, Running]
  unfold enter
  split_ifs with hmark
  · exact .moved hrecorded (fun h => absurd h hphase) hrecorded.generation
      (iff_of_false (by simp [Leads, Running]) hphase)
  · exact lead_spec hrecorded hphase (by simpa using hmark)

theorem wake_spec (hrecorded : Recorded entry) (hbacked : generation = awaited % 2 ^ 64) :
    ActSpec nowMs (.waiting generation awaited) entry
      (wake nowMs generation awaited timedOut fault entry).1
      (wake nowMs generation awaited timedOut fault entry).2 := by
  have hphase : ¬ Leads (.waiting generation awaited) := by simp [Leads, Running]
  have hmoved : ∀ {phase'}, Backed entry.versions nowMs phase' → ¬ Leads phase' →
      ActSpec nowMs (.waiting generation awaited) entry entry phase' := fun hphase' hleads =>
    .moved hrecorded (fun h => absurd h hphase) hphase' (iff_of_false hleads hphase)
  unfold wake
  split_ifs with hmark htime hgeneration
  · exact hmoved trivial (by simp [Leads, Running])
  · exact hmoved hbacked hphase
  · split
    · exact hmoved trivial (by simp [Leads, Running])
    · exact hmoved trivial (by simp [Leads, Running])
  · exact lead_spec hrecorded hphase (by simpa using hmark)

theorem reload_spec (hrecorded : Recorded entry) :
    ActSpec nowMs .reloading entry entry (reload nowMs fault entry) := by
  have hphase : ¬ Leads .reloading := by simp [Leads, Running]
  have hmoved : ∀ {phase'}, Backed entry.versions nowMs phase' → ¬ Leads phase' →
      ActSpec nowMs .reloading entry entry phase' := fun hphase' hleads =>
    .moved hrecorded (fun h => absurd h hphase) hphase' (iff_of_false hleads hphase)
  unfold reload
  split
  · exact hmoved trivial (by simp [Leads, Running])
  · rename_i current hload
    split_ifs with hexpired
    · exact hmoved trivial (by simp [Leads, Running])
    · exact hmoved (isGood_of_loaded hload hexpired) (by simp [Leads, Running])

/-- A credential that the flow returns is of use for a second at least. -/
theorem refresh_ok {clientId : String} {response : Response}
    {credential refreshed : GrokBuildCredential}
    (h : refresh clientId response credential nowMs = .ok refreshed) :
    refreshed.isExpiredAt nowMs = false := by
  simp only [refresh, except_ok] at h
  obtain ⟨-, -, h⟩ := h
  split at h
  · cases h
  · cases h
  · simp only [credentialFromObject, except_ok, Bool.and_eq_true, bne_iff_ne] at h
    obtain ⟨-, ⟨hpositive, -⟩, -, -, -, -, -, -, rfl⟩ := h
    simp only [GrokBuildCredential.isExpiredAt, decide_eq_false_iff_not]
    omega

/-- A swap changes nothing, or it finds the expected revision and stores the next one. -/
theorem compareAndSwap_cases (expectedRevision : ℕ) (credential : GrokBuildCredential)
    (fault loadFault : Fault) (entry : Entry) :
    ((compareAndSwap expectedRevision credential fault loadFault entry).2 = entry ∧
      ∀ version, (compareAndSwap expectedRevision credential fault loadFault entry).1 ≠
        .ok (.committed version)) ∨
    ∃ found, entry.versions.head? = some found ∧ found.revision = expectedRevision ∧
      compareAndSwap expectedRevision credential fault loadFault entry =
        (.ok (.committed ⟨credential, expectedRevision + 1⟩),
          { entry with versions := ⟨credential, expectedRevision + 1⟩ :: entry.versions }) := by
  generalize hswap : compareAndSwap expectedRevision credential fault loadFault entry = result
  unfold compareAndSwap at hswap
  dsimp only at hswap
  split at hswap
  · subst hswap
    exact .inl ⟨rfl, by simp⟩
  · split at hswap
    · subst hswap
      exact .inl ⟨rfl, by simp⟩
    · split at hswap
      · rename_i hhead
        obtain ⟨found, hfound, hrevision⟩ := (Option.any_eq_true _ _).mp hhead
        exact .inr ⟨found, hfound, by simpa using hrevision, hswap.symm⟩
      · split at hswap
        · subst hswap
          exact .inl ⟨rfl, by simp⟩
        · subst hswap
          cases entry.versions.isEmpty <;> simp

variable {refreshed : GrokBuildCredential}

theorem swap_spec (hrecorded : Recorded entry) (hmark : entry.slot.refreshing = true)
    (hfresh : refreshed.isExpiredAt nowMs = false) :
    ActSpec nowMs (.swapping current refreshed) entry
      (swap current refreshed fault loadFault entry).1
      (swap current refreshed fault loadFault entry).2 := by
  have hmoved : ∀ {phase'}, Backed entry.versions nowMs phase' → Leads phase' →
      ActSpec nowMs (.swapping current refreshed) entry entry phase' := fun hphase' hleads =>
    .moved hrecorded (fun _ => hmark) hphase' (iff_of_true hleads (.inl trivial))
  unfold swap
  rcases compareAndSwap_cases current.revision refreshed fault loadFault entry with
    ⟨hsame, hnone⟩ | ⟨found, hfound, hrevision, hcommitted⟩
  · rcases hswap : compareAndSwap current.revision refreshed fault loadFault entry with
      ⟨e | (version | _ | _), entry'⟩ <;> rw [hswap] at hsame hnone <;>
        obtain rfl : entry' = entry := hsame
    · exact hmoved trivial (.inl trivial)
    · exact absurd rfl (hnone version)
    · exact hmoved trivial (.inl trivial)
    · exact hmoved trivial (.inl trivial)
  · rw [hcommitted]
    exact
      { recorded := ⟨hrecorded.generation, hrecorded.lastError⟩
        backed := ⟨.head _, hfresh⟩
        versions := .inr ⟨found, _, hfound, by rw [hrevision], rfl⟩
        leads := fun _ => .inl (.inl trivial)
        refreshing := by simp [Leads, Running, hmark] }

theorem resolve_spec (hrecorded : Recorded entry) (hmark : entry.slot.refreshing = true) :
    ActSpec nowMs .resolving entry entry (.finishing (resolve nowMs fault entry)) := by
  refine .moved hrecorded (fun _ => hmark) ?_ (iff_of_true (.inl trivial) (.inl trivial))
  cases hresult : resolve nowMs fault entry with
  | error e => trivial
  | ok outcome =>
    simp only [resolve, bind_ok_iff] at hresult
    obtain ⟨newer, hload, hresult⟩ := hresult
    split_ifs at hresult with hexpired
    obtain rfl := pure_ok_iff.mp hresult
    exact isGood_of_loaded hload hexpired

theorem finish_spec {result : RefreshResult} (hrecorded : Recorded entry)
    (hbacked : Backed entry.versions nowMs (.finishing result)) :
    ActSpec nowMs (.finishing result) entry (finish result entry) (.returned result) where
  recorded :=
    { generation := by
        simp only [finish, List.length_append, List.length_singleton, hrecorded.generation]
        omega
      lastError := by simp [finish] }
  backed := by
    cases result with
    | error e => trivial
    | ok outcome => exact hbacked
  versions := .inl rfl
  leads h := absurd h (by simp [Leads, Running])
  refreshing := by simp [finish, Leads, Running]

/-- **What a step of a caller does to its key.** -/
theorem act_spec (h : act nowMs action phase entry = some (entry', phase'))
    (hrecorded : Recorded entry) (hbacked : Backed entry.versions nowMs phase)
    (hleads : Leads phase → entry.slot.refreshing = true) :
    ActSpec nowMs phase entry entry' phase' := by
  unfold act at h
  split at h
  · obtain ⟨rfl, rfl⟩ := Prod.ext_iff.mp (Option.some.inj h)
    exact enter_spec hrecorded
  · obtain ⟨rfl, rfl⟩ := Prod.ext_iff.mp (Option.some.inj h)
    exact wake_spec hrecorded hbacked
  · cases h
    exact reload_spec hrecorded
  · split at h <;> cases h
    · exact .moved hrecorded hleads trivial (iff_of_true (.inl trivial) (.inl trivial))
    · rename_i hrefreshed
      exact .moved hrecorded hleads (refresh_ok hrefreshed)
        (iff_of_true (.inl trivial) (.inl trivial))
  · cases h
    exact .moved hrecorded hleads trivial (iff_of_true (.inr rfl) (.inl trivial))
  · obtain ⟨rfl, rfl⟩ := Prod.ext_iff.mp (Option.some.inj h)
    exact swap_spec hrecorded (hleads (.inl trivial)) hbacked
  · cases h
    exact resolve_spec hrecorded (hleads (.inl trivial))
  · cases h
    exact finish_spec hrecorded hbacked
  · cases h

end Acts

/-! ### The coordinator -/

/-- The slots, the callers and the stored versions fit together. -/
structure Sound (s : GrokBuildCredentialRefreshCoordinator) : Prop where
  recorded : ∀ key, Recorded (s.entries key)
  backed : ∀ c caller, s.callers c = some caller →
    Backed (s.entries caller.key).versions caller.nowMs caller.phase
  refreshing : ∀ key, (s.entries key).slot.refreshing = true ↔
    ∃ c caller, s.callers c = some caller ∧ caller.key = key ∧ Leads caller.phase
  exclusive : ∀ c c' caller caller', s.callers c = some caller → s.callers c' = some caller' →
    caller.key = caller'.key → Leads caller.phase → Leads caller'.phase → c = c'

variable {s s' : GrokBuildCredentialRefreshCoordinator}

section Steps

variable {l : Label} {c : ℕ} {caller : Caller} {key : GrokBuildCredentialKey} {entry : Entry}
  {phase : Phase}

theorem sound_initial : Sound {} where
  recorded key := ⟨rfl, fun _ => rfl⟩
  backed := by simp
  refreshing := by simp
  exclusive := by simp

theorem Backed.mono {nowMs : ℤ}
    (h : Backed versions nowMs phase) (hmem : ∀ version ∈ versions, version ∈ versions') :
    Backed versions' nowMs phase := by
  cases phase with
  | finishing result | returned result =>
    cases result with
    | error e => trivial
    | ok outcome => exact ⟨hmem _ h.1, h.2⟩
  | _ => exact h

theorem leads_refreshing (h : Sound s) (hc : s.callers c = some caller)
    (hleads : Leads caller.phase) : (s.entries caller.key).slot.refreshing = true :=
  (h.refreshing caller.key).mpr ⟨c, caller, hc, rfl, hleads⟩

/-- The state after a step of a caller. -/
def acted (s : GrokBuildCredentialRefreshCoordinator) (c : ℕ) (caller : Caller) (entry : Entry)
    (phase : Phase) : GrokBuildCredentialRefreshCoordinator where
  entries := Function.update s.entries caller.key entry
  callers := Function.update s.callers c (some { caller with phase })

theorem callers_acted (c' : ℕ) :
    (acted s c caller entry phase).callers c' = if c' = c then some { caller with phase }
      else s.callers c' :=
  Function.update_apply _ _ _ _

theorem entries_acted (key : GrokBuildCredentialKey) :
    (acted s c caller entry phase).entries key = if key = caller.key then entry
      else s.entries key :=
  Function.update_apply _ _ _ _

/-- Where another caller leads, this one does not, and the slot is marked. -/
theorem Sound.other_leads (h : Sound s) (hc : s.callers c = some caller) {c' : ℕ} {caller' : Caller}
    (hc' : s.callers c' = some caller') (hkey : caller'.key = caller.key) (hne : c' ≠ c)
    (hleads : Leads caller'.phase) :
    (s.entries caller.key).slot.refreshing = true ∧ ¬ Leads caller.phase := by
  refine ⟨hkey ▸ leads_refreshing h hc' hleads, fun hown => hne ?_⟩
  exact h.exclusive c' c caller' caller hc' hc hkey hleads hown

theorem Sound.acted (h : Sound s) (hc : s.callers c = some caller)
    (hspec : ActSpec caller.nowMs caller.phase (s.entries caller.key) entry phase) :
    Sound (acted s c caller entry phase) where
  recorded key := by
    rw [entries_acted]
    split_ifs
    · exact hspec.recorded
    · exact h.recorded key
  backed c' caller' hc' := by
    rw [callers_acted] at hc'
    rw [entries_acted]
    split_ifs at hc' with heq
    · cases hc'
      rw [if_pos rfl]
      exact hspec.backed
    · have hbacked := h.backed c' caller' hc'
      split_ifs with hkey
      · rw [hkey] at hbacked
        exact hbacked.mono fun _ => hspec.versions.mem
      · exact hbacked
  refreshing key := by
    simp only [entries_acted, callers_acted]
    by_cases hkey : key = caller.key
    · subst hkey
      rw [if_pos rfl, hspec.refreshing]
      constructor
      · rintro (hleads | ⟨hmark, hquiet⟩)
        · exact ⟨c, { caller with phase }, by rw [if_pos rfl], rfl, hleads⟩
        · obtain ⟨c', caller', hc', hsame, hleads⟩ := (h.refreshing caller.key).mp hmark
          have hne : c' ≠ c := by
            rintro rfl
            exact hquiet (Option.some.inj (hc.symm.trans hc') ▸ hleads)
          exact ⟨c', caller', by rw [if_neg hne, hc'], hsame, hleads⟩
      · rintro ⟨c', caller', hc', hsame, hleads⟩
        split_ifs at hc' with heq
        · cases hc'
          exact .inl hleads
        · exact .inr (h.other_leads hc hc' hsame heq hleads)
    · rw [if_neg hkey, h.refreshing key]
      constructor
      · rintro ⟨c', caller', hc', rfl, hleads⟩
        have hne : c' ≠ c := by
          rintro rfl
          exact hkey (congrArg Caller.key (Option.some.inj (hc'.symm.trans hc)))
        exact ⟨c', caller', by rw [if_neg hne, hc'], rfl, hleads⟩
      · rintro ⟨c', caller', hc', rfl, hleads⟩
        split_ifs at hc' with heq
        · cases hc'
          exact absurd rfl hkey
        · exact ⟨c', caller', hc', rfl, hleads⟩
  exclusive c₁ c₂ caller₁ caller₂ h₁ h₂ hkey hleads₁ hleads₂ := by
    rw [callers_acted] at h₁ h₂
    split_ifs at h₁ h₂ with heq₁ heq₂ heq₂
    · rw [heq₁, heq₂]
    · cases h₁
      obtain ⟨hmark, hquiet⟩ := h.other_leads hc h₂ hkey.symm heq₂ hleads₂
      rcases hspec.leads hleads₁ with hown | hfree
      · exact absurd hown hquiet
      · rw [hmark] at hfree
        cases hfree
    · cases h₂
      obtain ⟨hmark, hquiet⟩ := h.other_leads hc h₁ hkey heq₁ hleads₁
      rcases hspec.leads hleads₂ with hown | hfree
      · exact absurd hown hquiet
      · rw [hmark] at hfree
        cases hfree
    · exact h.exclusive c₁ c₂ caller₁ caller₂ h₁ h₂ hkey hleads₁ hleads₂

theorem Sound.call (h : Sound s) (hc : s.callers c = none) {nowMs : ℤ} :
    Sound { s with callers := Function.update s.callers c (some { key, nowMs }) } := by
  have hcallers : ∀ {c' : ℕ} {caller' : Caller},
      Function.update s.callers c (some { key, nowMs }) c' = some caller' → Leads caller'.phase →
        s.callers c' = some caller' := by
    intro c' caller' hc' hleads
    rw [Function.update_apply] at hc'
    split_ifs at hc' with heq
    · cases hc'
      exact absurd hleads (by simp [Leads, Running])
    · exact hc'
  refine ⟨h.recorded, ?_, ?_, ?_⟩
  · intro c' caller' hc'
    dsimp only at hc'
    rw [Function.update_apply] at hc'
    split_ifs at hc' with heq
    · cases hc'
      trivial
    · exact h.backed c' caller' hc'
  · intro key'
    rw [h.refreshing key']
    constructor
    · rintro ⟨c', caller', hc', hkey, hleads⟩
      have hne : c' ≠ c := by
        rintro rfl
        rw [hc] at hc'
        cases hc'
      exact ⟨c', caller', (Function.update_of_ne hne _ _).trans hc', hkey, hleads⟩
    · rintro ⟨c', caller', hc', hkey, hleads⟩
      exact ⟨c', caller', hcallers hc' hleads, hkey, hleads⟩
  · intro c₁ c₂ caller₁ caller₂ h₁ h₂ hkey hleads₁ hleads₂
    exact h.exclusive c₁ c₂ caller₁ caller₂ (hcallers h₁ hleads₁)
      (hcallers h₂ hleads₂) hkey hleads₁ hleads₂

theorem Sound.setVersions (h : Sound s)
    (hmem : ∀ version ∈ (s.entries key).versions, version ∈ versions) :
    Sound (s.setVersions key versions) := by
  have hentries : ∀ key', ((s.setVersions key versions).entries key').slot = (s.entries key').slot ∧
      ((s.setVersions key versions).entries key').flights = (s.entries key').flights ∧
      ∀ version ∈ (s.entries key').versions,
        version ∈ ((s.setVersions key versions).entries key').versions := by
    intro key'
    simp only [GrokBuildCredentialRefreshCoordinator.setVersions, Function.update_apply]
    split_ifs with hkey
    · subst hkey
      exact ⟨rfl, rfl, hmem⟩
    · exact ⟨rfl, rfl, fun _ hversion => hversion⟩
  refine ⟨?_, ?_, ?_, h.exclusive⟩
  · intro key'
    obtain ⟨hslot, hflights, -⟩ := hentries key'
    constructor
    · rw [hslot, hflights]
      exact (h.recorded key').generation
    · rw [hslot, hflights]
      exact (h.recorded key').lastError
  · intro c caller hc
    exact (h.backed c caller hc).mono (hentries caller.key).2.2
  · intro key'
    rw [(hentries key').1]
    exact h.refreshing key'

theorem Sound.step (h : Sound s) (hstep : Step s l s') : Sound s' := by
  cases hstep with
  | call key nowMs hc => exact h.call hc
  | @act c caller action entry phase hc hact =>
    have hspec := act_spec hact (h.recorded caller.key) (h.backed c caller hc)
      (leads_refreshing h hc)
    exact h.acted hc hspec
  | insertIfAbsent credential hkey => exact h.setVersions (by simp [hkey])
  | external credential hkey => exact h.setVersions fun _ hversion => .tail _ hversion

theorem sound_of_run {trace : List Label} (hrun : Run Step {} trace s) : Sound s :=
  hrun.keeps (fun _ _ _ => Sound.step) sound_initial

/-- A caller leaves a wait behind the flight it waited for with the error of that flight. -/
theorem wake_after_failure (h : Sound s) (hc : s.callers c = some caller) {generation awaited : ℕ}
    {e : GrokBuildCredentialRefreshError} (hphase : caller.phase = .waiting generation awaited)
    (hfree : (s.entries caller.key).slot.refreshing = false)
    (hlast : (s.entries caller.key).flights.length = awaited + 1)
    (hfailed : (s.entries caller.key).flights[awaited]? = some (.error e)) (hstep : Step s l s') :
    s'.callers c = some caller ∨
      s'.callers c = some { caller with phase := .returned (.error e) } := by
  cases hstep with
  | @call c' key nowMs hnew =>
    have hne : c ≠ c' := by
      rintro rfl
      rw [hc] at hnew
      cases hnew
    exact .inl ((Function.update_of_ne hne _ _).trans hc)
  | insertIfAbsent credential hkey => exact .inl hc
  | external credential hkey => exact .inl hc
  | @act c' caller' action entry phase hc' hact =>
    by_cases heq : c = c'
    · subst heq
      cases hc.symm.trans hc'
      refine .inr ?_
      have hbacked := h.backed c caller hc
      rw [hphase] at hact hbacked
      cases action with
      | wake timedOut fault =>
        have hgeneration : (s.entries caller.key).slot.generation ≠ generation := by
          rw [(h.recorded caller.key).generation, show generation = awaited % 2 ^ 64 from hbacked]
          omega
        have herror : (s.entries caller.key).slot.lastError = some e := by
          rw [(h.recorded caller.key).lastError hfree, List.getLast?_eq_getElem?, hlast,
            Nat.add_sub_cancel, hfailed]
          rfl
        have hwake : wake caller.nowMs generation awaited timedOut fault (s.entries caller.key) =
            (s.entries caller.key, .returned (.error e)) := by
          simp [wake, hfree, hgeneration, herror]
        have hpair := Option.some.inj hact
        rw [hwake] at hpair
        obtain ⟨-, rfl⟩ := Prod.mk.inj hpair
        exact Function.update_self _ _ _
      | _ => cases hact
    · exact .inl ((Function.update_of_ne heq _ _).trans hc)

/-- A refresh that commits finds the revision it expects, and stores the next one. -/
theorem swap_commits {action : Action} {current version : GrokBuildCredentialVersion}
    {refreshed : GrokBuildCredential} (hc : s.callers c = some caller)
    (hphase : caller.phase = .swapping current refreshed) (hstep : Step s (.act c action) s')
    (hdone : s'.callers c = some { caller with phase := .finishing (.ok (.refreshed version)) }) :
    ∃ stored, (s.entries caller.key).versions.head? = some stored ∧
      version.revision = stored.revision + 1 ∧
      (s'.entries caller.key).versions = version :: (s.entries caller.key).versions := by
  cases hstep with
  | @act _ caller' _ entry phase hc' hact =>
    cases hc.symm.trans hc'
    have hentry : (acted s c caller entry phase).entries caller.key = entry :=
      Function.update_self _ _ _
    have hcaller : (acted s c caller entry phase).callers c = some { caller with phase } :=
      Function.update_self _ _ _
    have hfinal : phase = .finishing (.ok (.refreshed version)) :=
      congrArg Caller.phase (Option.some.inj (hcaller.symm.trans hdone))
    subst hfinal
    rw [hphase] at hact
    cases action with
    | swap fault loadFault =>
      have hpair : swap current refreshed fault loadFault (s.entries caller.key) = _ :=
        Option.some.inj hact
      unfold swap at hpair
      rcases compareAndSwap_cases current.revision refreshed fault loadFault
        (s.entries caller.key) with
        ⟨-, hnone⟩ | ⟨stored, hstored, hrevision, hcommitted⟩
      · split at hpair <;> cases hpair
        rename_i hswap
        exact absurd (congrArg Prod.fst hswap) (hnone version)
      · rw [hcommitted] at hpair
        obtain ⟨rfl, hversion⟩ := Prod.mk.inj hpair
        cases hversion
        exact ⟨stored, hstored, by rw [hrevision], congrArg Entry.versions hentry⟩
    | _ => cases hact

end Steps

/-! ### Guarantees -/

def IsRunning (s : GrokBuildCredentialRefreshCoordinator) (key : GrokBuildCredentialKey) : Prop :=
  ∃ c caller, s.callers c = some caller ∧ caller.key = key ∧ Running caller.phase

def HasPanicked (s : GrokBuildCredentialRefreshCoordinator) (key : GrokBuildCredentialKey) : Prop :=
  ∃ c caller, s.callers c = some caller ∧ caller.key = key ∧ caller.phase = .panicked

/-- **The refreshes of a key are a single flight.** One refresh of a key runs at a time; what
callers get is stored and has not expired for them; a caller leaves its wait with the error of the
flight it waited for, if that failed and no other flight was started since; a refresh that commits
stores the next revision. While no refresh of a key runs, its slot is free exactly when no transport
has panicked, and a caller that finds it free and the credential expired starts the next refresh. -/
theorem refresh_single_flight {trace : List Label} {s : GrokBuildCredentialRefreshCoordinator}
    (hrun : Run Step {} trace s) :
    (∀ c c' caller caller', s.callers c = some caller → s.callers c' = some caller' →
      caller.key = caller'.key → Running caller.phase → Running caller'.phase → c = c') ∧
    (∀ c caller outcome, s.callers c = some caller → caller.phase = .returned (.ok outcome) →
      outcome.version ∈ (s.entries caller.key).versions ∧
        outcome.version.credential.isExpiredAt caller.nowMs = false) ∧
    (∀ c caller generation awaited e l s', s.callers c = some caller →
      caller.phase = .waiting generation awaited →
      (s.entries caller.key).flights[awaited]? = some (.error e) →
      (s.entries caller.key).flights.length = awaited + 1 → ¬ IsRunning s caller.key →
      ¬ HasPanicked s caller.key → Step s l s' →
      s'.callers c = some caller ∨
      s'.callers c = some { caller with phase := .returned (.error e) }) ∧
    (∀ c caller current refreshed version action s', s.callers c = some caller →
      caller.phase = .swapping current refreshed → Step s (.act c action) s' →
      s'.callers c = some { caller with phase := .finishing (.ok (.refreshed version)) } →
      ∃ stored, (s.entries caller.key).versions.head? = some stored ∧
        version.revision = stored.revision + 1 ∧
        (s'.entries caller.key).versions = version :: (s.entries caller.key).versions) ∧
    (∀ key, ¬ IsRunning s key →
      ((s.entries key).slot.refreshing = false ↔ ¬ HasPanicked s key)) ∧
    ∀ c caller fault current, s.callers c = some caller → caller.phase = .arrived →
      (s.entries caller.key).slot.refreshing = false →
      loadRequired fault (s.entries caller.key) = .ok current →
      current.credential.isExpiredAt caller.nowMs = true →
      ∃ s', Step s (.act c (.enter fault)) s' ∧
        s'.callers c = some { caller with phase := .refreshing current } := by
  have hsound := sound_of_run hrun
  have hfree : ∀ key, ¬ IsRunning s key →
      ((s.entries key).slot.refreshing = false ↔ ¬ HasPanicked s key) := by
    intro key hquiet
    rw [← Bool.not_eq_true, hsound.refreshing key, not_iff_not]
    constructor
    · rintro ⟨c, caller, hc, hkey, hleads | hleads⟩
      · exact absurd ⟨c, caller, hc, hkey, hleads⟩ hquiet
      · exact ⟨c, caller, hc, hkey, hleads⟩
    · rintro ⟨c, caller, hc, hkey, hpanicked⟩
      exact ⟨c, caller, hc, hkey, .inr hpanicked⟩
  refine ⟨?_, ?_, ?_, ?_, hfree, ?_⟩
  · intro c c' caller caller' hc hc' hkey hrunning hrunning'
    exact hsound.exclusive c c' caller caller' hc hc' hkey (.inl hrunning) (.inl hrunning')
  · intro c caller outcome hc hphase
    have hbacked := hsound.backed c caller hc
    rw [hphase] at hbacked
    exact hbacked
  · intro c caller generation awaited e l s' hc hphase hfailed hlast hquiet hcalm hstep
    exact wake_after_failure hsound hc hphase ((hfree _ hquiet).mpr hcalm) hlast hfailed hstep
  · intro c caller current refreshed version action s' hc hphase hstep hdone
    exact swap_commits hc hphase hstep hdone
  · intro c caller fault current hc hphase hmark hload hexpired
    have hact : act caller.nowMs (.enter fault) caller.phase (s.entries caller.key) = some
        ({ s.entries caller.key with
            slot := { (s.entries caller.key).slot with refreshing := true, lastError := none } },
          .refreshing current) := by
      simp [hphase, act, enter, hmark, lead, hload, hexpired]
    exact ⟨_, .act hc hact, Function.update_self _ _ _⟩

/-! ### Samples -/

/-- A label's step, computed. -/
def next (s : GrokBuildCredentialRefreshCoordinator) :
    Label → Option GrokBuildCredentialRefreshCoordinator
  | .call c key nowMs =>
    if (s.callers c).isNone then
      some { s with callers := Function.update s.callers c (some { key, nowMs }) }
    else none
  | .act c action => do
    let caller ← s.callers c
    let (entry, phase) ← act caller.nowMs action caller.phase (s.entries caller.key)
    return acted s c caller entry phase
  | .insertIfAbsent key credential =>
    if (s.entries key).versions.isEmpty then some (s.setVersions key [⟨credential, 0⟩]) else none
  | .external key credential => do
    let current ← (s.entries key).versions.head?
    return s.setVersions key (⟨credential, current.revision + 1⟩ :: (s.entries key).versions)

theorem step_of_next {l : Label} (h : next s l = some s') : Step s l s' := by
  cases l with
  | call c key nowMs =>
    simp only [next] at h
    split_ifs at h with hc
    cases h
    exact .call key nowMs (Option.isNone_iff_eq_none.mp hc)
  | act c action =>
    simp only [next, Option.bind_eq_bind, Option.bind_eq_some_iff] at h
    obtain ⟨caller, hc, ⟨entry, phase⟩, hact, h⟩ := h
    cases h
    exact .act hc hact
  | insertIfAbsent key credential =>
    simp only [next] at h
    split_ifs at h with hkey
    cases h
    exact .insertIfAbsent credential (List.isEmpty_iff.mp hkey)
  | external key credential =>
    simp only [next, Option.bind_eq_bind, Option.bind_eq_some_iff] at h
    obtain ⟨current, hkey, h⟩ := h
    cases h
    exact .external credential hkey

def execute (s : GrokBuildCredentialRefreshCoordinator) :
    List Label → Option GrokBuildCredentialRefreshCoordinator
  | [] => some s
  | l :: labels => (next s l).bind fun s' => execute s' labels

theorem run_of_execute {labels : List Label}
    (h : execute s labels = some s') : Run Step s labels s' := by
  induction labels generalizing s with
  | nil =>
    cases h
    exact .nil _
  | cons l labels ih =>
    obtain ⟨t, hnext, hrest⟩ := Option.bind_eq_some_iff.mp h
    exact .cons (step_of_next hnext) (ih hrest)

def sampleKey : GrokBuildCredentialKey :=
  ⟨.lit "version", .lit "credential", by decide +kernel, by decide +kernel⟩

def sampleCredential (expiresAtMs : ℤ) : GrokBuildCredential :=
  ⟨"access", "refresh", expiresAtMs, "client", "scope"⟩

def sampleGrant : Response := .granted ⟨"access", "refresh", 1, none, none⟩

/-- A caller at 10 finds a credential that expired at 5, and the transport panics. -/
def panickedHistory : List Label :=
  [.insertIfAbsent sampleKey (sampleCredential 5), .call 0 sampleKey 10, .act 0 (.enter none),
    .act 0 .panic]

/-- Caller 1 waits for the flight of caller 0, which fails; before it wakes, caller 2 leads a flight
that succeeds. -/
def overtakenHistory : List Label :=
  [.insertIfAbsent sampleKey (sampleCredential 5), .call 0 sampleKey 10, .act 0 (.enter none),
    .call 1 sampleKey 10, .act 1 (.enter none), .act 0 (.transport "client" .unavailable),
    .act 0 .finish, .call 2 sampleKey 10, .act 2 (.enter none),
    .act 2 (.transport "client" sampleGrant), .act 2 (.swap none none), .act 2 .finish,
    .act 1 (.wake false none), .act 1 (.reload none)]

def panickedState : GrokBuildCredentialRefreshCoordinator := (execute {} panickedHistory).getD {}

def overtakenState : GrokBuildCredentialRefreshCoordinator := (execute {} overtakenHistory).getD {}

theorem run_panickedHistory : Run Step {} panickedHistory panickedState :=
  run_of_execute rfl

theorem run_overtakenHistory : Run Step {} overtakenHistory overtakenState :=
  run_of_execute rfl

/-- A transport that panics leaves the slot marked with no refresh running, and a caller whose
flight failed returns what a later flight has stored. -/
theorem panic_blocks_key :
    (Run Step {} panickedHistory panickedState ∧ ¬ IsRunning panickedState sampleKey ∧
      (panickedState.entries sampleKey).slot.refreshing = true) ∧
    ∃ caller, Run Step {} overtakenHistory overtakenState ∧ overtakenState.callers 1 = some caller ∧
      (overtakenState.entries sampleKey).flights[0]? =
        some (.error (.oauth .transportUnavailable)) ∧
      caller.phase = .returned (.ok (.current ⟨sampleCredential 1010, 1⟩)) := by
  refine ⟨⟨run_panickedHistory, ?_, rfl⟩, ⟨_, _, _⟩, run_overtakenHistory, rfl, rfl, rfl⟩
  rintro ⟨c, caller, hc, hkey, hrunning⟩
  have hzero : panickedState.callers 0 = some ⟨sampleKey, 10, .panicked⟩ := rfl
  have heq := (sound_of_run run_panickedHistory).exclusive c 0 caller _ hc hzero hkey
    (.inl hrunning)
    (.inr rfl)
  subst heq
  cases hc.symm.trans hzero
  exact hrunning

/-- The flight of caller 0 has failed, and caller 1 has not woken up yet. -/
def failedHistory : List Label := overtakenHistory.take 7

def failedState : GrokBuildCredentialRefreshCoordinator := (execute {} failedHistory).getD {}

theorem run_failedHistory : Run Step {} failedHistory failedState := run_of_execute rfl

theorem callers_failedState (c : ℕ) (caller : Caller) (hc : failedState.callers c = some caller) :
    caller.phase = .waiting 0 0 ∨
      caller.phase = .returned (.error (.oauth .transportUnavailable)) := by
  match c with
  | 0 =>
    cases hc
    exact .inr rfl
  | 1 =>
    cases hc
    exact .inl rfl
  | c + 2 => cases hc

theorem refresh_single_flight_sample :
    (failedState.entries sampleKey).slot.refreshing = false ∧
    ∀ l s', Step failedState l s' → s'.callers 1 = some ⟨sampleKey, 10, .waiting 0 0⟩ ∨
      s'.callers 1 = some ⟨sampleKey, 10, .returned (.error (.oauth .transportUnavailable))⟩ := by
  obtain ⟨-, -, hwaits, -, hfree, -⟩ := refresh_single_flight run_failedHistory
  have hquiet : ¬ IsRunning failedState sampleKey := by
    rintro ⟨c, caller, hc, -, hrunning⟩
    rcases callers_failedState c caller hc with hphase | hphase <;> rw [hphase] at hrunning <;>
      exact hrunning
  have hcalm : ¬ HasPanicked failedState sampleKey := by
    rintro ⟨c, caller, hc, -, hpanicked⟩
    rcases callers_failedState c caller hc with hphase | hphase <;> rw [hphase] at hpanicked <;>
      cases hpanicked
  refine ⟨(hfree sampleKey hquiet).mpr hcalm, fun l s' hstep => ?_⟩
  exact hwaits 1 ⟨sampleKey, 10, .waiting 0 0⟩ 0 0 _ l s' rfl rfl rfl rfl hquiet hcalm hstep

end CpaGateway.Grok.RefreshFlight
