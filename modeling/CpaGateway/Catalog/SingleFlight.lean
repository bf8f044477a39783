import CpaGateway.Catalog.Scheduler
import CpaGateway.Lib.Transition

/-! # One discovery at a time

The map has the flights whose tasks have not removed them: those that discover, those that have
discovered and wait for the lock, and those whose source has panicked. All guarantees of the
scheduler follow from that; the last kind is where one of them fails. -/

namespace CpaGateway.Catalog.SingleFlight

open Catalog.Discovery Catalog.Scheduler Lib.Transition

def InMap : Task → Prop
  | .discovering | .discovered _ | .panicked => True
  | .removed _ | .published => False

/-- The map, the flights and the callers fit together. -/
structure Sound (s : ModelCatalogScheduler) : Prop where
  numbered : ∀ f, s.started ≤ f → s.flights f = none
  entry : ∀ target f, s.inFlight target = some f ↔
    ∃ flight, s.flights f = some flight ∧ flight.target = target ∧ InMap flight.task
  result : ∀ f flight, s.flights f = some flight →
    (flight.result.isSome = true ↔ flight.task = .published)
  waiting : ∀ c f, s.callers c = some (.waiting f) → ∃ flight, s.flights f = some flight

variable {s s' : ModelCatalogScheduler}

section Steps

variable {l : Label} {c f : ℕ} {flight flight' : Flight} {target : ModelCatalogTarget}

theorem sound_initial : Sound {} := ⟨by simp, by simp, by simp, by simp⟩

theorem callers_setCaller {caller : Caller} (c' : ℕ) :
    (s.setCaller c caller).callers c' = if c' = c then some caller else s.callers c' :=
  Function.update_apply _ _ _ _

theorem flights_setFlight (f' : ℕ) :
    (s.setFlight f flight').flights f' = if f' = f then some flight' else s.flights f' :=
  Function.update_apply _ _ _ _

theorem Sound.setCaller (h : Sound s) {caller : Caller}
    (hcaller : ∀ f, caller = .waiting f → ∃ flight, s.flights f = some flight) :
    Sound (s.setCaller c caller) where
  numbered := h.numbered
  entry := h.entry
  result := h.result
  waiting c' f hwaiting := by
    rw [callers_setCaller] at hwaiting
    split_ifs at hwaiting
    · exact hcaller f (Option.some.inj hwaiting)
    · exact h.waiting c' f hwaiting

theorem Sound.setFlight (h : Sound s) (hf : s.flights f = some flight)
    (htarget : flight'.target = flight.target) (hmap : InMap flight'.task ↔ InMap flight.task)
    (hresult : flight'.result.isSome = true ↔ flight'.task = .published) :
    Sound (s.setFlight f flight') where
  numbered f' hle := by
    have hne : f' ≠ f := by
      rintro rfl
      rw [h.numbered f' hle] at hf
      cases hf
    rw [flights_setFlight, if_neg hne]
    exact h.numbered f' hle
  entry target f' := by
    refine (h.entry target f').trans ?_
    rw [flights_setFlight]
    by_cases heq : f' = f
    · subst heq
      simp [hf, htarget, hmap]
    · simp [heq]
  result f' x hx := by
    rw [flights_setFlight] at hx
    split_ifs at hx
    · cases hx
      exact hresult
    · exact h.result f' x hx
  waiting c' f' hwaiting := by
    obtain ⟨x, hx⟩ := h.waiting c' f' hwaiting
    rw [flights_setFlight]
    split_ifs
    · exact ⟨flight', rfl⟩
    · exact ⟨x, hx⟩

theorem Sound.spawn (h : Sound s) (hnone : s.inFlight target = none) :
    Sound (s.spawnDiscovery target) where
  numbered f hle := by
    have hne : f ≠ s.started := by
      rintro rfl
      exact absurd hle (by simp [ModelCatalogScheduler.spawnDiscovery])
    have hlt : s.started ≤ f := Nat.le_of_succ_le hle
    simpa [ModelCatalogScheduler.spawnDiscovery, ModelCatalogScheduler.setFlight,
      Function.update_of_ne hne] using h.numbered f hlt
  entry target' f := by
    have hnew := h.numbered s.started (Nat.le_refl _)
    simp only [ModelCatalogScheduler.spawnDiscovery, flights_setFlight, Function.update_apply]
    by_cases heq : f = s.started
    · subst heq
      by_cases ht : target' = target
      · subst ht
        simp [InMap]
      · have hold : s.inFlight target' ≠ some s.started := by
          intro hin
          obtain ⟨x, hx, -⟩ := (h.entry target' s.started).mp hin
          rw [hnew] at hx
          cases hx
        simp [ht, hold, Ne.symm ht]
    · by_cases ht : target' = target
      · subst ht
        have hold := (h.entry target' f)
        rw [hnone] at hold
        simp only [if_true, heq, Option.some.injEq, Ne.symm heq, false_iff]
        exact fun hx => absurd (hold.mpr hx) (by simp)
      · simp only [ht, heq]
        exact h.entry target' f
  result f x hx := by
    simp only [ModelCatalogScheduler.spawnDiscovery, flights_setFlight] at hx
    split_ifs at hx
    · cases hx
      simp
    · exact h.result f x hx
  waiting c f hwaiting := by
    obtain ⟨x, hx⟩ := h.waiting c f hwaiting
    simp only [ModelCatalogScheduler.spawnDiscovery, flights_setFlight]
    split_ifs
    · exact ⟨_, rfl⟩
    · exact ⟨x, hx⟩

variable {result : ModelCatalogResult}

theorem Sound.remove (h : Sound s) (hf : s.flights f = some flight)
    (htask : flight.task = .discovered result) :
    Sound
      ((s.removeFlight flight.target f).setFlight f { flight with task := .removed result }) := by
  have hin : s.inFlight flight.target = some f :=
    (h.entry flight.target f).mpr ⟨flight, hf, rfl, by rw [htask]; trivial⟩
  rw [ModelCatalogScheduler.removeFlight, if_pos hin]
  refine ⟨fun f' hle => ?_, fun target f' => ?_, fun f' x hx => ?_, fun c' f' hwaiting => ?_⟩
  · have hne : f' ≠ f := by
      rintro rfl
      rw [h.numbered f' hle] at hf
      cases hf
    rw [flights_setFlight, if_neg hne]
    exact h.numbered f' hle
  · have hmap : (ModelCatalogScheduler.setFlight { s with
        inFlight := Function.update s.inFlight flight.target none } f
        { flight with task := .removed result }).inFlight target =
        if target = flight.target then none else s.inFlight target := Function.update_apply _ _ _ _
    rw [hmap, flights_setFlight]
    by_cases hsame : f' = f
    · -- the flight has left the map, and was there under its own target only
      subst hsame
      have hother : target ≠ flight.target → s.inFlight target ≠ some f' := by
        intro hne hold
        obtain ⟨x, hx, htarget, -⟩ := (h.entry target f').mp hold
        cases hf.symm.trans hx
        exact hne htarget.symm
      by_cases ht : target = flight.target
      · simp [ht, InMap]
      · simp [ht, InMap, hother ht]
    · simp only [hsame]
      by_cases ht : target = flight.target
      · subst ht
        have hold := h.entry flight.target f'
        rw [hin] at hold
        simp only [if_true, reduceCtorEq, false_iff]
        exact fun hx => hsame (Option.some.inj (hold.mpr hx)).symm
      · rw [if_neg ht]
        exact h.entry target f'
  · rw [flights_setFlight] at hx
    split_ifs at hx with hsame
    · cases hx
      have hnone := h.result f flight hf
      rw [htask] at hnone
      simpa using hnone
    · exact h.result f' x hx
  · obtain ⟨x, hx⟩ := h.waiting c' f' hwaiting
    rw [flights_setFlight]
    split_ifs
    · exact ⟨_, rfl⟩
    · exact ⟨x, hx⟩

/-- **One step.** -/
theorem Sound.step (h : Sound s) (hstep : Step s l s') : Sound s' := by
  cases hstep with
  | arrive | receive | closed | cancelArrived | cancelWaiting => exact h.setCaller (by simp)
  | join harrived hflight =>
    obtain ⟨flight, hf, -⟩ := (h.entry _ _).mp hflight
    refine h.setCaller ?_
    rintro _ ⟨⟩
    exact ⟨flight, hf⟩
  | start harrived hnone =>
    refine (h.spawn hnone).setCaller ?_
    rintro _ ⟨⟩
    exact ⟨_, if_pos rfl⟩
  | discover hf htask | panic hf htask =>
    refine h.setFlight hf rfl (by simp [InMap, htask]) ?_
    have hresult := h.result _ _ hf
    rw [htask] at hresult
    simpa using hresult
  | remove hf htask => exact h.remove hf htask
  | publish hf htask => exact h.setFlight hf rfl (by simp [InMap, htask]) (by simp)

/-! ### What is published -/

/-- The value in the channel of a flight. -/
def resultOf (s : ModelCatalogScheduler) (f : ℕ) : Option ModelCatalogResult :=
  (s.flights f).bind (·.result)

/-- What a flight has discovered, published or not. -/
def foundBy (flight : Flight) : Option ModelCatalogResult :=
  match flight.task with
  | .discovered result | .removed result => some result
  | .published => flight.result
  | .discovering | .panicked => none

def foundOf (s : ModelCatalogScheduler) (f : ℕ) : Option ModelCatalogResult :=
  (s.flights f).bind foundBy

theorem resultOf_setFlight (f' : ℕ) :
    resultOf (s.setFlight f flight') f' = if f' = f then flight'.result else resultOf s f' := by
  rw [resultOf, flights_setFlight]
  split_ifs <;> rfl

theorem foundOf_setFlight (f' : ℕ) :
    foundOf (s.setFlight f flight') f' = if f' = f then foundBy flight' else foundOf s f' := by
  rw [foundOf, flights_setFlight]
  split_ifs <;> rfl

theorem resultOf_of_flight (hf : s.flights f = some flight) : resultOf s f = flight.result := by
  rw [resultOf, hf, Option.bind_some]

theorem resultOf_setTask (hf : s.flights f = some flight) (task : Task) (f' : ℕ) :
    resultOf (s.setFlight f { flight with task }) f' = resultOf s f' := by
  rw [resultOf_setFlight]
  split_ifs with heq
  · rw [heq, resultOf_of_flight hf]
  · rfl

theorem spawn_of_ne (hne : f ≠ s.started) : (s.spawnDiscovery target).flights f = s.flights f :=
  Function.update_of_ne hne _ _

theorem spawn_self : (s.spawnDiscovery target).flights s.started = some { target } :=
  Function.update_self _ _ _

theorem flights_removeFlight : (s.removeFlight target f).flights = s.flights := by
  rw [ModelCatalogScheduler.removeFlight]
  split_ifs <;> rfl

theorem resultOf_step (h : Sound s) (hstep : Step s l s') (f : ℕ) (result : ModelCatalogResult) :
    resultOf s' f = some result ↔ resultOf s f = some result ∨ l = .publish f result := by
  cases hstep with
  | @start c target harrived hnone =>
    have hcaller : resultOf ((s.spawnDiscovery target).setCaller c (.waiting s.started)) f =
        resultOf (s.spawnDiscovery target) f := rfl
    rw [hcaller]
    by_cases heq : f = s.started
    · subst heq
      simp [resultOf, spawn_self, h.numbered s.started (Nat.le_refl _)]
    · simp [resultOf, spawn_of_ne heq]
  | discover hf | panic hf =>
    rw [resultOf_setTask hf]
    simp
  | remove hf htask =>
    rw [resultOf_setTask (by rw [flights_removeFlight]; exact hf), resultOf, flights_removeFlight]
    simp [resultOf]
  | @publish f' flight r hf htask =>
    have hnone : flight.result = none := by
      have hresult := h.result _ _ hf
      rw [htask] at hresult
      simpa using hresult
    rw [resultOf_setFlight]
    by_cases heq : f = f'
    · subst heq
      rw [resultOf_of_flight hf, hnone]
      simp
    · simp [heq, Ne.symm heq]
  | _ => exact ⟨.inl, fun hold => hold.resolve_right (by simp)⟩

/-- What was found stays, and only a discovery finds something. -/
theorem foundOf_step (hstep : Step s l s') (f : ℕ) (result : ModelCatalogResult)
    (hfound : foundOf s' f = some result) : foundOf s f = some result ∨
      ∃ outcome, l = .discover f outcome ∧ result = outcome.map normalizeModels := by
  cases hstep with
  | @start c target harrived hnone =>
    left
    have hspawn : foundOf (s.spawnDiscovery target) f = some result := hfound
    by_cases heq : f = s.started
    · subst heq
      simp [foundOf, foundBy, spawn_self] at hspawn
    · rwa [foundOf, spawn_of_ne heq] at hspawn
  | discover hf htask outcome =>
    rw [foundOf_setFlight] at hfound
    split_ifs at hfound with heq
    · subst heq
      exact .inr ⟨outcome, rfl, (Option.some.inj hfound).symm⟩
    · exact .inl hfound
  | panic hf htask =>
    rw [foundOf_setFlight] at hfound
    split_ifs at hfound
    · cases hfound
    · exact .inl hfound
  | remove hf htask =>
    rw [foundOf_setFlight] at hfound
    split_ifs at hfound with heq
    · subst heq
      left
      rw [foundOf, hf, Option.bind_some, foundBy, htask]
      exact hfound
    · rw [foundOf, flights_removeFlight] at hfound
      exact .inl hfound
  | publish hf htask =>
    rw [foundOf_setFlight] at hfound
    split_ifs at hfound with heq
    · subst heq
      left
      rw [foundOf, hf, Option.bind_some, foundBy, htask]
      exact hfound
    · exact .inl hfound
  | _ => exact .inl hfound

/-- A task is stopped by a panic and by nothing else, for good. -/
theorem panicked_step (h : Sound s) (hstep : Step s l s') (f : ℕ) :
    (∃ flight, s'.flights f = some flight ∧ flight.task = .panicked) ↔
      (∃ flight, s.flights f = some flight ∧ flight.task = .panicked) ∨ l = .panic f := by
  have hset : ∀ (x : ModelCatalogScheduler) {f' : ℕ} {flight flight' : Flight},
      x.flights f' = some flight → flight.task ≠ .panicked →
      ((∃ y, (x.setFlight f' flight').flights f = some y ∧ y.task = .panicked) ↔
        (∃ y, x.flights f = some y ∧ y.task = .panicked) ∨ f' = f ∧ flight'.task = .panicked) := by
    intro x f' flight flight' hf hold
    rw [flights_setFlight]
    by_cases heq : f = f'
    · subst heq
      simp [hf, hold]
    · simp [heq, Ne.symm heq]
  cases hstep with
  | @start c target harrived hnone =>
    have hcaller : ((s.spawnDiscovery target).setCaller c (.waiting s.started)).flights f =
        (s.spawnDiscovery target).flights f := rfl
    rw [hcaller]
    by_cases heq : f = s.started
    · subst heq
      simp [spawn_self, h.numbered s.started (Nat.le_refl _)]
    · simp [spawn_of_ne heq]
  | discover hf htask | panic hf htask | publish hf htask =>
    rw [hset s hf (by simp [htask])]
    simp
  | @remove f' flight r hf htask =>
    rw [hset (s.removeFlight flight.target f') (by rw [flights_removeFlight]; exact hf)
      (by simp [htask]), flights_removeFlight]
    simp
  | _ => exact ⟨.inl, fun hold => hold.resolve_right (by simp)⟩

theorem callers_removeFlight (target : ModelCatalogTarget) (f : ℕ) :
    (s.removeFlight target f).callers = s.callers := by
  rw [ModelCatalogScheduler.removeFlight]
  split_ifs <;> rfl

/-- Whom a caller waits for: the flight in the map when it came, or its own. -/
theorem waiting_step (hstep : Step s l s') (hwaiting : s'.callers c = some (.waiting f)) :
    s.callers c = some (.waiting f) ∨ (∃ target, s.inFlight target = some f) ∨ f = s.started := by
  have hset : ∀ (x : ModelCatalogScheduler) {c' : ℕ} {caller : Caller},
      (x.setCaller c' caller).callers c = some (.waiting f) →
      caller = .waiting f ∨ x.callers c = some (.waiting f) := by
    intro x c' caller hc
    rw [callers_setCaller] at hc
    split_ifs at hc
    · exact .inl (Option.some.inj hc)
    · exact .inr hc
  cases hstep with
  | join harrived hflight =>
    rcases hset s hwaiting with hself | hold
    · cases hself
      exact .inr (.inl ⟨_, hflight⟩)
    · exact .inl hold
  | @start c' target harrived hnone =>
    rcases hset (s.spawnDiscovery target) hwaiting with hself | hold
    · cases hself
      exact .inr (.inr rfl)
    · exact .inl hold
  | discover | panic | publish => exact .inl hwaiting
  | @remove f' flight r hf htask =>
    left
    rw [← callers_removeFlight (s := s) flight.target f']
    exact hwaiting
  | arrive | receive | closed | cancelArrived | cancelWaiting =>
    exact .inl ((hset s hwaiting).resolve_left (by simp))

/-- A caller that waits goes on by the result of its flight, by the end of the channel, or not at
all. -/
theorem left_step (hwaiting : s.callers c = some (.waiting f)) (hstep : Step s l s')
    (hleft : s'.callers c ≠ s.callers c) :
    (∃ result, resultOf s f = some result ∧ l = .receive c f result) ∨ l = .closed c f ∨
      l = .cancel c := by
  have hself : ∀ {x : ModelCatalogScheduler} {c' : ℕ} {caller : Caller}, x.callers = s.callers →
      (x.setCaller c' caller).callers c ≠ s.callers c → c' = c := by
    intro x c' caller hx hne
    by_contra hother
    rw [callers_setCaller, if_neg (Ne.symm hother), hx] at hne
    exact hne rfl
  cases hstep with
  | arrive target hnone =>
    cases hself rfl hleft
    rw [hwaiting] at hnone
    cases hnone
  | join harrived hflight =>
    cases hself rfl hleft
    rw [hwaiting] at harrived
    cases harrived
  | @start c' target harrived hnone =>
    cases hself (x := s.spawnDiscovery target) rfl hleft
    rw [hwaiting] at harrived
    cases harrived
  | discover | panic | publish => exact absurd rfl hleft
  | @remove f' flight r hf htask =>
    refine absurd ?_ hleft
    rw [← callers_removeFlight (s := s) flight.target f']
    rfl
  | @receive c' f' flight result hw hf hresult =>
    cases hself rfl hleft
    rw [hwaiting, Option.some.injEq, Caller.waiting.injEq] at hw
    subst hw
    exact .inl ⟨result, by rw [resultOf_of_flight hf, hresult], rfl⟩
  | closed hw hf hresult hended hdropped =>
    cases hself rfl hleft
    rw [hwaiting, Option.some.injEq, Caller.waiting.injEq] at hw
    subst hw
    exact .inr (.inl rfl)
  | cancelArrived | cancelWaiting =>
    cases hself rfl hleft
    exact .inr (.inr rfl)

theorem resultOf_inFlight (h : Sound s) (hin : s.inFlight target = some f) :
    resultOf s f = none := by
  obtain ⟨flight, hf, -, hmap⟩ := (h.entry target f).mp hin
  have hresult := h.result f flight hf
  rw [resultOf_of_flight hf]
  cases htask : flight.task <;> simp_all [InMap]

theorem foundOf_of_resultOf (h : Sound s)
    (hresult : resultOf s f = some result) : foundOf s f = some result := by
  obtain ⟨flight, hf, hflight⟩ := Option.bind_eq_some_iff.mp hresult
  have htask := (h.result f flight hf).mp (by rw [hflight]; rfl)
  rw [foundOf, hf, Option.bind_some, foundBy, htask]
  exact hflight

end Steps

/-! ### Runs -/

/-- What a run shows of the results. -/
structure Shown (trace : List Label) (s : ModelCatalogScheduler) : Prop where
  sound : Sound s
  published : ∀ f result, .publish f result ∈ trace ↔ resultOf s f = some result
  found : ∀ f result, foundOf s f = some result →
    ∃ outcome, .discover f outcome ∈ trace ∧ result = outcome.map normalizeModels
  received : ∀ c f result, .receive c f result ∈ trace → resultOf s f = some result
  unclosed : ∀ c f, .closed c f ∉ trace
  panicked : ∀ f, .panic f ∈ trace ↔ ∃ flight, s.flights f = some flight ∧ flight.task = .panicked

section Runs

variable {l : Label} {trace : List Label} {c f : ℕ}

/-- The channel of a flight is never closed without a result. -/
theorem not_closed (h : Sound s) (hstep : Step s (.closed c f) s') : False := by
  cases hstep with
  | @closed _ _ flight hwaiting hf hresult hended hdropped =>
    cases htask : flight.task with
    | discovering | discovered | removed => simp [htask, Task.HasEnded] at hended
    | published =>
      have hsome := (h.result f flight hf).mpr htask
      rw [hresult] at hsome
      cases hsome
    | panicked => exact hdropped ((h.entry _ _).mpr ⟨flight, hf, rfl, by rw [htask]; trivial⟩)

theorem Shown.step (h : Shown trace s) (hstep : Step s l s') : Shown (trace ++ [l]) s' where
  sound := h.sound.step hstep
  published f result := by
    rw [List.mem_append, List.mem_singleton, h.published, resultOf_step h.sound hstep,
      eq_comm (a := l)]
  found f result hfound := by
    rcases foundOf_step hstep f result hfound with hold | ⟨outcome, rfl, hresult⟩
    · obtain ⟨outcome, hmem, hresult⟩ := h.found f result hold
      exact ⟨outcome, List.mem_append_left _ hmem, hresult⟩
    · exact ⟨outcome, by simp, hresult⟩
  received c f result hmem := by
    rw [resultOf_step h.sound hstep]
    left
    rcases List.mem_append.mp hmem with hmem | hmem
    · exact h.received c f result hmem
    · obtain rfl := List.mem_singleton.mp hmem
      cases hstep with
      | receive hwaiting hf hresult => rw [resultOf_of_flight hf, hresult]
  unclosed c f hmem := by
    rcases List.mem_append.mp hmem with hmem | hmem
    · exact h.unclosed c f hmem
    · obtain rfl := List.mem_singleton.mp hmem
      exact not_closed h.sound hstep
  panicked f := by
    rw [List.mem_append, List.mem_singleton, h.panicked, panicked_step h.sound hstep,
      eq_comm (a := l)]

theorem shown_of_run (h : Run Step {} trace s) : Shown trace s := by
  have hinitial : Shown [] {} :=
    ⟨sound_initial, by simp [resultOf], by simp [foundOf], by simp, by simp, by simp⟩
  exact h.invariant hinitial fun _ => Shown.step

/-- **Nothing old.** The result that a caller gets was not published when the caller arrived. -/
theorem receive_after_arrival {before after : List Label} {target : ModelCatalogTarget}
    {result : ModelCatalogResult} (h : Run Step {} (before ++ .arrive c target :: after) s)
    (hreceive : .receive c f result ∈ after) (result' : ModelCatalogResult) :
    .publish f result' ∉ before := by
  obtain ⟨s₀, s₁, hbefore, harrive, hafter⟩ := h.at_label
  have hshown := shown_of_run hbefore
  -- what was published before stays published, and the caller does not wait for it
  obtain ⟨-, hlabels⟩ := Run.labels
    (P := fun x => Sound x ∧ (∀ f r, resultOf s₀ f = some r → resultOf x f = some r) ∧
      ∀ f, x.callers c = some (.waiting f) → resultOf s₀ f = none)
    (Q := fun l => ∀ f r, l = .receive c f r → resultOf s₀ f = none)
    (fun x l y ⟨hx, hstays, hwaits⟩ hstep => by
      refine ⟨⟨hx.step hstep, fun f r hr => ?_, fun f hwaiting => ?_⟩, ?_⟩
      · exact (resultOf_step hx hstep f r).mpr (.inl (hstays f r hr))
      · have hnone : ∀ {f}, resultOf x f = none → resultOf s₀ f = none := by
          intro f hnone
          rw [Option.eq_none_iff_forall_ne_some] at hnone ⊢
          exact fun r hr => hnone r (hstays f r hr)
        rcases waiting_step hstep hwaiting with hold | ⟨t, hin⟩ | rfl
        · exact hwaits f hold
        · exact hnone (resultOf_inFlight hx hin)
        · exact hnone (by rw [resultOf, hx.numbered _ (Nat.le_refl _)]; rfl)
      · rintro f r rfl
        cases hstep with
        | receive hwaiting hf hresult => exact hwaits f hwaiting)
    ⟨hshown.sound.step harrive, fun f r hr =>
      (resultOf_step hshown.sound harrive f r).mpr (.inl hr), fun f hwaiting => by
        cases harrive with
        | arrive target hnone =>
          rw [callers_setCaller, if_pos rfl] at hwaiting
          cases hwaiting⟩ hafter
  intro hpublished
  have hnone := hlabels _ hreceive f result rfl
  rw [(hshown.published f result').mp hpublished] at hnone
  cases hnone

end Runs

/-- **The guarantees of the scheduler**, over every interleaving of callers and tasks. (1) At most
one discovery of a target runs. (2) A caller gets no result that was published before it arrived.
(3) What a caller gets is the one result that its flight published, sorted and without repetition; a
caller of a flight with a result can receive it, and nothing else can happen to it but to be
cancelled. (4) After the task of a flight has ended, the flight is in the map iff its source
panicked. -/
theorem single_flight {trace : List Label} {s : ModelCatalogScheduler} (h : Run Step {} trace s) :
    (∀ f g x y, s.flights f = some x → s.flights g = some y → x.task = .discovering →
      y.task = .discovering → x.target = y.target → f = g) ∧
    (∀ before c target after f result, trace = before ++ .arrive c target :: after →
      .receive c f result ∈ after → ∀ result', .publish f result' ∉ before) ∧
    (∀ c f result, .receive c f result ∈ trace → .publish f result ∈ trace) ∧
    (∀ c f, .closed c f ∉ trace) ∧
    (∀ f result, .publish f result ∈ trace →
      (∀ result', .publish f result' ∈ trace → result' = result) ∧
      (∃ outcome, .discover f outcome ∈ trace ∧ result = outcome.map normalizeModels) ∧
      (∀ models, result = .ok models → Normalized models) ∧
      ∀ c, s.callers c = some (.waiting f) → (∃ s', Step s (.receive c f result) s') ∧
        ∀ l s', Step s l s' → s'.callers c ≠ s.callers c → l = .receive c f result ∨
        l = .cancel c) ∧
    ∀ f x, s.flights f = some x → x.task.HasEnded →
      ((∃ target, s.inFlight target = some f) ↔ .panic f ∈ trace) := by
  have hshown := shown_of_run h
  have hsound := hshown.sound
  refine ⟨?_, ?_, ?_, hshown.unclosed, ?_, ?_⟩
  · intro f g x y hf hg hx hy htarget
    have hfin := (hsound.entry x.target f).mpr ⟨x, hf, rfl, by rw [hx]; trivial⟩
    have hgin := (hsound.entry y.target g).mpr ⟨y, hg, rfl, by rw [hy]; trivial⟩
    rw [htarget, hgin] at hfin
    exact (Option.some.inj hfin).symm
  · rintro before c target after f result rfl hreceive result'
    exact receive_after_arrival h hreceive result'
  · intro c f result hreceive
    exact (hshown.published f result).mpr (hshown.received c f result hreceive)
  · intro f result hpublish
    have hresult := (hshown.published f result).mp hpublish
    obtain ⟨outcome, hdiscover, hnormal⟩ :=
      hshown.found f result (foundOf_of_resultOf hsound hresult)
    refine ⟨fun result' hpublish' => ?_, ⟨outcome, hdiscover, hnormal⟩, ?_, fun c hwaiting =>
      ⟨?_, ?_⟩⟩
    · have hresult' := (hshown.published f result').mp hpublish'
      exact Option.some.inj (hresult'.symm.trans hresult)
    · rintro models rfl
      cases outcome with
      | error e => cases hnormal
      | ok found =>
        cases hnormal
        exact normalized_normalizeModels found
    · obtain ⟨x, hx, hxr⟩ := Option.bind_eq_some_iff.mp hresult
      exact ⟨_, .receive hwaiting hx hxr⟩
    · intro l s' hstep hleft
      rcases left_step hwaiting hstep hleft with ⟨result', hresult', rfl⟩ | rfl | rfl
      · cases hresult.symm.trans hresult'
        exact .inl rfl
      · exact absurd hstep (not_closed hsound)
      · exact .inr rfl
  · intro f x hf hended
    rw [hshown.panicked]
    constructor
    · rintro ⟨target, hin⟩
      obtain ⟨y, hy, -, hmap⟩ := (hsound.entry target f).mp hin
      cases htask : x.task <;> simp_all [InMap, Task.HasEnded]
    · rintro ⟨y, hy, hpanicked⟩
      exact ⟨y.target, (hsound.entry _ _).mpr ⟨y, hy, rfl, by rw [hpanicked]; trivial⟩⟩

/-- The target of the run below. -/
def sampleTarget : ModelCatalogTarget := ⟨.lit "endpoint", .lit "credential"⟩

/-- The source of a flight panics; a later caller joins the flight. -/
def panickedTrace : List Label :=
  [.arrive 0 sampleTarget, .start 0 0, .panic 0, .arrive 1 sampleTarget, .join 1 0]

def panickedState : ModelCatalogScheduler where
  inFlight := Function.update (fun _ => none) sampleTarget (some 0)
  flights := Function.update (Function.update (fun _ => none) 0 (some { target := sampleTarget })) 0
    (some { target := sampleTarget, task := .panicked })
  started := 1
  callers := Function.update (Function.update (Function.update (Function.update (fun _ => none)
    0 (some (.arrived sampleTarget))) 0 (some (.waiting 0))) 1 (some (.arrived sampleTarget))) 1
    (some (.waiting 0))

theorem inFlight_panickedState : panickedState.inFlight sampleTarget = some 0 := by
  simp [panickedState]

theorem run_panickedTrace : Run Step {} panickedTrace panickedState := by
  refine .cons (.arrive (c := 0) sampleTarget rfl) (.cons (.start (c := 0) rfl rfl) ?_)
  refine .cons (.panic (f := 0) rfl rfl) (.cons (.arrive (c := 1) sampleTarget rfl) ?_)
  exact .cons (.join (c := 1) (f := 0) rfl inFlight_panickedState) (.nil _)

/-- The task of the flight has ended. The flight is in the map, a later caller waits for it, and the
caller has no step but to be cancelled. -/
theorem panicked_flight_stays :
    Run Step {} panickedTrace panickedState ∧
    (∃ flight, panickedState.flights 0 = some flight ∧ flight.task.HasEnded) ∧
    panickedState.inFlight sampleTarget = some 0 ∧
    panickedState.callers 1 = some (.waiting 0) ∧
    ∀ l s', Step panickedState l s' → s'.callers 1 ≠ panickedState.callers 1 → l = .cancel 1 := by
  refine ⟨run_panickedTrace, ⟨_, rfl, trivial⟩, inFlight_panickedState, rfl,
    fun l s' hstep hleft => ?_⟩
  rcases left_step (c := 1) (f := 0) rfl hstep hleft with ⟨result, hresult, -⟩ | rfl | rfl
  · cases hresult
  · exact absurd hstep (not_closed (shown_of_run run_panickedTrace).sound)
  · rfl

theorem single_flight_panicked :
    (∃ target, panickedState.inFlight target = some 0) ↔ .panic 0 ∈ panickedTrace :=
  (single_flight run_panickedTrace).2.2.2.2.2 0
    { target := sampleTarget, task := .panicked } rfl trivial

end CpaGateway.Catalog.SingleFlight
