import CpaGateway.Grok.BootstrapLoad
import CpaGateway.Grok.Exclusivity
import Mathlib.Data.List.ReduceOption

/-! # Committed quota windows after a restart

A quota synchronisation that is committed has passed the checks of the worker. The checks of a
snapshot at the next start are other ones: an exhausted window must have a reset after the
observation, and an estimated source goes with an estimated confidence. The worker checks neither,
so a committed synchronisation may keep the native runtime from starting (`Restorable`). -/

namespace CpaGateway.Grok.QuotaRestart

open Core.Identity Core.Sse Grok.AccountStore Grok.AccountWorker Grok.BootstrapLoad
open Grok.QuotaBootstrap Router Router.RuntimeQuota Router.RuntimeHealth Lib.Effect Lib.Fallible
open Lib.Grouping Lib.Sharded Lib.Tables RuntimeQuotaTarget GrokAccountQuotaScope

/-! ### What is committed -/

variable {windows : List GrokAccountQuotaWindow} {observedAtMs nextDueAtMs nowMs : ℤ}
  {s s' : GrokAccountPoolStore} {job : GrokAccountWorkerJob} {accountId : String}

def rowsOf (s : GrokAccountPoolStore) (accountId : String) : List PersistedQuotaRow :=
  s.quotaWindows.filter fun row => row.accountId == accountId

theorem completeQuotaJob_rows
    (h : (completeQuotaJob job windows nextDueAtMs observedAtMs).call s = (.ok (), s')) :
    validateQuotaWindows windows = .ok () ∧
      rowsOf s' job.accountId = windows.map (quotaRow job.accountId observedAtMs) := by
  simp only [completeQuotaJob, call_ok, call_transaction_ok] at h
  obtain ⟨_, -, _, hvalid, _, _, hupdate, _, rfl, _, hinsert⟩ := h
  refine ⟨hvalid, ?_⟩
  have hown : ∀ row ∈ windows.map (quotaRow job.accountId observedAtMs),
      (row.accountId == job.accountId) = true := by
    intro row hrow
    obtain ⟨window, -, rfl⟩ := List.mem_map.mp hrow
    exact beq_self_eq_true _
  rw [rowsOf, Claims.insertQuotaWindows_ok hinsert, List.filter_append,
    List.filter_eq_self.mpr hown, List.append_left_eq_self]
  simp

/-! ### What the worker checked -/

/-- One window of a scope. -/
def addLabel (group : Option QuotaGroup) (window : GrokAccountQuotaWindow) :
    Except GrokAccountWorkerError QuotaGroup := do
  let group := group.getD { source := window.source, confidence := window.confidence }
  ensure (group.source = window.source && group.confidence = window.confidence &&
    !group.labels.contains window.label &&
    (window.label :: group.labels).length ≤ maxQuotaWindowsPerTarget) .invalidRequest
  return { group with labels := window.label :: group.labels }

theorem validateQuotaWindow_eq : validateQuotaWindow = addTo (·.scope) addLabel := by
  funext groups window
  simp only [validateQuotaWindow, addTo, addLabel, bind_assoc, pure_bind]

/-- What a group knows of the windows of its scope. -/
def Collected (windows : List GrokAccountQuotaWindow) : Option QuotaGroup → Prop
  | none => windows = []
  | some group => group.labels = (windows.map (·.label)).reverse ∧ group.labels.Nodup ∧
    group.labels.length ≤ maxQuotaWindowsPerTarget ∧
    ∀ window ∈ windows, window.source = group.source ∧ window.confidence = group.confidence

theorem collected_addLabel {group group' : Option QuotaGroup} {window : GrokAccountQuotaWindow}
    (h : Collected windows group) (hadd : addOne addLabel group window = .ok group') :
    Collected (windows ++ [window]) group' := by
  simp only [addOne, addLabel, except_ok, Bool.and_eq_true, decide_eq_true_eq, Bool.not_eq_true',
    List.contains_eq_mem, decide_eq_false_iff_not] at hadd
  obtain ⟨_, ⟨-, ⟨⟨⟨hsource, hconfidence⟩, hlabel⟩, hfew⟩, rfl⟩, rfl⟩ := hadd
  cases group with
  | none =>
    obtain rfl : windows = [] := h
    simp [Collected, maxQuotaWindowsPerTarget]
  | some group =>
    obtain ⟨hlabels, hnodup, -, hsame⟩ := h
    rw [Option.getD_some] at hsource hconfidence hlabel hfew ⊢
    refine ⟨?_, List.nodup_cons.mpr ⟨hlabel, hnodup⟩, hfew, ?_⟩
    · simp [hlabels]
    · intro w hw
      rcases List.mem_append.mp hw with hw | hw
      · exact hsame w hw
      · rw [List.mem_singleton.mp hw]
        exact ⟨hsource.symm, hconfidence.symm⟩

/-- **What the worker checks** of the windows of each scope. -/
theorem of_validateQuotaWindows (h : validateQuotaWindows windows = .ok ())
    (scope : GrokAccountQuotaScope) :
    let own := windows.filter fun window => window.scope = scope
    (own.map (·.label)).Nodup ∧ own.length ≤ maxQuotaWindowsPerTarget ∧
      ∀ w ∈ own, ∀ w' ∈ own, w.source = w'.source ∧ w.confidence = w'.confidence := by
  intro own
  simp only [validateQuotaWindows, except_ok] at h
  obtain ⟨groups, hfold, -⟩ := h
  rw [validateQuotaWindow_eq] at hfold
  have hown : own.foldlM (addOne addLabel) none = .ok (groups.lookup scope) :=
    lookup_of_foldlM_addTo hfold scope
  have hcollected : Collected ([] ++ own) (groups.lookup scope) :=
    foldlM_ok Collected hown [] rfl fun _ _ _ _ hc hadd => collected_addLabel hc hadd
  cases hgroup : groups.lookup scope with
  | none =>
    rw [hgroup] at hcollected
    rw [show own = [] from hcollected]
    simp
  | some group =>
    rw [hgroup] at hcollected
    obtain ⟨hlabels, hnodup, hfew, hsame⟩ := hcollected
    rw [hlabels] at hnodup hfew
    refine ⟨List.nodup_reverse.mp hnodup, by simpa using hfew, fun w hw w' hw' => ?_⟩
    exact ⟨(hsame w hw).1.trans (hsame w' hw').1.symm, (hsame w hw).2.trans (hsame w' hw').2.symm⟩

/-! ### Committed rows at the next start -/

variable {credentialId : CredentialId} {endpointId : EndpointId}

section Rows

variable {window : GrokAccountQuotaWindow} {b : Bindings}

/-- The source of a snapshot. -/
def runtimeSource : GrokAccountQuotaSource → QuotaSource
  | .billing => .billing
  | .rest => .rest
  | .grpc => .grpc
  | .estimated => .estimated

/-- The confidence of a snapshot. -/
def runtimeConfidence : GrokAccountQuotaConfidence → QuotaConfidence
  | .authoritative => .authoritative
  | .observed => .observed
  | .estimated => .estimated

theorem ne_empty_of_trim {text : String} (h : (trim text != "") = true) : text ≠ "" := by
  rintro rfl
  exact absurd h (by decide)

theorem valid_parts (window : GrokAccountQuotaWindow) :
    window.scope.isValid = true ∧ window.label ≠ "" ∧
      window.label.utf8ByteSize ≤ maxQuotaWindowLabelBytes ∧
      withinLimit window.limit window.remaining = true := by
  have hvalid := window.valid
  simp only [validQuotaWindow, Bool.and_eq_true] at hvalid
  obtain ⟨⟨⟨⟨⟨⟨hscope, hlabel⟩, hshort⟩, -⟩, -⟩, hwithin⟩, -⟩ := hvalid
  exact ⟨hscope, ne_empty_of_trim hlabel, of_decide_eq_true hshort, hwithin⟩

/-- The window of a snapshot. -/
def runtimeWindow (window : GrokAccountQuotaWindow) : QuotaWindow :=
  ⟨window.label, window.limit, window.remaining, window.resetAtMs, (valid_parts window).2.1,
    (valid_parts window).2.2.1, (valid_parts window).2.2.2⟩

def scopeTarget (endpointId : EndpointId) (credentialId : CredentialId) :
    GrokAccountQuotaScope → Option RuntimeQuotaTarget
  | .account => some (.endpointCredential endpointId credentialId)
  | .model label =>
    (tryEndpointCredentialModel endpointId credentialId label).toOption

variable {target : RuntimeQuotaTarget}

theorem scopeTarget_injective {scope scope' : GrokAccountQuotaScope}
    (h : scopeTarget endpointId credentialId scope = some target)
    (h' : scopeTarget endpointId credentialId scope' = some target) : scope = scope' := by
  cases scope <;> cases scope' <;>
    simp only [scopeTarget, tryEndpointCredentialModel] at h h' <;>
    (try split_ifs at h) <;> (try split_ifs at h') <;> cases h <;> cases h' <;> rfl

theorem scopeTarget_window (accountId : String) (observedAtMs : ℤ) (window : GrokAccountQuotaWindow)
    (endpointId : EndpointId) (credentialId : CredentialId) :
    ∃ target, scopeTarget endpointId credentialId window.scope = some target ∧
      rowTarget endpointId credentialId (quotaRow accountId observedAtMs window) = .ok target := by
  have hscope := (valid_parts window).1
  cases hw : window.scope with
  | account => exact ⟨_, rfl, by simp [rowTarget, quotaRow, hw, columns]⟩
  | model label =>
    rw [hw, isValid, Bool.and_eq_true] at hscope
    have hne := ne_empty_of_trim hscope.1
    refine ⟨.endpointCredentialModel endpointId credentialId label hne, ?_, ?_⟩
    · simp [scopeTarget, tryEndpointCredentialModel, hne, Except.toOption]
    · simp [rowTarget, quotaRow, hw, columns, hne, tryEndpointCredentialModel]

theorem optionalI64ToU64_natCast (value : Option ℕ) :
    optionalI64ToU64 (value.map (↑)) = .ok value := by
  cases value <;> simp [optionalI64ToU64]

theorem parsed_quotaRow (hbinding : b accountId = some (endpointId, credentialId))
    (htarget : scopeTarget endpointId credentialId window.scope = some target) :
    parseRow b (quotaRow accountId observedAtMs window) =
      .ok (some ⟨target,
        ⟨runtimeSource window.source, runtimeConfidence window.confidence, observedAtMs⟩,
        runtimeWindow window⟩) := by
  obtain ⟨target', htarget', hrow⟩ :=
    scopeTarget_window accountId observedAtMs window endpointId credentialId
  cases htarget'.symm.trans htarget
  obtain ⟨-, hlabel, hshort, hwithin⟩ := valid_parts window
  have hsource : parseQuotaSource window.source.asStr = .ok (runtimeSource window.source) := by
    cases window.source <;> rfl
  have hconfidence : parseQuotaConfidence window.confidence.asStr =
      .ok (runtimeConfidence window.confidence) := by
    cases window.confidence <;> rfl
  have hwindow : QuotaWindow.tryNew window.label window.limit window.remaining window.resetAtMs =
      .ok (runtimeWindow window) := by
    rw [QuotaWindow.tryNew, dif_neg hlabel, dif_neg (Nat.not_lt.mpr hshort), dif_pos hwithin]
    rfl
  rw [parseRow, show (quotaRow accountId observedAtMs window).accountId =
    accountId from rfl, hbinding]
  simp only [hrow]
  simp only [quotaRow, hsource, hconfidence, optionalI64ToU64_natCast, hwindow, ok_bind]
  rfl

/-- Every exhausted window is reset after the observation, and an estimated source goes with an
estimated confidence. -/
def Restorable (windows : List GrokAccountQuotaWindow) (observedAtMs : ℤ) : Prop :=
  ∀ window ∈ windows,
    (window.remaining = some 0 →
      ∃ resetAtMs, window.resetAtMs = some resetAtMs ∧ observedAtMs < resetAtMs) ∧
    (window.source = .estimated ↔ window.confidence = .estimated)

theorem hasFutureReset_runtimeWindow :
    hasFutureReset observedAtMs (runtimeWindow window) = true ↔
      (window.remaining = some 0 →
        ∃ resetAtMs, window.resetAtMs = some resetAtMs ∧ observedAtMs < resetAtMs) := by
  simp only [hasFutureReset, QuotaWindow.isExhausted, runtimeWindow]
  by_cases hremaining : window.remaining = some 0
  · cases window.resetAtMs <;> simp [hremaining]
  · simp [hremaining]

theorem estimated_runtime :
    (runtimeSource window.source = .estimated ↔ runtimeConfidence window.confidence = .estimated) ↔
      (window.source = .estimated ↔ window.confidence = .estimated) := by
  cases window.source <;> cases window.confidence <;> simp [runtimeSource, runtimeConfidence]

def committedRow (observedAtMs : ℤ) (target : RuntimeQuotaTarget)
    (window : GrokAccountQuotaWindow) : ParsedRow :=
  ⟨target, ⟨runtimeSource window.source, runtimeConfidence window.confidence, observedAtMs⟩,
    runtimeWindow window⟩

theorem parsedAt_committed (hbinding : b accountId = some (endpointId, credentialId))
    (target : RuntimeQuotaTarget) :
    parsedAt b (windows.map (quotaRow accountId observedAtMs)) target =
      (windows.filter fun window => scopeTarget endpointId credentialId window.scope =
        some target).map
        (committedRow observedAtMs target) := by
  induction windows with
  | nil => rfl
  | cons window windows ih =>
    obtain ⟨target', htarget', -⟩ :=
      scopeTarget_window accountId observedAtMs window endpointId credentialId
    have hparsed : parsed b (quotaRow accountId observedAtMs window) =
        some (committedRow observedAtMs target' window) := by
      rw [parsed, parsed_quotaRow hbinding htarget']
      rfl
    simp only [parsedAt, List.map_cons, List.filterMap_cons_some hparsed] at ih ⊢
    by_cases heq : target' = target
    · subst heq
      simp [-List.filterMap_map, committedRow, htarget', ih]
    · simp [-List.filterMap_map, committedRow, htarget', heq, ih]

/-- **The committed rows of an account** can be loaded iff the windows are restorable. -/
theorem load_committed_iff (hvalid : validateQuotaWindows windows = .ok ())
    (hbinding : b accountId = some (endpointId, credentialId)) :
    (∃ snapshots, loadQuotaBootstrap (windows.map (quotaRow accountId observedAtMs)) b =
      .ok snapshots) ↔
      Restorable windows observedAtMs := by
  have hreadable : Readable b (windows.map (quotaRow accountId observedAtMs)) := by
    intro row hrow
    obtain ⟨window, -, rfl⟩ := List.mem_map.mp hrow
    obtain ⟨target, htarget, -⟩ :=
      scopeTarget_window accountId observedAtMs window endpointId credentialId
    exact ⟨_, parsed_quotaRow hbinding htarget⟩
  simp only [load_ok_iff, hreadable, true_and, parsedAt_committed hbinding]
  constructor
  · intro hfits window hwindow
    obtain ⟨target, htarget, -⟩ :=
      scopeTarget_window accountId observedAtMs window endpointId credentialId
    have hmem : committedRow observedAtMs target window ∈ (windows.filter fun window =>
        scopeTarget endpointId credentialId window.scope = some target).map
          (committedRow observedAtMs target) :=
      List.mem_map_of_mem (List.mem_filter.mpr ⟨hwindow, decide_eq_true htarget⟩)
    exact ⟨hasFutureReset_runtimeWindow.mp ((hfits target).reset _ hmem),
      estimated_runtime.mp ((hfits target).estimated _ hmem)⟩
  · intro hrestorable target
    cases hown : windows.filter fun window =>
        scopeTarget endpointId credentialId window.scope = some target with
    | nil => exact fits_nil
    | cons first rest =>
      -- the windows of the target are those of one scope
      have hfirst : scopeTarget endpointId credentialId first.scope = some target := by
        have hmem : first ∈ first :: rest := .head _
        rw [← hown] at hmem
        exact of_decide_eq_true (List.mem_filter.mp hmem).2
      have hscope : (first :: rest) = windows.filter fun window => window.scope = first.scope := by
        rw [← hown]
        refine List.filter_congr fun window _ => decide_eq_decide.mpr ⟨fun h => ?_, fun h => ?_⟩
        · exact scopeTarget_injective h hfirst
        · rw [h, hfirst]
      obtain ⟨hlabels, hfew, hsame⟩ := of_validateQuotaWindows hvalid first.scope
      rw [← hscope] at hlabels hfew hsame
      have hmem : ∀ p ∈ (first :: rest).map (committedRow observedAtMs target),
          ∃ window ∈ first :: rest, p = committedRow observedAtMs target window := by
        intro p hp
        obtain ⟨window, hwindow, rfl⟩ := List.mem_map.mp hp
        exact ⟨window, hwindow, rfl⟩
      have hin : ∀ window ∈ first :: rest, window ∈ windows := by
        intro window hwindow
        rw [hscope] at hwindow
        exact (List.mem_filter.mp hwindow).1
      refine ⟨?_, by rw [List.length_map]; exact hfew, by rw [List.map_map]; exact hlabels, ?_, ?_⟩
      · intro p hp q hq
        obtain ⟨w, hw, rfl⟩ := hmem p hp
        obtain ⟨w', hw', rfl⟩ := hmem q hq
        simp [committedRow, (hsame w hw w' hw').1, (hsame w hw w' hw').2]
      · intro p hp
        obtain ⟨w, hw, rfl⟩ := hmem p hp
        exact hasFutureReset_runtimeWindow.mpr (hrestorable w (hin w hw)).1
      · intro p hp
        obtain ⟨w, hw, rfl⟩ := hmem p hp
        exact estimated_runtime.mpr (hrestorable w (hin w hw)).2

end Rows

/-! ### The compilation -/

variable {bindings : List GrokAccountEndpointBinding} {services : Services}

section Compile

variable {ι π : Type} {builder : PoolBuilder ι π} {accounts : List (BoundAccount ι)}
  {compilation : GrokNativeAccountPoolCompilation ι π}

theorem compileNativeRuntime_ok :
    compileNativeRuntime services builder bindings nowMs s = .ok compilation ↔
      compileAccounts services builder bindings nowMs s = .ok compilation.accounts ∧
        loadQuotaBootstrap s.quotaWindows (bindingsOf compilation.accounts) =
          .ok compilation.quotaBootstrap ∧
        builder.build (compilation.accounts.map fun account =>
          (account.endpointId, account.input)) =
          .ok compilation.credentialPools := by
  simp only [compileNativeRuntime, except_ok]
  constructor
  · rintro ⟨accounts, haccounts, snapshots, hsnapshots, pools, hpools, rfl⟩
    exact ⟨haccounts, hsnapshots, hpools⟩
  · rintro ⟨haccounts, hsnapshots, hpools⟩
    exact ⟨_, haccounts, _, hsnapshots, _, hpools, rfl⟩

theorem credentialId_of_compileAccount {entry : String × AccountRow} {account : BoundAccount ι}
    (h : compileAccount services builder bindings nowMs entry = .ok (some account)) :
    account.credentialId.asStr = account.accountId := by
  simp only [compileAccount] at h
  split_ifs at h
  · cases h
  · split at h
    · cases h
    · simp only [except_ok, Option.some.injEq] at h
      obtain ⟨_, -, _, -, _, -, credentialId, hcredential, _, -, rfl⟩ := h
      rw [Identifier.tryNew] at hcredential
      split_ifs at hcredential
      cases hcredential
      rfl

theorem named_bindingsOf (h : compileAccounts services builder bindings nowMs s = .ok accounts) :
    Named (bindingsOf accounts) := by
  intro accountId endpointId credentialId hbinding
  simp only [compileAccounts, except_ok] at h
  obtain ⟨_, -, _, -, found, hfound, rfl⟩ := h
  obtain ⟨account, hfind, heq⟩ := Option.map_eq_some_iff.mp hbinding
  obtain ⟨rfl, rfl⟩ := Prod.mk.inj heq
  obtain ⟨entry, -, hentry⟩ := mem_left_of_mapM_ok hfound
    (List.reduceOption_mem_iff.mp (List.mem_of_find?_eq_some hfind))
  rw [credentialId_of_compileAccount hentry]
  simpa using List.find?_some hfind

def withoutQuota (s : GrokAccountPoolStore) (accountId : String) : GrokAccountPoolStore :=
  { s with quotaWindows := s.quotaWindows.filter fun row => row.accountId != accountId }

/-- Without the windows of an account the runtime starts: with them it does iff they can be loaded.
-/
theorem compile_iff {rest : GrokNativeAccountPoolCompilation ι π}
    (hrest : compileNativeRuntime services builder bindings nowMs (withoutQuota s accountId) =
      .ok rest) :
    (∃ compilation, compileNativeRuntime services builder bindings nowMs s = .ok compilation) ↔
      ∃ snapshots, loadQuotaBootstrap (rowsOf s accountId) (bindingsOf rest.accounts) =
        .ok snapshots := by
  obtain ⟨haccounts, hothers, hpools⟩ := compileNativeRuntime_ok.mp hrest
  have hnamed := named_bindingsOf haccounts
  constructor
  · rintro ⟨compilation, h⟩
    obtain ⟨haccounts', hload, -⟩ := compileNativeRuntime_ok.mp h
    rw [Except.ok.inj (haccounts'.symm.trans haccounts)] at hload
    exact ((load_split hnamed accountId).mp ⟨_, hload⟩).2
  · intro hown
    obtain ⟨snapshots, hload⟩ := (load_split hnamed accountId).mpr ⟨⟨_, hothers⟩, hown⟩
    exact ⟨⟨rest.credentialPools, rest.accounts, snapshots⟩,
      compileNativeRuntime_ok.mpr ⟨haccounts, hload, hpools⟩⟩

end Compile

/-! ### Seeding -/

section Seeding

variable {hash : RuntimeQuotaTarget → ℕ} {shardCount : ℕ} {done rest : List QuotaSnapshot}
  {r : RuntimeQuotaRegistry} {clock : ℕ → Reading}

def shardOf (hash : RuntimeQuotaTarget → ℕ) (shardCount : ℕ) (snapshots : List QuotaSnapshot)
    (target : RuntimeQuotaTarget) : List QuotaSnapshot :=
  snapshots.filter fun snapshot =>
    maskedIndex hash shardCount snapshot.target = maskedIndex hash shardCount target

/-- The registry has these snapshots and nothing else. -/
structure Seeded (hash : RuntimeQuotaTarget → ℕ) (shardCount : ℕ) (snapshots : List QuotaSnapshot)
    (r : RuntimeQuotaRegistry) : Prop where
  index : r.states.index = maskedIndex hash shardCount
  entries : ∀ target, r.entry target =
    (snapshots.find? (·.target = target)).map fun snapshot => ⟨snapshot, none⟩
  counts : ∀ target, r.states.count target = (shardOf hash shardCount snapshots target).length

theorem seeded_recordSnapshot (hr : Seeded hash shardCount done r) {snapshot : QuotaSnapshot}
    (hnew : snapshot.target ∉ done.map (·.target))
    (hroom : (shardOf hash shardCount done snapshot.target).length < maxRuntimeQuotaEntriesPerShard)
    {reading : Reading} {now : ℤ} (hclock : reading = .ok now) :
    ∃ r', (recordSnapshot snapshot reading).call r = (.ok snapshot, r') ∧
      Seeded hash shardCount (done ++ [snapshot]) r' := by
  have hfind : done.find? (·.target = snapshot.target) = none := by
    rw [List.find?_eq_none]
    intro other hother htarget
    exact hnew (List.mem_map.mpr ⟨other, hother, of_decide_eq_true htarget⟩)
  have hentry : r.entry snapshot.target = none := by rw [hr.entries, hfind]; rfl
  refine ⟨{ r with states := r.states.insert snapshot.target ⟨snapshot, none⟩ }, ?_, ?_⟩
  · have hreserve : (RuntimeQuota.ensureInsertCapacity snapshot.target now).call r =
        (.ok (), r) := by
      rw [RuntimeQuota.ensureInsertCapacity, Method.onPart, call_of, call_reserve, hr.counts,
        if_pos hroom]
      rfl
    have hnow : Except.mapError RuntimeQuotaError.clock (Except.ok now) = .ok now := rfl
    simp [-bind_pure_comp, recordSnapshot, RuntimeQuota.nowMs, hclock, hnow, hentry, hreserve,
      RuntimeQuota.insertState, call_eq]
  · refine ⟨hr.index, fun target => ?_, fun target => ?_⟩
    · have hinsert : RuntimeQuotaRegistry.entry
          { r with states := r.states.insert snapshot.target ⟨snapshot, none⟩ } target =
            if target = snapshot.target then some ⟨snapshot, none⟩ else r.entry target :=
        Store.get?_insert ..
      rw [hinsert, hr.entries, List.find?_append]
      by_cases htarget : target = snapshot.target
      · simp [htarget, hfind]
      · simp [htarget, Ne.symm htarget]
    · rw [Store.count_insert_of_none _ _ _ _ hentry, hr.counts, hr.index, shardOf, shardOf,
        List.filter_append]
      by_cases hindex : maskedIndex hash shardCount target =
        maskedIndex hash shardCount snapshot.target
      · simp [hindex]
      · simp [hindex, Ne.symm hindex]

/-- **Seeding** stores all snapshots when there is room for them. -/
theorem seeded_seedSnapshots (hclock : ∀ i, ∃ now, clock i = .ok now) {i : ℕ}
    (hr : Seeded hash shardCount done r) (htargets : ((done ++ rest).map (·.target)).Nodup)
    (hroom : ∀ target,
      (shardOf hash shardCount (done ++ rest) target).length ≤ maxRuntimeQuotaEntriesPerShard) :
    ∃ r', (seedSnapshots clock i rest).call r = (.ok (), r') ∧
      Seeded hash shardCount (done ++ rest) r' := by
  induction rest generalizing done r i with
  | nil => exact ⟨r, rfl, by simpa using hr⟩
  | cons snapshot rest ih =>
    obtain ⟨now, hnow⟩ := hclock i
    have hsplit : done ++ snapshot :: rest = (done ++ [snapshot]) ++ rest := by simp
    have hnew : snapshot.target ∉ done.map (·.target) := by
      rw [List.map_append, List.nodup_append] at htargets
      intro hmem
      exact htargets.2.2 _ hmem _ (List.mem_cons_self ..) rfl
    have hfits : (shardOf hash shardCount done snapshot.target).length <
        maxRuntimeQuotaEntriesPerShard := by
      refine lt_of_lt_of_le ?_ (hroom snapshot.target)
      rw [shardOf, shardOf, List.filter_append, List.length_append, List.filter_cons,
        if_pos (by simp), List.length_cons]
      omega
    obtain ⟨r₁, hrecord, hr₁⟩ := seeded_recordSnapshot hr hnew hfits hnow
    rw [hsplit] at htargets hroom ⊢
    obtain ⟨r', hrest, hr'⟩ := ih hr₁ htargets hroom (i := i + 1)
    refine ⟨r', ?_, hr'⟩
    rw [seedSnapshots, call_bind_ok]
    exact ⟨_, _, hrecord, hrest⟩

end Seeding

/-! ### The restart -/

section Restart

variable {ι π : Type} {builder : PoolBuilder ι π} {t : GrokAccountPoolStore}
  {rest : GrokNativeAccountPoolCompilation ι π}

/-- No shard has more targets with stored windows than it can keep. -/
def HasRoom (hash : RuntimeQuotaTarget → ℕ) (shardCount : ℕ) (b : Bindings)
    (rows : List PersistedQuotaRow) : Prop :=
  ∀ targets : List RuntimeQuotaTarget, targets.Nodup →
    (∀ target ∈ targets, parsedAt b rows target ≠ []) →
    ∀ target, (targets.filter fun target' =>
      maskedIndex hash shardCount target' = maskedIndex hash shardCount target).length ≤
        maxRuntimeQuotaEntriesPerShard

def windowsAt (endpointId : EndpointId) (credentialId : CredentialId)
    (windows : List GrokAccountQuotaWindow) (target : RuntimeQuotaTarget) :
    List GrokAccountQuotaWindow :=
  windows.filter fun window => scopeTarget endpointId credentialId window.scope = some target

/-- The registry has the windows of a target as they were committed. -/
structure Restored (registry : RuntimeQuotaRegistry) (target : RuntimeQuotaTarget)
    (own : List GrokAccountQuotaWindow) (observedAtMs : ℤ) : Prop where
  absent : own = [] → registry.entry target = none
  present : own ≠ [] → ∃ snapshot, registry.entry target = some ⟨snapshot, none⟩ ∧
    snapshot.target = target ∧ snapshot.windows.Perm (own.map runtimeWindow) ∧
    snapshot.observedAtMs = observedAtMs ∧
    ∀ window ∈ own, snapshot.source = runtimeSource window.source ∧
      snapshot.confidence = runtimeConfidence window.confidence

theorem restored_of_seeded {b : Bindings} {rows : List PersistedQuotaRow}
    {target : RuntimeQuotaTarget} {snapshots : List QuotaSnapshot} {hash : RuntimeQuotaTarget → ℕ}
    {shardCount : ℕ} {registry : RuntimeQuotaRegistry} (hnamed : Named b)
    (hload : loadQuotaBootstrap rows b = .ok snapshots)
    (hseeded : Seeded hash shardCount snapshots registry)
    (hrows : rows.filter (fun row => row.accountId == accountId) =
      windows.map (quotaRow accountId observedAtMs))
    (hbound : b accountId = some (endpointId, credentialId))
    (htarget : targetAccount target = accountId) :
    Restored registry target (windowsAt endpointId credentialId windows target) observedAtMs := by
  obtain ⟨htells, hexists, -⟩ := of_load hload
  have hown : parsedAt b rows target = (windowsAt endpointId credentialId windows target).map
      (committedRow observedAtMs target) := by
    rw [← parsedAt_filter hnamed target (· == accountId) (beq_iff_eq.mpr htarget), hrows,
      parsedAt_committed hbound, windowsAt]
  refine ⟨fun hnil => ?_, fun hne => ?_⟩
  · have hfind : snapshots.find? (·.target = target) = none := by
      rw [List.find?_eq_none]
      intro snapshot hmem heq
      have hsome := (htells snapshot hmem).1
      rw [of_decide_eq_true heq, hown, hnil] at hsome
      exact hsome rfl
    rw [hseeded.entries, hfind]
    rfl
  · obtain ⟨found, hmem, hfound⟩ := hexists target (by rw [hown]; simpa using hne)
    obtain ⟨snapshot, hfind⟩ : ∃ snapshot, snapshots.find? (·.target = target) = some snapshot :=
      Option.isSome_iff_exists.mp (List.find?_isSome.mpr ⟨found, hmem, decide_eq_true hfound⟩)
    have hsnapshot : snapshot.target = target := by simpa using List.find?_some hfind
    have htell := (htells snapshot (List.mem_of_find?_eq_some hfind)).2
    rw [hsnapshot, hown] at htell
    have hevidence : ∀ window ∈ windowsAt endpointId credentialId windows target,
        (⟨runtimeSource window.source, runtimeConfidence window.confidence, observedAtMs⟩ :
          Evidence) =
          ⟨snapshot.source, snapshot.confidence, snapshot.observedAtMs⟩ := fun window hwindow =>
      htell.evidence _ (List.mem_map_of_mem hwindow)
    obtain ⟨window, hwindow⟩ := List.exists_mem_of_ne_nil _ hne
    refine ⟨snapshot, by rw [hseeded.entries, hfind]; rfl, hsnapshot, ?_, ?_, fun w hw => ?_⟩
    · have hperm := htell.windows
      rwa [List.map_map] at hperm
    · exact (congrArg Evidence.observedAtMs (hevidence window hwindow)).symm
    · exact ⟨(congrArg Evidence.source (hevidence w hw)).symm,
        (congrArg Evidence.confidence (hevidence w hw)).symm⟩

/-- **A committed synchronisation after a restart.** Where the native runtime would start without
the windows of the account, it starts with them iff they are restorable; seeding a registry with
room for all windows then restores them. -/
theorem committed_quota_survives
    (hcommit : (completeQuotaJob job windows nextDueAtMs observedAtMs).call s = (.ok (), s'))
    (hlater : rowsOf t job.accountId = rowsOf s' job.accountId)
    (hrest : compileNativeRuntime services builder bindings nowMs (withoutQuota t job.accountId) =
      .ok rest)
    (hbound : bindingsOf rest.accounts job.accountId = some (endpointId, credentialId)) :
    ((∃ compilation, compileNativeRuntime services builder bindings nowMs t = .ok compilation) ↔
      Restorable windows observedAtMs) ∧
    ∀ compilation, compileNativeRuntime services builder bindings nowMs t = .ok compilation →
      ∀ hash shardCount, HasRoom hash shardCount (bindingsOf rest.accounts) t.quotaWindows →
      ∀ clock, (∀ i, ∃ now, clock i = .ok now) →
      ∃ registry, (seedRuntimeQuota compilation clock).call (withShards hash shardCount) =
          (.ok (), registry) ∧
        ∀ target, targetAccount target = job.accountId →
          Restored registry target (windowsAt endpointId credentialId windows target)
            observedAtMs := by
  obtain ⟨hvalid, hrows⟩ := completeQuotaJob_rows hcommit
  rw [← hlater] at hrows
  refine ⟨?_, fun compilation hcompile hash shardCount hroom clock hclock => ?_⟩
  · rw [compile_iff hrest, hrows, load_committed_iff hvalid hbound]
  · obtain ⟨haccounts, hload, -⟩ := compileNativeRuntime_ok.mp hcompile
    have hsame : compilation.accounts = rest.accounts :=
      Except.ok.inj (haccounts.symm.trans (compileNativeRuntime_ok.mp hrest).1)
    rw [hsame] at hload haccounts
    obtain ⟨htells, -, hnodup⟩ := of_load hload
    have hfits : ∀ target,
        (shardOf hash shardCount ([] ++ compilation.quotaBootstrap) target).length ≤
        maxRuntimeQuotaEntriesPerShard := by
      intro target
      have hlength := hroom (compilation.quotaBootstrap.map (·.target)) hnodup
        (fun target' hmem => by
        obtain ⟨snapshot, hsnapshot, rfl⟩ := List.mem_map.mp hmem
        exact (htells snapshot hsnapshot).1) target
      rwa [List.filter_map, List.length_map] at hlength
    have hempty : Seeded hash shardCount [] (withShards hash shardCount) :=
      ⟨rfl, fun _ => rfl, fun _ => rfl⟩
    obtain ⟨registry, hseed, hseeded⟩ :=
      seeded_seedSnapshots hclock hempty (by simpa using hnodup) hfits (i := 0)
    refine ⟨registry, hseed, fun target htarget => ?_⟩
    exact restored_of_seeded (named_bindingsOf haccounts) hload hseeded hrows hbound htarget

end Restart

section Sample

open Grok.Claims Grok.Exclusivity

/-- A window that is used up, with no time of its reset. -/
def sampleExhausted : GrokAccountQuotaWindow :=
  ⟨.account, "daily", some 5, some 0, none, .billing, .authoritative, by decide⟩

/-- A window that is used up and reset later. -/
def sampleResetting : GrokAccountQuotaWindow :=
  ⟨.account, "daily", some 5, some 0, some 50, .billing, .authoritative, by decide⟩

def sampleQuotaJob : GrokAccountWorkerJob := { sampleJob ⟨7⟩ with kind := .quota }

/-- A store whose account is claimed for a synchronisation. -/
def sampleQuotaStore : GrokAccountPoolStore :=
  setAccount sampleStore "account" { sampleRow with claim := some ⟨.quota, ⟨7⟩, 1000⟩ }

/-- The store after the synchronisation was committed. -/
def sampleSynced (window : GrokAccountQuotaWindow) : GrokAccountPoolStore :=
  { sampleQuotaStore with
    accounts := AList.singleton "account"
      { sampleRow with
        quotaSyncDueAtMs := some 2000, lastQuotaSyncAtMs := some 10, updatedAtMs := 10 }
    quotaWindows := [quotaRow "account" 10 window] }

def sampleBuilder : PoolBuilder Unit Unit := ⟨fun _ _ _ _ => .ok (), fun _ => .ok ()⟩

def sampleEndpoint : EndpointId := .lit "endpoint"

def sampleCredential : CredentialId := .lit "account"

def sampleBound : BoundAccount Unit := ⟨"account", sampleEndpoint, sampleCredential, ()⟩

theorem compile_sampleRest (window : GrokAccountQuotaWindow) :
    compileNativeRuntime sampleServices sampleBuilder [⟨.build, sampleEndpoint⟩] 20
      (withoutQuota (sampleSynced window) "account") = .ok ⟨(), [sampleBound], []⟩ := by
  have haccounts : compileAccounts sampleServices sampleBuilder [⟨.build, sampleEndpoint⟩] 20
      (withoutQuota (sampleSynced window) "account") = .ok [sampleBound] := by
    simp only [compileAccounts, runtimeRows]
    rw [show (withoutQuota (sampleSynced window) "account").accounts.rows =
      [("account", { sampleRow with
      quotaSyncDueAtMs := some 2000, lastQuotaSyncAtMs := some 10, updatedAtMs := 10 })] from rfl,
      List.mergeSort_singleton]
    rfl
  have hquota : (withoutQuota (sampleSynced window) "account").quotaWindows = [] := rfl
  refine compileNativeRuntime_ok.mpr ⟨haccounts, ?_, rfl⟩
  rw [hquota, loadQuotaBootstrap, List.mergeSort_nil, List.foldlM_nil, pure_bind,
    show (∅ : Table RuntimeQuotaTarget QuotaBootstrapGroup).rows = [] from rfl, List.mergeSort_nil]
  rfl

theorem call_sampleCommit (window : GrokAccountQuotaWindow)
    (hwindow : window = sampleExhausted ∨ window = sampleResetting) :
    (completeQuotaJob sampleQuotaJob [window] 2000 10).call sampleQuotaStore =
      (.ok (), sampleSynced window) := by
  rcases hwindow with rfl | rfl
  · rfl
  · rfl

/-- A committed window that is used up and has no reset keeps the runtime from starting. -/
theorem exhausted_quota_blocks_restart :
    (completeQuotaJob sampleQuotaJob [sampleExhausted] 2000 10).call sampleQuotaStore =
      (.ok (), sampleSynced sampleExhausted) ∧
    (∃ rest, compileNativeRuntime sampleServices sampleBuilder [⟨.build, sampleEndpoint⟩] 20
      (withoutQuota (sampleSynced sampleExhausted) "account") = .ok rest ∧
        bindingsOf rest.accounts "account" = some (sampleEndpoint, sampleCredential)) ∧
    ¬ ∃ compilation, compileNativeRuntime sampleServices sampleBuilder [⟨.build, sampleEndpoint⟩] 20
      (sampleSynced sampleExhausted) = .ok compilation := by
  have hcommit := call_sampleCommit _ (.inl rfl)
  refine ⟨hcommit, ⟨_, compile_sampleRest _, rfl⟩, ?_⟩
  obtain ⟨hvalid, -⟩ := completeQuotaJob_rows hcommit
  have hrows : rowsOf (sampleSynced sampleExhausted) "account" =
      [sampleExhausted].map (quotaRow "account" 10) := rfl
  rw [compile_iff (compile_sampleRest _), hrows, load_committed_iff hvalid rfl]
  intro h
  obtain ⟨resetAtMs, hreset, -⟩ := (h _ (.head _)).1 rfl
  cases hreset

/-- With a reset after the observation it starts. -/
theorem committed_quota_survives_sample :
    ∃ compilation, compileNativeRuntime sampleServices sampleBuilder [⟨.build, sampleEndpoint⟩] 20
      (sampleSynced sampleResetting) = .ok compilation := by
  refine (committed_quota_survives (call_sampleCommit _ (.inr rfl)) rfl (compile_sampleRest _)
    rfl).1.mpr ?_
  intro window hwindow
  obtain rfl := List.mem_singleton.mp hwindow
  exact ⟨fun _ => ⟨50, rfl, by decide⟩, by decide⟩

end Sample

end CpaGateway.Grok.QuotaRestart
