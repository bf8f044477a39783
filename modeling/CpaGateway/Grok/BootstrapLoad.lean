import CpaGateway.Grok.QuotaBootstrap
import CpaGateway.Lib.Grouping

/-! # What the stored quota windows become

The rows are read in the order of their key and grouped by their target, but nothing depends on the
order: the rows of a target become a snapshot iff they fit together (`Fits`), and one target that
does not fit fails all. -/

namespace CpaGateway.Grok.BootstrapLoad

open Grok.AccountStore Grok.QuotaBootstrap Router.RuntimeQuota Lib.Fallible
open Lib.Grouping Lib.Tables Table

/-! ### The rows of a target -/

section Targets

variable {ts ts' : List ParsedRow} {target : RuntimeQuotaTarget} {p : ParsedRow}

def groupOf : List ParsedRow → Option QuotaBootstrapGroup
  | [] => none
  | p :: ts => some ⟨p.evidence, (p :: ts).map (·.window)⟩

theorem addWindow_ok_iff {group : Option QuotaBootstrapGroup} {added : QuotaBootstrapGroup} :
    addWindow group p = .ok added ↔ (group.getD ⟨p.evidence, []⟩).evidence = p.evidence ∧
      ⟨p.evidence, (group.getD ⟨p.evidence, []⟩).windows ++ [p.window]⟩ = added := by
  simp only [addWindow, except_ok, decide_eq_true_eq]
  constructor
  · rintro ⟨-, hevidence, rfl⟩
    exact ⟨hevidence, by rw [hevidence]⟩
  · rintro ⟨hevidence, rfl⟩
    exact ⟨(), hevidence, by rw [hevidence]⟩

variable {o : Option QuotaBootstrapGroup} {group : QuotaBootstrapGroup} {snapshot : QuotaSnapshot}

theorem foldlM_addWindow_some :
    ts.foldlM (addOne addWindow) (some group) = .ok o ↔ (∀ p ∈ ts, p.evidence = group.evidence) ∧
      o = some ⟨group.evidence, group.windows ++ ts.map (·.window)⟩ := by
  induction ts generalizing group with
  | nil => simp [pure, Except.pure, eq_comm]
  | cons p ts ih =>
    rw [List.foldlM_cons]
    simp only [addOne, except_ok, addWindow_ok_iff, Option.getD_some, List.forall_mem_cons]
    constructor
    · rintro ⟨_, ⟨_, ⟨hevidence, rfl⟩, rfl⟩, hrest⟩
      obtain ⟨hall, rfl⟩ := ih.mp hrest
      exact ⟨⟨hevidence.symm, fun q hq => (hall q hq).trans hevidence.symm⟩, by simp [hevidence]⟩
    · rintro ⟨⟨hevidence, hall⟩, rfl⟩
      refine ⟨_, ⟨_, ⟨hevidence.symm, rfl⟩, rfl⟩, ih.mpr ⟨fun q hq => ?_, ?_⟩⟩
      · rw [hall q hq, hevidence]
      · simp [hevidence]

theorem foldlM_addWindow_none :
    ts.foldlM (addOne addWindow) none = .ok o ↔
      (∀ p ∈ ts, ∀ q ∈ ts, p.evidence = q.evidence) ∧ o = groupOf ts := by
  cases ts with
  | nil => simp [groupOf, pure, Except.pure, eq_comm]
  | cons p ts =>
    have hfirst : addOne addWindow none p = .ok (some ⟨p.evidence, [p.window]⟩) := by
      simp only [addOne, except_ok, addWindow_ok_iff]
      exact ⟨_, ⟨rfl, rfl⟩, rfl⟩
    rw [List.foldlM_cons, hfirst, ok_bind, foldlM_addWindow_some]
    constructor
    · rintro ⟨hall, rfl⟩
      have hevidence : ∀ q ∈ p :: ts, q.evidence = p.evidence := by
        simpa using hall
      exact ⟨fun q hq r hr => (hevidence q hq).trans (hevidence r hr).symm, rfl⟩
    · rintro ⟨hall, rfl⟩
      exact ⟨fun q hq => hall q (.tail _ hq) p (.head _), rfl⟩

/-- The rows of a target fit into one snapshot. -/
structure Fits (ts : List ParsedRow) : Prop where
  agree : ∀ p ∈ ts, ∀ q ∈ ts, p.evidence = q.evidence
  few : ts.length ≤ maxQuotaWindowsPerSnapshot
  labels : (ts.map (·.window.label)).Nodup
  reset : ∀ p ∈ ts, hasFutureReset p.evidence.observedAtMs p.window = true
  estimated : ∀ p ∈ ts, p.evidence.source = .estimated ↔ p.evidence.confidence = .estimated

theorem Fits.perm (h : Fits ts) (hperm : ts.Perm ts') : Fits ts' where
  agree p hp q hq := h.agree p (hperm.mem_iff.mpr hp) q (hperm.mem_iff.mpr hq)
  few := hperm.length_eq ▸ h.few
  labels := (hperm.map _).nodup_iff.mp h.labels
  reset p hp := h.reset p (hperm.mem_iff.mpr hp)
  estimated p hp := h.estimated p (hperm.mem_iff.mpr hp)

structure Tells (ts : List ParsedRow) (snapshot : QuotaSnapshot) : Prop where
  windows : snapshot.windows.Perm (ts.map (·.window))
  evidence : ∀ p ∈ ts, p.evidence = ⟨snapshot.source, snapshot.confidence, snapshot.observedAtMs⟩

theorem Tells.perm (h : Tells ts snapshot) (hperm : ts.Perm ts') : Tells ts' snapshot :=
  ⟨h.windows.trans (hperm.map _), fun p hp => h.evidence p (hperm.mem_iff.mpr hp)⟩

/-- **The rows of a target** become a snapshot iff they fit. -/
theorem target_ok_iff (target : RuntimeQuotaTarget) :
    (∃ o, ts.foldlM (addOne addWindow) none = .ok o ∧
      ∀ group, o = some group → ∃ snapshot, groupSnapshot (target, group) = .ok snapshot) ↔
      Fits ts := by
  simp only [foldlM_addWindow_none]
  constructor
  · rintro ⟨_, ⟨hagree, rfl⟩, hsnapshot⟩
    cases ts with
    | nil => exact ⟨hagree, by simp, by simp, by simp, by simp⟩
    | cons p ts =>
      obtain ⟨snapshot, hsnapshot⟩ := hsnapshot _ rfl
      simp only [groupSnapshot, mapError_ok_iff, QuotaSnapshot.tryNew_ok_iff,
        checkWindows_ok_iff] at hsnapshot
      obtain ⟨hfew, ⟨-, hlabels, hreset⟩, hestimated, -⟩ := hsnapshot
      have hevidence : ∀ q ∈ p :: ts, q.evidence = p.evidence := fun q hq => hagree q hq p (.head _)
      rw [List.map_map] at hlabels
      refine ⟨hagree, by simpa using hfew, hlabels, fun q hq => ?_, fun q hq => ?_⟩
      · rw [hevidence q hq]
        exact hreset q.window (List.mem_map_of_mem hq)
      · rw [hevidence q hq]
        exact hestimated
  · intro h
    refine ⟨_, ⟨h.agree, rfl⟩, fun group hgroup => ?_⟩
    cases ts with
    | nil => cases hgroup
    | cons p ts =>
      cases hgroup
      have hevidence : ∀ q ∈ p :: ts, q.evidence = p.evidence := fun q hq =>
        h.agree q hq p (.head _)
      have hchecked : checkWindows p.evidence.observedAtMs [] ((p :: ts).map (·.window)) =
          .ok () := by
        refine checkWindows_ok_iff.mpr
          ⟨by simp, by rw [List.map_map]; exact h.labels, fun window hwindow => ?_⟩
        obtain ⟨q, hq, rfl⟩ := List.mem_map.mp hwindow
        have hreset := h.reset q hq
        rwa [hevidence q hq] at hreset
      refine ⟨⟨target, _, p.evidence.source, p.evidence.confidence, p.evidence.observedAtMs,
        ?_, hchecked, h.estimated p (.head _)⟩, ?_⟩
      · simpa using h.few
      · rw [groupSnapshot, mapError_ok_iff, QuotaSnapshot.tryNew_ok_iff]
        exact ⟨by simpa using h.few, hchecked, h.estimated p (.head _), rfl, rfl, rfl, rfl, rfl⟩

theorem tells_of_group
    (hagree : ∀ p ∈ ts, ∀ q ∈ ts, p.evidence = q.evidence) (hgroup : groupOf ts = some group)
    (h : groupSnapshot (target, group) = .ok snapshot) :
    snapshot.target = target ∧ Tells ts snapshot := by
  cases ts with
  | nil => cases hgroup
  | cons p ts =>
    cases hgroup
    rw [groupSnapshot, mapError_ok_iff, QuotaSnapshot.tryNew_ok_iff] at h
    obtain ⟨-, -, -, htarget, hwindows, hsource, hconfidence, hobserved⟩ := h
    refine ⟨htarget, ⟨hwindows ▸ .refl _, fun q hq => ?_⟩⟩
    rw [hagree q hq p (.head _), hsource, hconfidence, hobserved]

end Targets

/-! ### All rows -/

section Rows

variable {rows rows' : List PersistedQuotaRow} {b : Bindings} {snapshots : List QuotaSnapshot}
  {groups groups' : Table RuntimeQuotaTarget QuotaBootstrapGroup}

/-- The rows that take part, as far as they can be read. -/
def parsed (b : Bindings) (row : PersistedQuotaRow) : Option ParsedRow :=
  (parseRow b row).toOption.join

def parsedAt (b : Bindings) (rows : List PersistedQuotaRow) (target : RuntimeQuotaTarget) :
    List ParsedRow :=
  (rows.filterMap (parsed b)).filter fun p => p.target = target

/-- All rows can be read. -/
def Readable (b : Bindings) (rows : List PersistedQuotaRow) : Prop :=
  ∀ row ∈ rows, ∃ o, parseRow b row = .ok o

theorem foldlM_addRow_ok :
    rows.foldlM (addRow b) groups = .ok groups' ↔ Readable b rows ∧
      (rows.filterMap (parsed b)).foldlM (addTo (·.target) addWindow) groups = .ok groups' := by
  induction rows generalizing groups with
  | nil => simp [Readable]
  | cons row rows ih =>
    rw [List.foldlM_cons, bind_ok_iff, Readable, List.forall_mem_cons]
    cases hparse : parseRow b row with
    | error e => simp [addRow, hparse]
    | ok o =>
      cases o with
      | none =>
        have hnone : parsed b row = none := by rw [parsed, hparse]; rfl
        have hadd : addRow b groups row = .ok groups := by rw [addRow, hparse]; rfl
        rw [List.filterMap_cons_none hnone, hadd]
        simp [ih, Readable]
      | some p =>
        have hsome : parsed b row = some p := by rw [parsed, hparse]; rfl
        have hadd : addRow b groups row = addTo (·.target) addWindow groups p := by
          rw [addRow, hparse]
          rfl
        rw [List.filterMap_cons_some hsome, List.foldlM_cons, bind_ok_iff, hadd]
        simp only [ih, Except.ok.injEq, exists_eq', true_and]
        constructor
        · rintro ⟨g, hfirst, hreadable, hrest⟩
          exact ⟨hreadable, g, hfirst, hrest⟩
        · rintro ⟨hreadable, g, hfirst, hrest⟩
          exact ⟨g, hfirst, hreadable, hrest⟩

theorem readable_perm (hperm : rows.Perm rows') : Readable b rows ↔ Readable b rows' :=
  forall_congr' fun _ => imp_congr_left hperm.mem_iff

theorem parsedAt_perm (hperm : rows.Perm rows') (target : RuntimeQuotaTarget) :
    (parsedAt b rows target).Perm (parsedAt b rows' target) := (hperm.filterMap _).filter _

/-- **When rows can be loaded**: each can be read, and those of each target fit together. -/
theorem load_ok_iff :
    (∃ snapshots, loadQuotaBootstrap rows b = .ok snapshots) ↔
      Readable b rows ∧ ∀ target, Fits (parsedAt b rows target) := by
  have hperm : (rows.mergeSort rowPrecedes).Perm rows := List.mergeSort_perm ..
  have hfits : (∀ target, Fits (parsedAt b (rows.mergeSort rowPrecedes) target)) ↔
      ∀ target, Fits (parsedAt b rows target) := by
    refine forall_congr' fun target => ⟨fun h => h.perm (parsedAt_perm hperm target), fun h => ?_⟩
    exact h.perm (parsedAt_perm hperm target).symm
  rw [← readable_perm hperm, ← hfits]
  simp only [loadQuotaBootstrap, bind_ok_iff, foldlM_addRow_ok]
  constructor
  · rintro ⟨snapshots, groups, ⟨hreadable, hfold⟩, hsnapshots⟩
    refine ⟨hreadable, fun target =>
      (target_ok_iff target).mp ⟨_, lookup_of_foldlM_addTo hfold target, ?_⟩⟩
    intro group hgroup
    obtain ⟨snapshot, -, hsnapshot⟩ := mem_right_of_mapM_ok hsnapshots
      (List.mem_mergeSort.mpr (mem_rows.mpr hgroup))
    exact ⟨snapshot, hsnapshot⟩
  · rintro ⟨hreadable, hall⟩
    have hok := fun target => (target_ok_iff target).mpr (hall target)
    have haccepted : ∃ groups, ((rows.mergeSort rowPrecedes).filterMap (parsed b)).foldlM
        (addTo (·.target) addWindow) ∅ = .ok groups :=
      foldlM_addTo_ok.mpr fun target => (hok target).imp fun _ h => h.1
    obtain ⟨groups, hfold⟩ := haccepted
    obtain ⟨snapshots, hsnapshots⟩ := exists_mapM_ok (f := groupSnapshot)
      (l := groups.rows.mergeSort fun a b => targetPrecedes a.1 b.1) fun entry hentry => by
        rw [List.mem_mergeSort] at hentry
        obtain ⟨o, ho, hsnapshot⟩ := hok entry.1
        have hlookup := lookup_of_foldlM_addTo hfold entry.1
        have heq := Except.ok.inj (ho.symm.trans hlookup)
        exact hsnapshot entry.2 (heq.trans (mem_rows.mp hentry))
    exact ⟨snapshots, groups, ⟨hreadable, hfold⟩, hsnapshots⟩

/-- **What comes out**: one snapshot for each target with rows, with these rows. -/
theorem of_load (h : loadQuotaBootstrap rows b = .ok snapshots) :
    (∀ snapshot ∈ snapshots, parsedAt b rows snapshot.target ≠ [] ∧
      Tells (parsedAt b rows snapshot.target) snapshot) ∧
    (∀ target, parsedAt b rows target ≠ [] → ∃ snapshot ∈ snapshots, snapshot.target = target) ∧
    (snapshots.map (·.target)).Nodup := by
  have hperm : (rows.mergeSort rowPrecedes).Perm rows := List.mergeSort_perm ..
  simp only [loadQuotaBootstrap, bind_ok_iff, foldlM_addRow_ok] at h
  obtain ⟨groups, ⟨-, hfold⟩, hsnapshots⟩ := h
  have hgroup : ∀ target, (∀ p ∈ parsedAt b (rows.mergeSort rowPrecedes) target,
        ∀ q ∈ parsedAt b (rows.mergeSort rowPrecedes) target, p.evidence = q.evidence) ∧
      groups.lookup target = groupOf (parsedAt b (rows.mergeSort rowPrecedes) target) :=
        fun target =>
    foldlM_addWindow_none.mp (lookup_of_foldlM_addTo hfold target)
  have hentry : ∀ entry ∈ groups.rows.mergeSort fun a b => targetPrecedes a.1 b.1,
      groups.lookup entry.1 = some entry.2 := fun entry hmem =>
    mem_rows.mp (List.mem_mergeSort.mp hmem)
  have htells : ∀ entry ∈ groups.rows.mergeSort (fun a b => targetPrecedes a.1 b.1), ∀ snapshot,
      groupSnapshot entry = .ok snapshot → snapshot.target = entry.1 ∧
        Tells (parsedAt b (rows.mergeSort rowPrecedes) entry.1) snapshot :=
          fun entry hmem snapshot h =>
    tells_of_group (hgroup entry.1).1 ((hgroup entry.1).2.symm.trans (hentry entry hmem)) h
  refine ⟨fun snapshot hmem => ?_, fun target hne => ?_, ?_⟩
  · obtain ⟨entry, hmem', hsnapshot⟩ := mem_left_of_mapM_ok hsnapshots hmem
    obtain ⟨htarget, htell⟩ := htells entry hmem' snapshot hsnapshot
    rw [htarget]
    refine ⟨fun hnil => ?_, htell.perm (parsedAt_perm hperm entry.1)⟩
    have hempty := (hnil ▸ parsedAt_perm hperm (b := b) entry.1).eq_nil
    have hlookup := (hgroup entry.1).2
    rw [hempty, hentry entry hmem'] at hlookup
    cases hlookup
  · have hne' : parsedAt b (rows.mergeSort rowPrecedes) target ≠ [] := by
      intro hempty
      have hperm' := (parsedAt_perm hperm (b := b) target).symm
      rw [hempty] at hperm'
      exact hne hperm'.eq_nil
    obtain ⟨p, ts, hcons⟩ := List.exists_cons_of_ne_nil hne'
    have hlookup := (hgroup target).2
    rw [hcons] at hlookup
    obtain ⟨snapshot, hmem, hsnapshot⟩ := mem_right_of_mapM_ok hsnapshots
      (List.mem_mergeSort.mpr (mem_rows.mpr hlookup))
    exact ⟨snapshot, hmem, (htells _ (List.mem_mergeSort.mpr (mem_rows.mpr hlookup)) _ hsnapshot).1⟩
  · have hmap : snapshots.map (·.target) =
        (groups.rows.mergeSort fun a b => targetPrecedes a.1 b.1).map Prod.fst :=
      map_of_mapM_ok hsnapshots fun entry hmem snapshot h => (htells entry hmem snapshot h).1
    rw [hmap]
    exact ((List.mergeSort_perm ..).map _).nodup_iff.mpr (nodup_rows groups)

/-! ### One account among others -/

def Named (b : Bindings) : Prop := ∀ accountId endpointId credentialId,
  b accountId = some (endpointId, credentialId) → credentialId.asStr = accountId

def targetAccount : RuntimeQuotaTarget → String
  | .endpointCredential _ credentialId => credentialId.asStr
  | .endpointCredentialModel _ credentialId _ _ => credentialId.asStr

theorem targetAccount_of_parsed (hnamed : Named b) {row : PersistedQuotaRow} {p : ParsedRow}
    (h : parsed b row = some p) : targetAccount p.target = row.accountId := by
  rw [parsed] at h
  cases hparse : parseRow b row with
  | error e => rw [hparse] at h; cases h
  | ok o =>
    rw [hparse] at h
    cases h
    rw [parseRow] at hparse
    split at hparse
    · cases hparse
    · rename_i endpointId credentialId hbinding
      simp only [except_ok, Option.some.injEq] at hparse
      obtain ⟨target, htarget, _, -, _, -, _, -, _, -, _, -, rfl⟩ := hparse
      rw [← hnamed _ _ _ hbinding]
      unfold rowTarget at htarget
      split_ifs at htarget
      · cases htarget
        rfl
      · rw [mapError_ok_iff, RuntimeQuotaTarget.tryEndpointCredentialModel] at htarget
        split_ifs at htarget
        cases htarget
        rfl

theorem parsedAt_filter (hnamed : Named b) (target : RuntimeQuotaTarget) (keep : String → Bool)
    (hkeep : keep (targetAccount target) = true) :
    parsedAt b (rows.filter fun row => keep row.accountId) target = parsedAt b rows target := by
  induction rows with
  | nil => rfl
  | cons row rows ih =>
    by_cases hrow : keep row.accountId = true
    · rw [List.filter_cons, if_pos hrow]
      simp only [parsedAt, List.filterMap_cons] at ih ⊢
      cases parsed b row with
      | none => exact ih
      | some p => simp only [List.filter_cons, ih]
    · rw [List.filter_cons, if_neg hrow, ih]
      simp only [parsedAt, List.filterMap_cons]
      cases hp : parsed b row with
      | none => rfl
      | some p =>
        have hne : ¬ p.target = target := by
          rintro rfl
          rw [targetAccount_of_parsed hnamed hp] at hkeep
          exact hrow hkeep
        simp [hne]

theorem parsedAt_eq_nil (hnamed : Named b) (target : RuntimeQuotaTarget) (keep : String → Bool)
    (hkeep : keep (targetAccount target) = false) :
    parsedAt b (rows.filter fun row => keep row.accountId) target = [] := by
  rw [parsedAt, List.filter_eq_nil_iff]
  intro p hp htarget
  obtain ⟨row, hrow, hparsed⟩ := List.mem_filterMap.mp hp
  have hrow' := (List.mem_filter.mp hrow).2
  rw [← targetAccount_of_parsed hnamed hparsed, of_decide_eq_true htarget, hkeep] at hrow'
  cases hrow'

theorem fits_nil : Fits [] := ⟨by simp, by simp, by simp, by simp, by simp⟩

/-- **Rows of different accounts** do not get in each other's way. -/
theorem load_split (hnamed : Named b) (accountId : String) :
    (∃ snapshots, loadQuotaBootstrap rows b = .ok snapshots) ↔
      (∃ snapshots, loadQuotaBootstrap (rows.filter fun row => row.accountId != accountId) b =
        .ok snapshots) ∧
      ∃ snapshots, loadQuotaBootstrap (rows.filter fun row => row.accountId == accountId) b =
        .ok snapshots := by
  simp only [load_ok_iff]
  have hreadable : Readable b rows ↔
      Readable b (rows.filter fun row => row.accountId != accountId) ∧
        Readable b (rows.filter fun row => row.accountId == accountId) := by
    simp only [Readable, List.mem_filter, bne_iff_ne, beq_iff_eq]
    constructor
    · exact fun h => ⟨fun row hrow => h row hrow.1, fun row hrow => h row hrow.1⟩
    · rintro ⟨hothers, hown⟩ row hrow
      by_cases haccount : row.accountId = accountId
      · exact hown row ⟨hrow, haccount⟩
      · exact hothers row ⟨hrow, haccount⟩
  rw [hreadable]
  constructor
  · rintro ⟨⟨hothers, hown⟩, hfits⟩
    refine ⟨⟨hothers, fun target => ?_⟩, hown, fun target => ?_⟩
    · by_cases htarget : (targetAccount target != accountId) = true
      · rw [parsedAt_filter hnamed target (· != accountId) htarget]
        exact hfits target
      · rw [parsedAt_eq_nil hnamed target (· != accountId) (by simpa using htarget)]
        exact fits_nil
    · by_cases htarget : (targetAccount target == accountId) = true
      · rw [parsedAt_filter hnamed target (· == accountId) htarget]
        exact hfits target
      · rw [parsedAt_eq_nil hnamed target (· == accountId) (by simpa using htarget)]
        exact fits_nil
  · rintro ⟨⟨hothers, hfits⟩, hown, hfits'⟩
    refine ⟨⟨hothers, hown⟩, fun target => ?_⟩
    by_cases htarget : (targetAccount target == accountId) = true
    · rw [← parsedAt_filter hnamed target (· == accountId) htarget]
      exact hfits' target
    · have hne : (targetAccount target != accountId) = true := by simpa using htarget
      rw [← parsedAt_filter hnamed target (· != accountId) hne]
      exact hfits target

end Rows

end CpaGateway.Grok.BootstrapLoad
