import CpaGateway.Router.RouteExplain

/-! # Explanations and selections

An explanation and a selection at the same time, from the same cursor positions. Both go through the
same slots of the schedule (`scanTiers_eq_scan`), and at each of them ask the same pool whether one
of its Credentials is admitted. The selection has meanwhile advanced the cursors of the pools that
it searched in vain; the explanation looks into every pool from the same start. -/

namespace CpaGateway.Router.Explanation

open Core.Identity Lib.Rotation Upstream.CredentialPool Router.Schedule Router.Snapshot
open Router.RouteScheduler Router.CredentialScheduler Router.RouteExplain Router.RuntimeHealth
open Router.RuntimeQuota EndpointCredentialPool

/-- What both look at: the registries at one time, and the exclusions of the request. -/
structure Observation where
  health : RuntimeHealthRegistry
  quota : RuntimeQuotaRegistry
  atMs : ℤ
  exclusions : AttemptExclusionSet

namespace Observation

variable (o : Observation)

def endpointAvailable (endpointId : EndpointId) : Bool :=
  (o.health.availabilityAt (.endpoint endpointId) o.atMs).isAvailable

/-- Nothing observed is against the binding of the candidate to the Credential. -/
def admits (candidate : SnapshotRouteCandidate) (credentialId : CredentialId) : Bool :=
  !o.exclusions.contains candidate credentialId &&
    (o.health.availabilityAt (.endpointCredential candidate.endpointId credentialId)
      o.atMs).isAvailable &&
    (o.health.availabilityAt (.endpointCredentialModel candidate.endpointId credentialId
      candidate.upstreamModel) o.atMs).isAvailable &&
    (o.quota.availabilityAt (.endpointCredential candidate.endpointId credentialId)
      o.atMs).isAvailable &&
    (RuntimeQuotaTarget.tryEndpointCredentialModel candidate.endpointId credentialId
      candidate.upstreamModel).toOption.any fun target =>
        (o.quota.availabilityAt target o.atMs).isAvailable

/-- The explanation of a candidate. -/
def explained (pools : EndpointCredentialPools) (candidate : SnapshotRouteCandidate) :
    RouteExplainCandidate :=
  explainCandidate o.health o.quota o.atMs o.exclusions pools candidate

/-- The first Credential with a free place that is admitted for the candidate, from the cursors. -/
def admittedFrom (candidate : SnapshotRouteCandidate) (pool : EndpointCredentialPool)
    (cursors : List UInt64) : Option CredentialSlot :=
  pool.firstFrom cursors fun credential => o.admits candidate credential.credentialId

/-- The Credential that the explanation projects for the candidate, when the tiers of its pool are
visited from `start`. -/
def projects (pools : EndpointCredentialPools) (start : UInt64)
    (candidate : SnapshotRouteCandidate) : Option CredentialSlot :=
  if o.endpointAvailable candidate.endpointId then
    (pools.pool candidate.endpointId).bind fun pool =>
      o.admittedFrom candidate pool (pool.priorityTiers.map fun _ => start)
  else none

end Observation

variable {o : Observation} {candidate : SnapshotRouteCandidate} {pool : EndpointCredentialPool}
  {pools : EndpointCredentialPools}

/-! ### What the explanation looks at -/

theorem healthReason_eq_nil {ρ : Type} {availability : RuntimeHealthAvailability}
    {blocked : RuntimeHealthAvailability → ρ} :
    healthReason availability blocked = [] ↔ availability.isAvailable = true := by
  unfold healthReason
  split_ifs with h <;> simp [h]

theorem quotaReason_eq_nil {availability : Option RuntimeQuotaAvailability}
    {blocked : RuntimeQuotaAvailability → RouteExplainCredentialReason}
    {unavailable : RouteExplainCredentialReason} :
    quotaReason availability blocked unavailable = [] ↔
      availability.any (·.isAvailable) = true := by
  unfold quotaReason
  cases availability with
  | none => simp
  | some availability =>
    simp only [Option.any_some]
    split_ifs with h <;> simp [h]

theorem isEligible_explainCredential (entry : CredentialSlot) :
    (explainCredential o.health o.quota o.atMs o.exclusions candidate entry).isEligible ↔
      o.admits candidate entry.credentialId ∧ entry.hasCapacity := by
  simp only [RouteExplainCredential.isEligible, explainCredential, List.isEmpty_iff,
    List.append_eq_nil_iff, healthReason_eq_nil, quotaReason_eq_nil, Observation.admits,
    Option.any_map, ite_eq_left_iff, ite_eq_right_iff, List.cons_ne_nil, imp_false,
    Bool.not_eq_true, Bool.and_eq_true, Bool.not_eq_eq_eq_not, Bool.not_eq_false]
  tauto

variable {credential : CredentialSlot}

/-- A Credential with a free place is eligible for the candidate if it is admitted. -/
theorem credentialIsEligible_explained (hpool : pools.pool candidate.endpointId = some pool)
    (hmem : credential ∈ pool.credentials) (hcapacity : credential.hasCapacity) :
    (o.explained pools candidate).credentialIsEligible credential.credentialId =
      o.admits candidate credential.credentialId := by
  rw [Bool.eq_iff_iff]
  simp only [RouteExplainCandidate.credentialIsEligible, Observation.explained, explainCandidate,
    hpool, Option.map_some, Option.getD_some, List.any_map, List.any_eq_true, Function.comp_apply,
    Bool.and_eq_true, decide_eq_true_eq, isEligible_explainCredential]
  constructor
  · rintro ⟨other, -, hid, hadmits, -⟩
    have hid : other.credentialId = credential.credentialId := hid
    rwa [hid] at hadmits
  · intro hadmits
    exact ⟨credential, hmem, rfl, hadmits, hcapacity⟩

theorem isEligible_explained :
    (o.explained pools candidate).isEligible ↔
      candidate.isHardEligible ∧ o.endpointAvailable candidate.endpointId ∧
      ∃ pool, pools.pool candidate.endpointId = some pool ∧ ∃ credential ∈ pool.credentials,
        o.admits candidate credential.credentialId ∧ credential.hasCapacity := by
  simp only [RouteExplainCandidate.isEligible, Observation.explained, explainCandidate]
  cases pools.pool candidate.endpointId with
  | none => simp
  | some pool =>
    simp only [Option.map_some, Option.getD_some, List.any_map, List.any_eq_true,
      Function.comp_apply, isEligible_explainCredential, List.isEmpty_iff, List.append_eq_nil_iff,
      healthReason_eq_nil, Bool.and_eq_true, Option.some.injEq, exists_eq_left',
      ite_eq_left_iff, List.cons_ne_nil, imp_false, Bool.not_eq_true, Bool.not_eq_false,
      Option.isSome_some, if_true, and_true, Decidable.not_not]
    tauto

theorem peek_explained (start : UInt64) (hpool : pools.pool candidate.endpointId = some pool) :
    pool.peekEligibleFrom start (o.explained pools candidate).credentialIsEligible =
      o.admittedFrom candidate pool (pool.priorityTiers.map fun _ => start) := by
  rw [peekEligibleFrom_eq]
  exact firstFrom_congr fun credential hmem hcapacity =>
    credentialIsEligible_explained hpool hmem hcapacity

/-- The projection of a candidate with one of its Credentials. -/
def selectionOf (candidate : SnapshotRouteCandidate) (credentialId : CredentialId) :
    RouteExplainProjectedSelection where
  candidateId := candidate.id
  endpointId := candidate.endpointId
  upstreamId := candidate.upstreamId
  upstreamModel := candidate.upstreamModel
  credentialId := credentialId

variable {start : UInt64} {candidates done : List SnapshotRouteCandidate}

theorem probeProjection_eq {i : ℕ}
    (hget : candidates[i]? = some candidate) (hhard : candidate.isHardEligible) :
    probeProjection (candidates.map (o.explained pools)) pools start i () =
      match o.projects pools start candidate with
      | some credential => (.found (selectionOf candidate credential.credentialId), ())
      | none => (.next, ()) := by
  simp only [probeProjection, List.getElem?_map, hget, Option.map_some]
  have hendpoint : (o.explained pools candidate).endpointId = candidate.endpointId := rfl
  split_ifs with heligible
  · obtain ⟨-, havailable, pool, hpool, -⟩ := isEligible_explained.mp heligible
    simp only [hendpoint, hpool, peek_explained _ hpool, Observation.projects, havailable,
      Option.bind_some]
    cases o.admittedFrom candidate pool (pool.priorityTiers.map fun _ => start) <;> rfl
  · -- a Credential that could be projected would make the candidate eligible
    cases hprojects : o.projects pools start candidate with
    | none => rfl
    | some credential =>
      refine absurd ?_ heligible
      simp only [Observation.projects, Option.ite_none_right_eq_some, Option.bind_eq_some_iff]
        at hprojects
      obtain ⟨havailable, pool, hpool, hfirst⟩ := hprojects
      obtain ⟨hmem, hadmits, hcapacity⟩ := of_firstFrom hfirst
      exact isEligible_explained.mpr
        ⟨hhard, havailable, pool, hpool, credential, hmem, hadmits, hcapacity⟩

/-! ### What the selection has done -/

namespace Observation

variable (o : Observation)

/-- How often the pool of an Endpoint was searched for the candidates `done`. -/
def searches (done : List SnapshotRouteCandidate) (endpointId : EndpointId) : ℕ :=
  done.countP fun candidate =>
    decide (candidate.endpointId = endpointId) && o.endpointAvailable endpointId

/-- The pools after searches for the candidates `done` that found nothing. -/
def After (pools : EndpointCredentialPools) (done : List SnapshotRouteCandidate)
    (pools' : EndpointCredentialPools) : Prop :=
  ∀ endpointId, pools'.pool endpointId =
    (pools.pool endpointId).map (·.passed (o.searches done endpointId))

/-- The predicate of a selection at the time of the observation. -/
def lease (candidate : SnapshotRouteCandidate)
    (s : EndpointCredentialPools × Option CredentialLease) :
    Bool × EndpointCredentialPools × Option CredentialLease :=
  leaseFrom o.atMs (o.endpointAvailable ·.endpointId) o.admits candidate s

/-- No Credential that is admitted for one of the candidates is expired. -/
def Unexpired (candidates : List SnapshotRouteCandidate) (pools : EndpointCredentialPools) : Prop :=
  ∀ candidate ∈ candidates, ∀ pool, pools.pool candidate.endpointId = some pool →
    ∀ credential ∈ pool.credentials, credential.hasCapacity →
      o.admits candidate credential.credentialId →
        credential.expiresAtMs.all fun expiresAtMs => decide (o.atMs < expiresAtMs)

end Observation

theorem searches_concat (done : List SnapshotRouteCandidate) (endpointId : EndpointId) :
    o.searches (done ++ [candidate]) endpointId = o.searches done endpointId +
      if candidate.endpointId = endpointId ∧ o.endpointAvailable endpointId then 1 else 0 := by
  rw [Observation.searches, List.countP_append, ← Observation.searches]
  simp

theorem after_nil (pools : EndpointCredentialPools) : o.After pools [] pools := by
  intro endpointId
  simp [Observation.searches, passed_zero]

variable {pools' : EndpointCredentialPools}

theorem tryLease_passed (hafter : o.After pools done pools')
    (hunexpired : o.Unexpired candidates pools) (hcandidate : candidate ∈ candidates)
    (hpool : pools.pool candidate.endpointId = some pool) :
    let n := o.searches done candidate.endpointId
    let answer := pools'.tryLeaseEligibleAt candidate.endpointId o.atMs (o.admits candidate)
    answer.1 = (o.admittedFrom candidate pool (pool.passed n).cursors).map (·.lease) ∧
      (answer.1 = none →
        answer.2 = ⟨pools'.pools.insert candidate.endpointId (pool.passed (n + 1))⟩) := by
  intro n answer
  have hpool' : pools'.pool candidate.endpointId = some (pool.passed n) := by
    rw [hafter, hpool, Option.map_some]
  have hanswer : answer = (((pool.passed n).tryLeaseEligibleAt o.atMs (o.admits candidate)).1,
      ⟨pools'.pools.insert candidate.endpointId
        ((pool.passed n).tryLeaseEligibleAt o.atMs (o.admits candidate)).2⟩) := by
    simp [answer, EndpointCredentialPools.tryLeaseEligibleAt, hpool']
  rw [hanswer]
  refine ⟨?_, fun hnone => ?_⟩
  · simp only [tryLeaseEligibleAt, tryLeaseSlots_fst]
    congr 1
    refine firstFrom_congr fun credential hmem hcapacity => ?_
    cases hadmits : o.admits candidate credential.credentialId with
    | false => rw [Bool.and_false]
    | true => rw [hunexpired candidate hcandidate pool hpool credential hmem hcapacity hadmits]; rfl
  · simp only [tryLeaseEligibleAt] at hnone ⊢
    rw [tryLeaseSlots_snd hnone]
    simp [passed, Function.comp_def, UInt64.ofNat_add, UInt64.add_assoc]

/-! ### One candidate -/

/-- Every tier of every pool is about to be visited from `start`. -/
def Started (pools : EndpointCredentialPools) (start : UInt64) : Prop :=
  ∀ endpointId pool, pools.pool endpointId = some pool → ∀ cursor ∈ pool.cursors, cursor = start

/-- The cursors of the pools can be advanced `n` times without wrapping in the search that follows.
-/
def Unwrapped (pools : EndpointCredentialPools) (start : UInt64) (n : ℕ) : Prop :=
  ∀ endpointId pool, pools.pool endpointId = some pool → ∀ tier ∈ pool.priorityTiers,
    start.toNat + n + tier.slotIndexes.length ≤ 2 ^ 64

def cursorsAt (pool : EndpointCredentialPool) (start : UInt64) (n : ℕ) : List UInt64 :=
  pool.priorityTiers.map fun _ => start + UInt64.ofNat n

theorem cursors_passed {n : ℕ} (h : ∀ cursor ∈ pool.cursors, cursor = start) :
    (pool.passed n).cursors = cursorsAt pool start n := by
  simp only [passed, cursorsAt, List.map_const', ← pool.aligned]
  exact List.eq_replicate_iff.mpr ⟨List.length_map _, by simpa using fun c hc => by rw [h c hc]⟩

theorem cursorsAt_zero : cursorsAt pool start 0 = pool.priorityTiers.map fun _ => start := by
  simp [cursorsAt]

/-- Whether a search finds something does not depend on how often the pool was searched before. -/
theorem admittedFrom_cursorsAt_eq_none {n : ℕ}
    (hwrap : ∀ tier ∈ pool.priorityTiers, start.toNat + n + tier.slotIndexes.length ≤ 2 ^ 64) :
    o.admittedFrom candidate pool (cursorsAt pool start n) = none ↔
      o.admittedFrom candidate pool (cursorsAt pool start 0) = none := by
  have hbound : ∀ m ≤ n, ∀ cursor ∈ cursorsAt pool start m, ∀ tier ∈ pool.priorityTiers,
      cursor.toNat + tier.slotIndexes.length ≤ 2 ^ 64 := by
    intro m hm cursor hcursor tier htier
    obtain ⟨-, -, rfl⟩ := List.mem_map.mp hcursor
    have := hwrap tier htier
    rw [UInt64.toNat_add, UInt64.toNat_ofNat']
    omega
  have hlength : ∀ m, (cursorsAt pool start m).length = pool.priorityTiers.length := fun m =>
    List.length_map _
  rw [Observation.admittedFrom, Observation.admittedFrom,
    firstFrom_eq_none (hlength n) (hbound n le_rfl),
    firstFrom_eq_none (hlength 0) (hbound 0 (Nat.zero_le n))]

section Candidate

variable (hafter : o.After pools done pools') (hunexpired : o.Unexpired candidates pools)
  (hstarted : Started pools start) (hwrap : Unwrapped pools start done.length)
  (hcandidate : candidate ∈ candidates)

include hafter hunexpired hstarted hwrap hcandidate

theorem lease_of_projects_none (hprojects : o.projects pools start candidate = none) :
    ∃ pools'', o.lease candidate (pools', none) = (false, pools'', none) ∧
      o.After pools (done ++ [candidate]) pools'' := by
  simp only [Observation.lease, leaseFrom]
  split_ifs with havailable
  · cases hpool : pools.pool candidate.endpointId with
    | none =>
      have hpool' : pools'.pool candidate.endpointId =
          none := by rw [hafter, hpool, Option.map_none]
      simp only [EndpointCredentialPools.tryLeaseEligibleAt, hpool']
      refine ⟨pools', rfl, fun endpointId => ?_⟩
      rw [hafter, searches_concat]
      by_cases heq : candidate.endpointId = endpointId
      · rw [← heq, hpool, Option.map_none, Option.map_none]
      · rw [if_neg fun h => heq h.1, Nat.add_zero]
    | some pool =>
      obtain ⟨hfirst, hsecond⟩ := tryLease_passed hafter hunexpired hcandidate hpool
      have hle : o.searches done candidate.endpointId ≤ done.length := List.countP_le_length
      have hnone : (pools'.tryLeaseEligibleAt candidate.endpointId o.atMs (o.admits candidate)).1 =
          none := by
        rw [hfirst, cursors_passed (hstarted _ pool hpool), Option.map_eq_none_iff,
          admittedFrom_cursorsAt_eq_none fun tier htier => by
            have := hwrap _ pool hpool tier htier
            omega, cursorsAt_zero]
        simpa [Observation.projects, havailable, hpool] using hprojects
      generalize hanswer : pools'.tryLeaseEligibleAt candidate.endpointId o.atMs
        (o.admits candidate)
        = answer at hnone hsecond ⊢
      obtain ⟨_, pools''⟩ := answer
      obtain rfl := hnone
      obtain rfl := hsecond rfl
      refine ⟨_, rfl, fun endpointId => ?_⟩
      rw [searches_concat]
      simp only [EndpointCredentialPools.pool, Std.TreeMap.getElem?_insert, Std.compare_eq_iff_eq]
      by_cases heq : candidate.endpointId = endpointId
      · subst heq
        rw [if_pos rfl, if_pos ⟨rfl, havailable⟩, ← EndpointCredentialPools.pool, hpool,
          Option.map_some]
      · rw [if_neg heq, if_neg fun h => heq h.1]
        exact hafter endpointId
  · refine ⟨pools', rfl, fun endpointId => ?_⟩
    rw [hafter, searches_concat, if_neg ?_, Nat.add_zero]
    rintro ⟨rfl, h⟩
    exact havailable h

/-- A candidate for which something is projected is leased; the search for its Credential starts
where the earlier searches of its pool have left the cursors. -/
theorem lease_of_projects_some (hprojects : o.projects pools start candidate = some credential) :
    ∃ pool leased pools'', pools.pool candidate.endpointId = some pool ∧
      o.admittedFrom candidate pool
        (cursorsAt pool start (o.searches done candidate.endpointId)) = some leased ∧
      o.lease candidate (pools', none) = (true, pools'', some leased.lease) := by
  simp only [Observation.projects, Option.ite_none_right_eq_some, Option.bind_eq_some_iff]
    at hprojects
  obtain ⟨havailable, pool, hpool, hadmitted⟩ := hprojects
  obtain ⟨hfirst, -⟩ := tryLease_passed hafter hunexpired hcandidate hpool
  have hle : o.searches done candidate.endpointId ≤ done.length := List.countP_le_length
  rw [cursors_passed (hstarted _ pool hpool)] at hfirst
  cases hleased : o.admittedFrom candidate pool
      (cursorsAt pool start (o.searches done candidate.endpointId)) with
  | none =>
    rw [admittedFrom_cursorsAt_eq_none fun tier htier => by
      have := hwrap _ pool hpool tier htier
      omega, cursorsAt_zero, hadmitted] at hleased
    cases hleased
  | some leased =>
    rw [hleased, Option.map_some] at hfirst
    generalize hanswer : pools'.tryLeaseEligibleAt candidate.endpointId o.atMs (o.admits candidate)
      = answer at hfirst
    obtain ⟨_, pools''⟩ := answer
    obtain rfl := hfirst
    refine ⟨pool, leased, pools'', hpool, hleased, ?_⟩
    simp only [Observation.lease, leaseFrom, havailable, if_true, hanswer]

end Candidate

/-! ### All candidates -/

/-- The selection is the projected one, except that its Credential was searched for from where the
searches for the candidates passed over have left the cursors of the pool. -/
structure Matches (o : Observation) (pools : EndpointCredentialPools) (start : UInt64)
    (projection : RouteExplainProjectedSelection) (selected : SelectedRouteCredential)
    (passedOver : List SnapshotRouteCandidate) : Prop where
  nothing : ∀ candidate ∈ passedOver, o.projects pools start candidate = none
  projected : ∃ credential, o.projects pools start selected.candidate = some credential ∧
    projection = selectionOf selected.candidate credential.credentialId
  leased : ∃ pool leased, pools.pool selected.candidate.endpointId = some pool ∧
    pool.peekEligibleFrom (start + UInt64.ofNat
      (passedOver.countP (·.endpointId = selected.candidate.endpointId)))
      (o.admits selected.candidate) = some leased ∧
    selected.lease = leased.lease

theorem scan_agrees {route : SnapshotRoute} {l : List ℕ}
    (hhard : ∀ candidate ∈ route.candidates, candidate.isHardEligible)
    (hunexpired : o.Unexpired route.candidates pools) (hstarted : Started pools start)
    (hl : ∀ i ∈ l, i < route.candidates.length) (hafter : o.After pools done pools')
    (hdone : ∀ candidate ∈ done, o.projects pools start candidate = none)
    (hwrap : Unwrapped pools start (done.length + l.length)) :
    match (scan (probeProjection (route.candidates.map (o.explained pools)) pools start) l
      ()).1 with
    | .found projection => ∃ selected passedOver after pools'',
        scan (probeSlot route o.lease) l (pools', none) =
          (.found selected.candidate, pools'', some selected.lease) ∧
        done ++ l.filterMap (route.candidates[·]?) = passedOver ++ selected.candidate :: after ∧
        Matches o pools start projection selected passedOver
    | .next => ∃ pools'', scan (probeSlot route o.lease) l (pools', none) = (.next, pools'', none)
    | .stop => False := by
  induction l generalizing done pools' with
  | nil => exact ⟨pools', rfl⟩
  | cons i l ih =>
    obtain ⟨candidate, hget⟩ : ∃ candidate, route.candidates[i]? = some candidate :=
      ⟨_, List.getElem?_eq_getElem (hl i List.mem_cons_self)⟩
    have hmem := List.mem_of_getElem? hget
    have hwrap' : Unwrapped pools start done.length := fun endpointId pool hpool tier htier => by
      have := hwrap endpointId pool hpool tier htier
      omega
    simp only [scan, probeProjection_eq hget (hhard candidate hmem), probeSlot, hget,
      List.filterMap_cons_some hget]
    cases hprojects : o.projects pools start candidate with
    | none =>
      obtain ⟨pools'', hlease, hafter'⟩ :=
        lease_of_projects_none hafter hunexpired hstarted hwrap' hmem hprojects
      have hrest := ih (fun j hj => hl j (List.mem_cons_of_mem _ hj)) hafter'
        (fun other hother => by
          rcases List.mem_append.mp hother with hother | hother
          · exact hdone other hother
          · rwa [List.mem_singleton.mp hother])
        (fun endpointId pool hpool tier htier => by
          have := hwrap endpointId pool hpool tier htier
          simp only [List.length_append, List.length_cons, List.length_nil] at this ⊢
          omega)
      simpa only [hlease, List.append_assoc, List.singleton_append] using hrest
    | some credential =>
      obtain ⟨pool, leased, pools'', hpool, hleased, hlease⟩ :=
        lease_of_projects_some hafter hunexpired hstarted hwrap' hmem hprojects
      refine ⟨⟨candidate, leased.lease⟩, done, l.filterMap (route.candidates[·]?), pools'', ?_, rfl,
        hdone, ⟨credential, hprojects, rfl⟩, pool, leased, hpool, ?_, rfl⟩
      · simp [hlease]
      · have havailable : o.endpointAvailable candidate.endpointId := by
          by_contra h
          simp [Observation.projects, h] at hprojects
        simp only [Observation.searches, havailable, Bool.and_true] at hleased
        rw [peekEligibleFrom_eq]
        exact hleased

/-! ### Explanation and selection -/

variable {snapshot : RouteSnapshot}

/-- The pair that the explanation projects, if it projects one. -/
def projectedSelection (o : Observation) (snapshot : RouteSnapshot)
    (pools : EndpointCredentialPools) (routeId : RouteId)
    (candidateStart credentialStart : UInt64) : Option RouteExplainProjectedSelection :=
  (explain snapshot pools o.health o.quota
    ⟨routeId, o.atMs, candidateStart, credentialStart⟩ o.exclusions).toOption.bind
      (·.projectedSelection)

/-- The selection for a request with the same exclusions, while the clock stands at the time of the
observation. -/
def selection (o : Observation) (scheduler : RouteCredentialScheduler snapshot)
    (routeId : RouteId) : Except Core.Error.GatewayError SelectedRouteCredential :=
  (scheduler.selectEligibleAndLeaseWithRuntimeHealthQuotaAndBindingAt routeId
    ⟨o.health, o.quota, .ok o.atMs⟩ o.atMs (fun _ => true)
    fun candidate credentialId => !o.exclusions.contains candidate credentialId).1

theorem selection_eq (scheduler : RouteCredentialScheduler snapshot) (routeId : RouteId) :
    selection o scheduler routeId =
      (scheduler.selectAndLease routeId o.atMs (o.endpointAvailable ·.endpointId) o.admits).1 := by
  rfl

/-- The cursors of the route all stand at `start`. -/
def RouteStarted (scheduler : RouteCredentialScheduler snapshot) (routeId : RouteId)
    (start : UInt64) : Prop :=
  ∀ cursors : List UInt64, scheduler.candidates.cursors[routeId]? = some cursors →
    ∀ cursor ∈ cursors, cursor = start

/-- The candidates in the order in which the slots of the schedule are visited from `start`. -/
def visitedCandidates (route : SnapshotRoute) (schedule : SnapshotRouteSchedule) (start : UInt64) :
    List SnapshotRouteCandidate :=
  (order (·.slotIndexes) schedule.priorityTiers
    (schedule.priorityTiers.map fun _ => start)).filterMap
    (route.candidates[·]?)

def slotCount (schedule : SnapshotRouteSchedule) : ℕ :=
  (schedule.priorityTiers.map (·.slotIndexes.length)).sum

/-- Where none of the candidates passed over is on the Endpoint of the selected one, the pairs are
the same. -/
theorem Matches.eq {projection : RouteExplainProjectedSelection}
    {selected : SelectedRouteCredential} {passedOver : List SnapshotRouteCandidate}
    (h : Matches o pools start projection selected passedOver)
    (hother : ∀ candidate ∈ passedOver, candidate.endpointId ≠ selected.candidate.endpointId) :
    projection = selectionOf selected.candidate selected.lease.credentialId := by
  obtain ⟨credential, hprojects, rfl⟩ := h.projected
  obtain ⟨pool, leased, hpool, hpeek, hlease⟩ := h.leased
  have hzero : passedOver.countP (·.endpointId = selected.candidate.endpointId) = 0 :=
    List.countP_eq_zero.mpr fun candidate hmem => by simpa using hother candidate hmem
  simp only [Observation.projects, Option.ite_none_right_eq_some, Option.bind_eq_some_iff]
    at hprojects
  obtain ⟨-, pool', hpool', hadmitted⟩ := hprojects
  cases hpool.symm.trans hpool'
  rw [hzero, peekEligibleFrom_eq] at hpeek
  rw [← cursorsAt_zero] at hadmitted
  cases hpeek.symm.trans hadmitted
  rw [hlease]
  rfl

/-! Both are scans through the same slots. -/

section Scans

variable {scheduler : RouteCredentialScheduler snapshot} {routeId : RouteId} {route : SnapshotRoute}
  {schedule : SnapshotRouteSchedule} (hroute : snapshot.route routeId = some route)
  (hschedule : snapshot.routeSchedule routeId = some schedule)

include hroute hschedule

theorem projectedSelection_eq (candidateStart credentialStart : UInt64) :
    projectedSelection o snapshot pools routeId candidateStart credentialStart =
      (scan (probeProjection (route.candidates.map (o.explained pools)) pools credentialStart)
        (order (·.slotIndexes) schedule.priorityTiers
          (schedule.priorityTiers.map fun _ => candidateStart)) ()).1.toOption := by
  rw [← scanTiers_eq_scan]
  simp only [projectedSelection, explain, hroute, hschedule]
  rfl

theorem selection_eq_scan {cursors : List UInt64}
    (hcursors : scheduler.candidates.cursors[routeId]? = some cursors)
    (hcompiled : Compiled route schedule) :
    selection o scheduler routeId =
      match scan (probeSlot route o.lease) (order (·.slotIndexes) schedule.priorityTiers cursors)
        (scheduler.credentialPools, none) with
      | (.found candidate, _, some lease) => .ok { candidate, lease }
      | _ => .error credentialUnavailableError := by
  obtain ⟨hcandidate, hstate⟩ := RouteCandidateScheduler.selectEligible_eq o.lease
    (scheduler.credentialPools, none) hroute hschedule hcursors
  rw [scannedTiers_eq hcompiled] at hcandidate hstate
  have hlease : leaseFrom o.atMs (o.endpointAvailable ·.endpointId) o.admits = o.lease := rfl
  simp only [selection_eq, RouteCredentialScheduler.selectAndLease, hlease, hcandidate, hstate]
  rw [← scanTiers_eq_scan]
  generalize scanTiers _ _ schedule.priorityTiers cursors (scheduler.credentialPools, none) = answer
  rcases answer with ⟨_ | _ | _, _, _, _ | _⟩ <;> rfl

end Scans

/-- **Explanations predict selections.** From the same cursor positions, at the same time, with all
candidates hard-eligible: where the explanation projects nothing nothing is selected, and where it
projects a pair the same candidate is selected. Its Credential is the projected one unless the pool
was already searched for a candidate passed over; then it is the one that a peek finds from as many
places further on. -/
theorem explanation_predicts_selection (o : Observation)
    (scheduler : RouteCredentialScheduler snapshot) (routeId : RouteId)
    (candidateStart credentialStart : UInt64)
    (hcandidates : RouteStarted scheduler routeId candidateStart)
    (hpools : Started scheduler.credentialPools credentialStart)
    (hhard : ∀ route, snapshot.route routeId = some route →
      ∀ candidate ∈ route.candidates, candidate.isHardEligible)
    (hunexpired : ∀ route, snapshot.route routeId = some route →
      o.Unexpired route.candidates scheduler.credentialPools)
    (hwrap : ∀ schedule, snapshot.routeSchedule routeId = some schedule →
      Unwrapped scheduler.credentialPools credentialStart (slotCount schedule)) :
    match projectedSelection o snapshot scheduler.credentialPools routeId candidateStart
      credentialStart with
    | none => selection o scheduler routeId = .error credentialUnavailableError
    | some projection => ∃ route schedule selected passedOver after,
        snapshot.route routeId = some route ∧ snapshot.routeSchedule routeId = some schedule ∧
        selection o scheduler routeId = .ok selected ∧
        visitedCandidates route schedule candidateStart = passedOver ++
          selected.candidate :: after ∧
        Matches o scheduler.credentialPools credentialStart projection selected passedOver ∧
        ((∀ candidate ∈ passedOver, candidate.endpointId ≠ selected.candidate.endpointId) →
          projection = selectionOf selected.candidate selected.lease.credentialId) := by
  cases hroute : snapshot.route routeId with
  | none =>
    have hprojected : projectedSelection o snapshot scheduler.credentialPools routeId candidateStart
        credentialStart = none := by
      simp only [projectedSelection, explain, hroute]
      rfl
    rw [hprojected, selection_eq, RouteCredentialScheduler.selectAndLease,
      RouteCandidateScheduler.selectEligible_of_unknown _ _ hroute]
  | some route =>
    obtain ⟨-, -, schedule, hfiled, hcompiled⟩ := snapshot.wellFormed.scheduled _ _ hroute
    have hschedule : snapshot.routeSchedule routeId = some schedule := hfiled
    obtain ⟨cursors, hcursors, hlen⟩ := scheduler.candidates.aligned routeId schedule hschedule
    have hstart : cursors = schedule.priorityTiers.map fun _ => candidateStart := by
      rw [List.map_const', ← hlen]
      exact List.eq_replicate_iff.mpr ⟨rfl, hcandidates cursors hcursors⟩
    have hagrees := scan_agrees (l := order (·.slotIndexes) schedule.priorityTiers cursors)
      (hhard route hroute) (hunexpired route hroute) hpools
      (fun i hi => by
        obtain ⟨tier, htier, hslot⟩ := of_mem_order hi
        obtain ⟨candidate, hget, -⟩ := (hcompiled.slots tier htier i).mp hslot
        exact (List.getElem?_eq_some_iff.mp hget).1)
      (after_nil scheduler.credentialPools) (by simp)
      (fun endpointId pool hpool tier htier => by
        have hbound := hwrap schedule hschedule endpointId pool hpool tier htier
        have hlength := length_order_le (·.slotIndexes) schedule.priorityTiers cursors
        simp only [slotCount, List.length_nil] at hbound hlength ⊢
        omega)
    rw [projectedSelection_eq hroute hschedule,
      selection_eq_scan hroute hschedule hcursors hcompiled, ← hstart]
    generalize (scan (probeProjection _ scheduler.credentialPools credentialStart) _ ()).1 =
      projected
      at hagrees ⊢
    rcases projected with projection | _ | _
    · obtain ⟨selected, passedOver, after, pools'', hscan, horder, hmatches⟩ := hagrees
      rw [hstart] at horder
      rw [hscan]
      exact ⟨route, schedule, selected, passedOver, after, rfl, hschedule, rfl, horder, hmatches,
        hmatches.eq⟩
    · obtain ⟨pools'', hscan⟩ := hagrees
      rw [hscan]
      rfl
    · exact hagrees.elim

/-! ### Two candidates on one Endpoint -/

def sampleObservation (excluded : Finset (RouteCandidateId × CredentialId)) : Observation where
  health := RuntimeHealth.new fun _ => 0
  quota := RuntimeQuota.new fun _ => 0
  atMs := 10
  exclusions := ⟨excluded⟩

/-- The projected pair and the selected pair of the sample scheduler, from its own cursors. -/
def samplePairs (expired : Bool) (excluded : Finset (RouteCandidateId × CredentialId)) :
    Option (String × String) × Option (String × String) :=
  let scheduler := (sampleScheduler expired).2
  let o := sampleObservation excluded
  ((projectedSelection o (sampleScheduler expired).1 scheduler.credentialPools
    (.lit "route") 0 0).map fun projection =>
      (projection.candidateId.asStr, projection.credentialId.asStr),
    (selection o scheduler (.lit "route")).toOption.map fun selected =>
      (selected.candidate.id.asStr, selected.lease.credentialId.asStr))

example : samplePairs false ∅ = (some ("a", "1"), some ("a", "1")) := by decide +kernel

theorem routeStarted_sample (expired : Bool) (routeId : RouteId) :
    RouteStarted (sampleScheduler expired).2 routeId 0 := by
  have hall : ((sampleScheduler expired).2.candidates.cursors.toList.all fun entry =>
      entry.2.all (· = 0)) = true := by cases expired <;> decide +kernel
  simp only [List.all_eq_true, decide_eq_true_eq] at hall
  intro cursors hcursors
  exact hall (routeId, cursors) (Std.TreeMap.mem_toList_iff_getElem?_eq_some.mpr hcursors)

theorem started_sample (expired : Bool) :
    Started (sampleScheduler expired).2.credentialPools 0 := by
  have hall : ((sampleScheduler expired).2.credentialPools.pools.toList.all fun entry =>
      entry.2.cursors.all (· = 0)) = true := by cases expired <;> decide +kernel
  simp only [List.all_eq_true, decide_eq_true_eq] at hall
  intro endpointId pool hpool
  exact hall (endpointId, pool) (Std.TreeMap.mem_toList_iff_getElem?_eq_some.mpr hpool)

theorem hardEligible_sample (expired : Bool) (routeId : RouteId) (route : SnapshotRoute)
    (hroute : (sampleScheduler expired).1.route routeId = some route) :
    ∀ candidate ∈ route.candidates, candidate.isHardEligible := by
  have hall : ∀ entry ∈ (sampleScheduler expired).1.routes.toList,
      ∀ candidate ∈ entry.2.candidates, candidate.isHardEligible := by
    cases expired <;> decide +kernel
  exact hall (routeId, route) (Std.TreeMap.mem_toList_iff_getElem?_eq_some.mpr hroute)

theorem unexpired_sample (o : Observation) (candidates : List SnapshotRouteCandidate) :
    o.Unexpired candidates (sampleScheduler false).2.credentialPools := by
  have hall : ∀ entry ∈ (sampleScheduler false).2.credentialPools.pools.toList,
      ∀ credential ∈ entry.2.credentials, credential.expiresAtMs = none := by decide +kernel
  intro candidate _ pool hpool credential hcredential _ _
  rw [hall (_, pool) (Std.TreeMap.mem_toList_iff_getElem?_eq_some.mpr hpool) credential hcredential]
  rfl

theorem unwrapped_sample (routeId : RouteId) (schedule : SnapshotRouteSchedule)
    (hschedule : (sampleScheduler false).1.routeSchedule routeId = some schedule) :
    Unwrapped (sampleScheduler false).2.credentialPools 0 (slotCount schedule) := by
  have hall : ∀ filed ∈ (sampleScheduler false).1.routeSchedules.toList,
      ∀ entry ∈ (sampleScheduler false).2.credentialPools.pools.toList,
      ∀ tier ∈ entry.2.priorityTiers,
        (0 : UInt64).toNat + slotCount filed.2 + tier.slotIndexes.length ≤ 2 ^ 64 := by
    decide +kernel
  intro endpointId pool hpool
  exact hall (routeId, schedule) (Std.TreeMap.mem_toList_iff_getElem?_eq_some.mpr hschedule)
    (endpointId, pool) (Std.TreeMap.mem_toList_iff_getElem?_eq_some.mpr hpool)

/-- The bindings of the first candidate of the sample route. -/
def triedBindings : Finset (RouteCandidateId × CredentialId) :=
  {(.lit "a", .lit "1"), (.lit "a", .lit "2")}

/-- With the bindings of the first candidate excluded, the second one is selected, as projected. -/
theorem explanation_predicts_selection_sample :
    ∃ projection selected passedOver,
      projectedSelection (sampleObservation triedBindings) (sampleScheduler false).1
        (sampleScheduler false).2.credentialPools ⟨"route", by decide⟩ 0 0 = some projection ∧
      selection (sampleObservation triedBindings) (sampleScheduler false).2 ⟨"route", by decide⟩ =
        .ok selected ∧
      Matches (sampleObservation triedBindings)
        (sampleScheduler false).2.credentialPools 0 projection
        selected passedOver := by
  have hpredicts := explanation_predicts_selection (sampleObservation triedBindings)
    (sampleScheduler false).2 ⟨"route", by decide⟩ 0 0 (routeStarted_sample false _)
    (started_sample false) (hardEligible_sample false _) (fun route _ => unexpired_sample _ _)
    (unwrapped_sample _)
  have hsome : (projectedSelection (sampleObservation triedBindings) (sampleScheduler false).1
    (sampleScheduler false).2.credentialPools ⟨"route", by decide⟩ 0 0).isSome := by decide +kernel
  obtain ⟨projection, hprojected⟩ := Option.isSome_iff_exists.mp hsome
  rw [hprojected] at hpredicts
  obtain ⟨-, -, selected, passedOver, -, -, -, hselected, -, hmatches, -⟩ := hpredicts
  exact ⟨projection, selected, passedOver, hprojected, hselected, hmatches⟩

/-- Both Credentials of the first candidate were tried already: the search for it has advanced the
cursor of the pool, and the second candidate is leased with the second Credential. Where the first
Credential has expired, the explanation projects it nevertheless. -/
theorem projection_differs_from_selection :
    (∀ expired routeId, RouteStarted (sampleScheduler expired).2 routeId 0) ∧
    (∀ expired, Started (sampleScheduler expired).2.credentialPools 0) ∧
    (∀ expired routeId route, (sampleScheduler expired).1.route routeId = some route →
      ∀ candidate ∈ route.candidates, candidate.isHardEligible) ∧
    samplePairs false triedBindings = (some ("b", "1"), some ("b", "2")) ∧
    samplePairs true ∅ = (some ("a", "1"), some ("a", "2")) :=
  ⟨routeStarted_sample, started_sample, hardEligible_sample, by decide +kernel, by decide +kernel⟩

end CpaGateway.Router.Explanation
