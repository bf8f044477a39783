import CpaGateway.Core.Identity
import CpaGateway.Lib.Fallible
import CpaGateway.Lib.Rotation
import CpaGateway.Lib.Tiers
import Mathlib.Data.List.Find

/-! # Credential pools

The Credentials of one Endpoint, in tiers of equal priority. A lease takes one of the places of a
Credential; the search for one visits the slots of the tiers from their cursors. A peek visits them
from a given start and takes nothing. The secret of a Credential is left out: it is kept for the
consumer of a lease and never looked at. -/

namespace CpaGateway.Upstream.CredentialPool

open Core.Identity Lib Lib.Fallible Lib.Rotation Tiers

structure EndpointCredentialInput where
  credentialId : CredentialId
  credentialKind : String
  credentialRevision : ℤ
  priority : ℤ
  weight : ℤ
  concurrency : ℤ
  expiresAtMs : Option ℤ

inductive CredentialPoolBuildError
  | emptyCredentialPool
  | emptyCredentialKind
  | duplicateCredential
  | invalidCredentialRevision
  | invalidCredentialPriority
  | invalidCredentialWeight
  | invalidCredentialConcurrency
  | invalidCredentialExpiry
  | credentialScheduleTooLarge
  | duplicateEndpointPool
  deriving DecidableEq

/-- A Credential in a pool, with the number of its live leases. -/
structure CredentialSlot where
  credentialId : CredentialId
  credentialKind : String
  credentialRevision : ℕ
  priority : ℤ
  weight : ℕ
  maximumConcurrency : ℕ
  expiresAtMs : Option ℤ
  activeLeases : ℕ
  deriving DecidableEq

def CredentialSlot.hasCapacity (credential : CredentialSlot) : Bool :=
  decide (credential.activeLeases < credential.maximumConcurrency)

structure CredentialPriorityTier where
  priority : ℤ
  slotIndexes : List ℕ
  deriving DecidableEq

/-! ### Building a pool -/

def maxCredentialScheduleSlotsPerPriorityTier : ℕ := 1024

def validateEntry (entry : EndpointCredentialInput) : Except CredentialPoolBuildError Unit := do
  ensure (decide (entry.credentialKind ≠ "")) .emptyCredentialKind
  ensure (decide (0 ≤ entry.credentialRevision)) .invalidCredentialRevision
  ensure (decide (0 ≤ entry.priority)) .invalidCredentialPriority
  ensure (decide (0 < entry.weight)) .invalidCredentialWeight
  ensure (decide (0 < entry.concurrency)) .invalidCredentialConcurrency
  ensure (entry.expiresAtMs.all fun expiresAtMs => decide (0 ≤ expiresAtMs))
    .invalidCredentialExpiry

/-- The Credentials taken over so far. -/
structure Assembly where
  credentials : List CredentialSlot
  byPriority : Tiers.Groups CredentialSlot
  previousId : Option CredentialId

/-- One turn of the loop over the sorted entries. -/
def addCredential (assembly : Assembly) (entry : EndpointCredentialInput) :
    Except CredentialPoolBuildError Assembly := do
  validateEntry entry
  ensure (decide (assembly.previousId ≠ some entry.credentialId)) .duplicateCredential
  let credential : CredentialSlot := {
    credentialId := entry.credentialId
    credentialKind := entry.credentialKind
    credentialRevision := entry.credentialRevision.toNat
    priority := entry.priority
    weight := entry.weight.toNat
    maximumConcurrency := entry.concurrency.toNat
    expiresAtMs := entry.expiresAtMs
    activeLeases := 0 }
  return {
    credentials := assembly.credentials ++ [credential]
    byPriority := push (·.priority) assembly.byPriority (credential, assembly.credentials.length)
    previousId := some entry.credentialId }

def smoothWeightedSlots (entries : List (CredentialSlot × ℕ)) :
    Except CredentialPoolBuildError (List ℕ) := do
  -- the source compares with the limit weight by weight; the weights are positive, so the whole sum
  -- decides
  ensure (decide ((entries.map (·.1.weight)).sum ≤ maxCredentialScheduleSlotsPerPriorityTier))
    .credentialScheduleTooLarge
  return weightedSlots (fun credential => (credential.weight : ℤ)) entries

def compileTier (group : ℤ × List (CredentialSlot × ℕ)) :
    Except CredentialPoolBuildError CredentialPriorityTier := do
  let slotIndexes ← smoothWeightedSlots group.2
  return { priority := group.1, slotIndexes }

def sortedById (entries : List EndpointCredentialInput) : List EndpointCredentialInput :=
  entries.insertionSort fun left right => (compare left.credentialId right.credentialId).isLE

def build (entries : List EndpointCredentialInput) :
    Except CredentialPoolBuildError (List CredentialSlot × List CredentialPriorityTier) := do
  ensure (!entries.isEmpty) .emptyCredentialPool
  let assembly ← (sortedById entries).foldlM addCredential ⟨[], ∅, none⟩
  let priorityTiers ← assembly.byPriority.toList.mapM compileTier
  return (assembly.credentials, priorityTiers)

def Valid (credentials : List CredentialSlot) (tiers : List CredentialPriorityTier) : Prop :=
  ∀ tier ∈ tiers, ∀ i ∈ tier.slotIndexes, i < credentials.length

/-- The groups are those of the Credentials taken over. -/
def Assembly.Sound (assembly : Assembly) : Prop :=
  Tiers.Grouped (·.priority) assembly.credentials.zipIdx assembly.byPriority

theorem Assembly.Sound.addCredential {assembly assembly' : Assembly}
    {entry : EndpointCredentialInput} (h : assembly.Sound)
    (hadd : CredentialPool.addCredential assembly entry = .ok assembly') : assembly'.Sound := by
  simp only [CredentialPool.addCredential, except_ok] at hadd
  obtain ⟨-, -, -, -, rfl⟩ := hadd
  rw [Sound, List.zipIdx_append, Nat.zero_add]
  exact h.push _

variable {entries : List EndpointCredentialInput}
  {built : List CredentialSlot × List CredentialPriorityTier}

theorem graded_of_build (h : build entries = .ok built) :
    built.2.Pairwise (·.priority < ·.priority) ∧
      ∀ tier ∈ built.2, ∀ i ∈ tier.slotIndexes,
        ∃ credential, built.1[i]? = some credential ∧ credential.priority = tier.priority := by
  simp only [build, except_ok] at h
  obtain ⟨-, -, assembly, hassembly, tiers, htiers, rfl⟩ := h
  have hsound : assembly.Sound := foldlM_ok (fun _ assembly => assembly.Sound) hassembly []
    grouped_nil fun _ _ _ _ h hstep => h.addCredential hstep
  constructor
  · refine ascending_of_mapM (·.priority) htiers fun group tier hcompile => ?_
    simp only [compileTier, except_ok] at hcompile
    obtain ⟨_, -, rfl⟩ := hcompile
    rfl
  · intro tier htier i hi
    obtain ⟨group, hgroup, hcompile⟩ := mem_left_of_mapM_ok htiers htier
    simp only [compileTier, smoothWeightedSlots, except_ok] at hcompile
    obtain ⟨_, ⟨-, -, rfl⟩, rfl⟩ := hcompile
    have hslot : i ∈ weightedSlots (fun credential => (credential.weight : ℤ)) group.2 := hi
    obtain ⟨⟨credential, _⟩, hentry, rfl⟩ := of_mem_weightedSlots hslot
    rw [(hsound.mem_toList.mp hgroup).1, List.mem_filter, List.mem_zipIdx_iff_getElem?] at hentry
    exact ⟨credential, hentry.1, of_decide_eq_true hentry.2⟩

theorem valid_of_build (h : build entries = .ok built) : Valid built.1 built.2 := by
  intro tier htier i hi
  obtain ⟨_, hget, -⟩ := (graded_of_build h).2 tier htier i hi
  exact (List.getElem?_eq_some_iff.mp hget).1

/-! ### Pools -/

structure EndpointCredentialPool where
  endpointId : EndpointId
  credentials : List CredentialSlot
  priorityTiers : List CredentialPriorityTier
  cursors : List UInt64
  valid : Valid credentials priorityTiers
  aligned : cursors.length = priorityTiers.length

namespace EndpointCredentialPool

def tryNew (endpointId : EndpointId) (entries : List EndpointCredentialInput) :
    Except CredentialPoolBuildError EndpointCredentialPool :=
  match h : build entries with
  | .error e => .error e
  | .ok built => .ok {
      endpointId
      credentials := built.1
      priorityTiers := built.2
      cursors := built.2.map fun _ => 0
      valid := valid_of_build h
      aligned := List.length_map _ }

end EndpointCredentialPool

/-- What a lease shows of the Credential it holds a place of. -/
structure CredentialLease where
  credentialId : CredentialId
  credentialKind : String
  credentialRevision : ℕ
  deriving DecidableEq

def CredentialSlot.lease (credential : CredentialSlot) : CredentialLease where
  credentialId := credential.credentialId
  credentialKind := credential.credentialKind
  credentialRevision := credential.credentialRevision

/-- The probe of a slot by a search for a lease: takes a place if the Credential is eligible and has
one. -/
def probeLease (isEligible : CredentialSlot → Bool) (i : ℕ) (credentials : List CredentialSlot) :
    Step CredentialLease × List CredentialSlot :=
  match credentials[i]? with
  | none => (.stop, credentials)
  | some credential =>
    if isEligible credential && credential.hasCapacity then
      (.found credential.lease,
        credentials.set i { credential with activeLeases := credential.activeLeases + 1 })
    else (.next, credentials)

theorem length_probeLease (isEligible : CredentialSlot → Bool) (i : ℕ)
    (credentials : List CredentialSlot) :
    (probeLease isEligible i credentials).2.length = credentials.length := by
  unfold probeLease
  split
  · rfl
  · split_ifs
    · exact List.length_set
    · rfl

def probePeek (credentials : List CredentialSlot) (isEligible : CredentialSlot → Bool) (i : ℕ)
    (s : Unit) : Step CredentialSlot × Unit :=
  match credentials[i]? with
  | none => (.stop, s)
  | some credential =>
    if isEligible credential && credential.hasCapacity then (.found credential, s) else (.next, s)

namespace EndpointCredentialPool

variable (pool : EndpointCredentialPool)

/-- Searches the tiers from their cursors for a lease. -/
def tryLeaseSlots (isEligible : CredentialSlot → Bool) :
    Option CredentialLease × EndpointCredentialPool :=
  let answer := scanTiers (·.slotIndexes) (probeLease isEligible) pool.priorityTiers pool.cursors
    pool.credentials
  have hlength : answer.2.2.length = pool.credentials.length :=
    scanTiers_preserves (fun credentials => credentials.length = pool.credentials.length)
      (fun i credentials h => (length_probeLease isEligible i credentials).trans h) _ _ _ _ rfl
  (answer.1.toOption, { pool with
    credentials := answer.2.2
    cursors := answer.2.1
    valid := fun tier htier i hi => hlength ▸ pool.valid tier htier i hi
    aligned := (length_scanTiers ..).trans pool.aligned })

/-- A search that passes over the Credentials that are expired at `nowMs`. -/
def tryLeaseEligibleAt (nowMs : ℤ) (isEligible : CredentialId → Bool) :
    Option CredentialLease × EndpointCredentialPool :=
  pool.tryLeaseSlots fun credential =>
    (credential.expiresAtMs.all fun expiresAtMs => decide (nowMs < expiresAtMs)) &&
      isEligible credential.credentialId

/-- The first eligible Credential with a free place, when every tier is visited from `start`. -/
def peekEligibleFrom (start : UInt64) (isEligible : CredentialId → Bool) : Option CredentialSlot :=
  (scanTiers (·.slotIndexes) (probePeek pool.credentials (isEligible ·.credentialId))
    pool.priorityTiers (pool.priorityTiers.map fun _ => start) ()).1.toOption

/-- The end of a lease of one of the Credentials. -/
def release (credentialId : CredentialId) : EndpointCredentialPool :=
  { pool with
    credentials := pool.credentials.map fun credential =>
      if credential.credentialId = credentialId then
        { credential with activeLeases := credential.activeLeases - 1 }
      else credential
    valid := by
      intro tier htier i hi
      rw [List.length_map]
      exact pool.valid tier htier i hi }

end EndpointCredentialPool

/-! ### What a search finds -/

namespace EndpointCredentialPool

variable (pool : EndpointCredentialPool) (cursors : List UInt64)
  (isEligible : CredentialSlot → Bool)

/-- The Credentials in the order in which a search from the cursors visits them. -/
def visited : List CredentialSlot :=
  (order (·.slotIndexes) pool.priorityTiers cursors).filterMap (pool.credentials[·]?)

/-- The first eligible Credential with a free place. -/
def firstFrom : Option CredentialSlot :=
  (pool.visited cursors).find? fun credential => isEligible credential && credential.hasCapacity

/-- The pool after `n` searches that found nothing. -/
def passed (n : ℕ) : EndpointCredentialPool :=
  { pool with
    cursors := pool.cursors.map (· + UInt64.ofNat n)
    aligned := (List.length_map _).trans pool.aligned }

variable {pool cursors isEligible}

section Scan

variable {credentials : List CredentialSlot} {l : List ℕ} (hl : ∀ i ∈ l, i < credentials.length)

include hl

theorem scan_probePeek :
    (scan (probePeek credentials isEligible) l ()).1.toOption =
      (l.filterMap (credentials[·]?)).find? fun credential =>
        isEligible credential && credential.hasCapacity := by
  refine (scan_first fun i hi => ⟨_, List.getElem?_eq_getElem (hl i hi), ?_⟩).1.trans Option.map_id'
  simp only [probePeek, List.getElem?_eq_getElem (hl i hi)]
  split_ifs <;> rfl

/-- A search for a lease takes a place of what a peek would show, or takes nothing. -/
theorem scan_probeLease :
    ((scan (probeLease isEligible) l credentials).1.toOption =
      ((l.filterMap (credentials[·]?)).find? fun credential =>
        isEligible credential && credential.hasCapacity).map (·.lease)) ∧
    ((scan (probeLease isEligible) l credentials).1.toOption = none →
      scan (probeLease isEligible) l credentials = (.next, credentials)) := by
  refine scan_first fun i hi => ⟨_, List.getElem?_eq_getElem (hl i hi), ?_⟩
  simp only [probeLease, List.getElem?_eq_getElem (hl i hi)]
  split_ifs <;> rfl

end Scan

theorem lt_of_mem_order {i : ℕ} (h : i ∈ order (·.slotIndexes) pool.priorityTiers cursors) :
    i < pool.credentials.length := by
  obtain ⟨tier, htier, hi⟩ := of_mem_order h
  exact pool.valid tier htier i hi

theorem tryLeaseSlots_fst :
    (pool.tryLeaseSlots isEligible).1 = (pool.firstFrom pool.cursors isEligible).map (·.lease) := by
  have hscan := scanTiers_eq_scan (·.slotIndexes) (probeLease isEligible) pool.priorityTiers
    pool.cursors pool.credentials
  rw [tryLeaseSlots, congrArg Prod.fst hscan]
  exact (scan_probeLease fun _ => lt_of_mem_order).1

theorem tryLeaseSlots_snd (h : (pool.tryLeaseSlots isEligible).1 = none) :
    (pool.tryLeaseSlots isEligible).2 = pool.passed 1 := by
  have hscan := scanTiers_eq_scan (·.slotIndexes) (probeLease isEligible) pool.priorityTiers
    pool.cursors pool.credentials
  have hnone : (scan (probeLease isEligible) (order (·.slotIndexes) pool.priorityTiers pool.cursors)
      pool.credentials).1.toOption = none := by
    rw [← hscan]
    exact h
  rw [(scan_probeLease fun _ => lt_of_mem_order).2 hnone, Prod.mk.injEq] at hscan
  have hcursors := cursors_of_next pool.aligned hscan.1
  simp [tryLeaseSlots, passed, hscan.2, hcursors]

theorem passed_zero : pool.passed 0 = pool := by
  have hcursors : pool.cursors.map (· + UInt64.ofNat 0) = pool.cursors := by simp
  simp only [passed, hcursors]

theorem peekEligibleFrom_eq (start : UInt64) (isEligible : CredentialId → Bool) :
    pool.peekEligibleFrom start isEligible =
      pool.firstFrom (pool.priorityTiers.map fun _ => start) (isEligible ·.credentialId) := by
  have hscan := scanTiers_eq_scan (·.slotIndexes)
    (probePeek pool.credentials (isEligible ·.credentialId)) pool.priorityTiers
    (pool.priorityTiers.map fun _ => start) ()
  rw [peekEligibleFrom, congrArg Prod.fst hscan]
  exact scan_probePeek fun _ => lt_of_mem_order

theorem of_firstFrom {credential : CredentialSlot}
    (h : pool.firstFrom cursors isEligible = some credential) :
    credential ∈ pool.credentials ∧ isEligible credential ∧ credential.hasCapacity := by
  obtain ⟨i, -, hget⟩ := List.mem_filterMap.mp (List.mem_of_find?_eq_some h)
  have hfound := List.find?_some h
  exact ⟨List.mem_of_getElem? hget, Bool.and_eq_true_iff.mp hfound⟩

theorem firstFrom_congr {isEligible' : CredentialSlot → Bool}
    (h : ∀ credential ∈ pool.credentials, credential.hasCapacity →
      isEligible credential = isEligible' credential) :
    pool.firstFrom cursors isEligible = pool.firstFrom cursors isEligible' := by
  refine List.find?_congr fun credential hmem => ?_
  obtain ⟨i, -, hget⟩ := List.mem_filterMap.mp hmem
  cases hcapacity : credential.hasCapacity with
  | false => simp
  | true => rw [h credential (List.mem_of_getElem? hget) hcapacity]

/-- Where no addition wraps, a search that finds nothing would find nothing from any cursors. -/
theorem firstFrom_eq_none (hlen : cursors.length = pool.priorityTiers.length)
    (hwrap : ∀ cursor ∈ cursors, ∀ tier ∈ pool.priorityTiers,
      cursor.toNat + tier.slotIndexes.length ≤ 2 ^ 64) :
    pool.firstFrom cursors isEligible = none ↔
      ∀ tier ∈ pool.priorityTiers, ∀ i ∈ tier.slotIndexes, ∀ credential,
        pool.credentials[i]? = some credential →
          (isEligible credential && credential.hasCapacity) = false := by
  simp only [firstFrom, visited, List.find?_eq_none, List.mem_filterMap, mem_order hlen hwrap,
    Bool.not_eq_true]
  constructor
  · intro h tier htier i hi credential hget
    exact h credential ⟨i, ⟨tier, htier, hi⟩, hget⟩
  · rintro h credential ⟨i, ⟨tier, htier, hi⟩, hget⟩
    exact h tier htier i hi credential hget

end EndpointCredentialPool

structure EndpointCredentialPools where
  pools : Std.TreeMap EndpointId EndpointCredentialPool

namespace EndpointCredentialPools

def tryNew (pools : List EndpointCredentialPool) :
    Except CredentialPoolBuildError EndpointCredentialPools := do
  let indexed ← pools.foldlM
    (fun (indexed : Std.TreeMap EndpointId EndpointCredentialPool) pool => do
    ensure (!indexed.contains pool.endpointId) CredentialPoolBuildError.duplicateEndpointPool
    return indexed.insert pool.endpointId pool) ∅
  return ⟨indexed⟩

variable (pools : EndpointCredentialPools)

def pool (endpointId : EndpointId) : Option EndpointCredentialPool := pools.pools[endpointId]?

def tryLeaseEligibleAt (endpointId : EndpointId) (nowMs : ℤ) (isEligible : CredentialId → Bool) :
    Option CredentialLease × EndpointCredentialPools :=
  match pools.pool endpointId with
  | none => (none, pools)
  | some pool =>
    let (lease, pool') := pool.tryLeaseEligibleAt nowMs isEligible
    (lease, ⟨pools.pools.insert endpointId pool'⟩)

/-- A lease of a Credential of the Endpoint is dropped: its place is free again. -/
def release (endpointId : EndpointId) (credentialId : CredentialId) : EndpointCredentialPools :=
  match pools.pool endpointId with
  | none => pools
  | some pool => ⟨pools.pools.insert endpointId (pool.release credentialId)⟩

end EndpointCredentialPools

end CpaGateway.Upstream.CredentialPool
