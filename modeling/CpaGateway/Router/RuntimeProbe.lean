import CpaGateway.Lib.Smoothing
import CpaGateway.Lib.Transition
import CpaGateway.Router.RuntimeHealth

/-! # The registry of probe results

For every target the registry keeps moving averages of the success of its probes, in thousandths,
and of their latency. Observations are registered one by one, under the lock of the shard of their
target. The result of a half-open probe is registered once the health registry has taken it, by
`nextSnapshot` too. -/

namespace CpaGateway.Router.RuntimeProbe

open Lib.Effect Lib.Fallible Lib.Sharded Lib.Smoothing Lib.Transition Router.RuntimeHealth

/-- A whole, in thousandths. -/
def runtimeHealthProbeEwmaScalePerMille : UInt16 := 1000

/-- What is probed: it has the forms of the key of its health. -/
abbrev RuntimeHealthProbeTarget := RuntimeHealthKey

/-- How a probe ended, and after what time. -/
inductive RuntimeHealthProbeOutcome
  | succeeded (latencyMs : UInt64)
  | failed (latencyMs : UInt64)

namespace RuntimeHealthProbeOutcome

def latencyMs : RuntimeHealthProbeOutcome → UInt64
  | succeeded latencyMs | failed latencyMs => latencyMs

/-- All or nothing. -/
def successSamplePerMille : RuntimeHealthProbeOutcome → UInt16
  | succeeded _ => runtimeHealthProbeEwmaScalePerMille
  | failed _ => 0

end RuntimeHealthProbeOutcome

/-- What is kept for a target. -/
structure RuntimeHealthProbeSnapshot where
  target : RuntimeHealthProbeTarget
  observations : ℕ
  lastObservedAtMs : ℤ
  lastOutcome : RuntimeHealthProbeOutcome
  successEwmaPerMille : UInt16
  latencyEwmaMs : UInt64

/-- The weight of a new sample, in thousandths. -/
structure RuntimeHealthProbePolicy where
  ewmaAlphaPerMille : UInt16
  nonzero : ewmaAlphaPerMille ≠ 0
  convex : ¬ ewmaAlphaPerMille > runtimeHealthProbeEwmaScalePerMille

inductive RuntimeHealthProbePolicyError
  | zeroEwmaAlpha
  | ewmaAlphaTooLarge

/-- Takes a weight that is positive and at most a whole. -/
def RuntimeHealthProbePolicy.tryNew (ewmaAlphaPerMille : UInt16) :
    Except RuntimeHealthProbePolicyError RuntimeHealthProbePolicy :=
  if hzero : ewmaAlphaPerMille = 0 then .error .zeroEwmaAlpha
  else if hlarge : ewmaAlphaPerMille > runtimeHealthProbeEwmaScalePerMille
    then .error .ewmaAlphaTooLarge
  else .ok ⟨ewmaAlphaPerMille, hzero, hlarge⟩

/-- Why an observation is not registered. -/
inductive RuntimeHealthProbeError
  | observationTimeRegressed
  | observationCountOverflow
  | shardCapacityExceeded

/-! ### The averages -/

def maxU128 : ℕ := 2 ^ 128 - 1

/-- A product of 128 bits. -/
def saturatingMul (a b : ℕ) : ℕ := min (a * b) maxU128

/-- A sum of 128 bits. -/
def saturatingAdd (a b : ℕ) : ℕ := min (a + b) maxU128

/-- The weighted mean, rounded to the nearest. -/
def ewmaU64 (previous sample : UInt64) (alphaPerMille : UInt16) : UInt64 :=
  let scale := runtimeHealthProbeEwmaScalePerMille.toNat
  let alpha := alphaPerMille.toNat
  let retained := scale - alpha
  let numerator := saturatingAdd (saturatingMul previous.toNat retained)
    (saturatingMul sample.toNat alpha)
  let rounded := saturatingAdd numerator (scale / 2) / scale
  if rounded < 2 ^ 64 then .ofNat rounded else .ofNat (2 ^ 64 - 1)

/-- The same for 16 bits. -/
def ewmaU16 (previous sample alphaPerMille : UInt16) : UInt16 :=
  let average := (ewmaU64 previous.toUInt64 sample.toUInt64 alphaPerMille).toNat
  if average < 2 ^ 16 then .ofNat average else runtimeHealthProbeEwmaScalePerMille

/-! ### The registry -/

/-- The results of all targets, in shards. -/
structure RuntimeHealthProbeRegistry where
  policy : RuntimeHealthProbePolicy
  snapshots : Store RuntimeHealthProbeTarget RuntimeHealthProbeSnapshot

/-- No results yet. -/
def withPolicyAndShards (hash : RuntimeHealthProbeTarget → ℕ) (policy : RuntimeHealthProbePolicy)
    (shardCount : ℕ) : RuntimeHealthProbeRegistry :=
  ⟨policy, .empty (maskedIndex hash shardCount)⟩

/-- The averages with one more observation; the first is taken as it is. -/
def nextSnapshot (snapshots : Store RuntimeHealthProbeTarget RuntimeHealthProbeSnapshot)
    (target : RuntimeHealthProbeTarget) (outcome : RuntimeHealthProbeOutcome) (observedAtMs : ℤ)
    (policy : RuntimeHealthProbePolicy) :
    Except RuntimeHealthProbeError RuntimeHealthProbeSnapshot :=
  match snapshots.get? target with
  | some previous => do
    ensure (!decide (observedAtMs < previous.lastObservedAtMs)) .observationTimeRegressed
    ensure (decide (previous.observations + 1 < 2 ^ 64)) .observationCountOverflow
    return {
      target
      observations := previous.observations + 1
      lastObservedAtMs := observedAtMs
      lastOutcome := outcome
      successEwmaPerMille := ewmaU16 previous.successEwmaPerMille outcome.successSamplePerMille
        policy.ewmaAlphaPerMille
      latencyEwmaMs := ewmaU64 previous.latencyEwmaMs outcome.latencyMs policy.ewmaAlphaPerMille }
  | none => do
    ensure (!decide (snapshots.count target ≥ maxRuntimeHealthEntriesPerShard))
      .shardCapacityExceeded
    return {
      target
      observations := 1
      lastObservedAtMs := observedAtMs
      lastOutcome := outcome
      successEwmaPerMille := outcome.successSamplePerMille
      latencyEwmaMs := outcome.latencyMs }

/-- Registers an observation. -/
def record (target : RuntimeHealthProbeTarget) (outcome : RuntimeHealthProbeOutcome)
    (observedAtMs : ℤ) :
    Method RuntimeHealthProbeRegistry RuntimeHealthProbeError RuntimeHealthProbeSnapshot := do
  let r ← get
  let next ← liftM (nextSnapshot r.snapshots target outcome observedAtMs r.policy)
  modify fun r => { r with snapshots := r.snapshots.insert target next }
  return next

/-! ### What the averages are -/

abbrev RuntimeHealthProbePolicy.alpha (policy : RuntimeHealthProbePolicy) : ℕ :=
  policy.ewmaAlphaPerMille.toNat

/-- The two averages of a target. -/
inductive Measure
  | success
  | latency

namespace Measure

/-- What an observation contributes. -/
def sample : Measure → RuntimeHealthProbeOutcome → ℕ
  | success, outcome => outcome.successSamplePerMille.toNat
  | latency, outcome => outcome.latencyMs.toNat

/-- What a snapshot has. -/
def average : Measure → RuntimeHealthProbeSnapshot → ℕ
  | success, snapshot => snapshot.successEwmaPerMille.toNat
  | latency, snapshot => snapshot.latencyEwmaMs.toNat

theorem average_lt (m : Measure) (snapshot : RuntimeHealthProbeSnapshot) :
    m.average snapshot < 2 ^ 64 := by
  cases m with
  | success => exact snapshot.successEwmaPerMille.toNat_lt.trans (by decide)
  | latency => exact snapshot.latencyEwmaMs.toNat_lt

end Measure

/-- An observation is registered. -/
def Registers (r : RuntimeHealthProbeRegistry) (next : RuntimeHealthProbeSnapshot)
    (r' : RuntimeHealthProbeRegistry) : Prop :=
  ∃ target outcome observedAtMs, (record target outcome observedAtMs).call r = (.ok next, r')

/-- The samples registered for a target. -/
def samplesOf (m : Measure) (target : RuntimeHealthProbeTarget)
    (tr : List RuntimeHealthProbeSnapshot) : List ℕ :=
  (tr.filter (·.target = target)).map (m.sample ·.lastOutcome)

variable {r r' : RuntimeHealthProbeRegistry} {policy : RuntimeHealthProbePolicy}
  {next : RuntimeHealthProbeSnapshot} {tr : List RuntimeHealthProbeSnapshot}
  {target : RuntimeHealthProbeTarget} {outcome : RuntimeHealthProbeOutcome} {observedAtMs : ℤ}

theorem alpha_le (policy : RuntimeHealthProbePolicy) : policy.alpha ≤ 1000 :=
  UInt16.not_lt.mp policy.convex

theorem sum_le {α p s : ℕ} (hα : α ≤ 1000) (hp : p < 2 ^ 64) (hs : s < 2 ^ 64) :
    p * (1000 - α) + s * α + 500 ≤ maxU128 := by
  have hp' := Nat.mul_le_mul_right (1000 - α) hp.le
  have hs' := Nat.mul_le_mul_right α hs.le
  unfold maxU128
  omega

theorem rounded_eq {α p s : ℕ} (h : p * (1000 - α) + s * α + 500 ≤ maxU128) :
    saturatingAdd (saturatingAdd (saturatingMul p (1000 - α)) (saturatingMul s α)) 500 / 1000 =
      blend 1000 α p s := by
  have hretained : p * (1000 - α) ≤ maxU128 := by omega
  have htaken : s * α ≤ maxU128 := by omega
  have hboth : p * (1000 - α) + s * α ≤ maxU128 := by omega
  simp only [saturatingAdd, saturatingMul, Nat.min_eq_left, *]
  rfl

theorem toNat_ewmaU64 (previous sample : UInt64) :
    (ewmaU64 previous sample policy.ewmaAlphaPerMille).toNat =
      blend 1000 policy.alpha previous.toNat sample.toNat := by
  have hp := previous.toNat_lt
  have hs := sample.toNat_lt
  have hle := blend_le (by decide) (alpha_le policy) (Nat.le_sub_one_of_lt hp)
    (Nat.le_sub_one_of_lt hs)
  have hlt : blend 1000 policy.alpha previous.toNat sample.toNat < 2 ^ 64 := by omega
  have hrounded := rounded_eq (sum_le (alpha_le policy) hp hs)
  change (if _ / _ < _ then UInt64.ofNat (_ / _) else _).toNat = _
  erw [hrounded]
  rw [if_pos hlt]
  exact UInt64.toNat_ofNat_of_lt hlt

theorem toNat_ewmaU16 (previous sample : UInt16) :
    (ewmaU16 previous sample policy.ewmaAlphaPerMille).toNat =
      blend 1000 policy.alpha previous.toNat sample.toNat := by
  have hle := blend_le (by decide) (alpha_le policy) (Nat.le_sub_one_of_lt previous.toNat_lt)
    (Nat.le_sub_one_of_lt sample.toNat_lt)
  have hlt : blend 1000 policy.alpha previous.toNat sample.toNat < 2 ^ 16 := by omega
  have haverage : _ = blend 1000 policy.alpha _ _ := toNat_ewmaU64 previous.toUInt64 sample.toUInt64
  simp only [ewmaU16, haverage, UInt16.toNat_toUInt64, if_pos hlt]
  exact UInt16.toNat_ofNat_of_lt hlt

/-- What is registered: the outcome, and the averages with it. -/
theorem record_ok (h : (record target outcome observedAtMs).call r = (.ok next, r')) :
    r' = { r with snapshots := r.snapshots.insert target next } ∧
      next.target = target ∧ next.lastOutcome = outcome ∧ ∀ m : Measure, m.average next =
        (r.snapshots.get? target).elim (m.sample outcome)
          fun previous => blend 1000 r.policy.alpha (m.average previous) (m.sample outcome) := by
  simp only [record, call_ok] at h
  obtain ⟨_, hnext, _, rfl, rfl⟩ := h
  unfold nextSnapshot at hnext
  split at hnext
  · rename_i hprevious
    simp only [except_ok] at hnext
    obtain ⟨-, -, -, -, rfl⟩ := hnext
    refine ⟨rfl, rfl, rfl, fun m => ?_⟩
    cases m <;> simp [hprevious, Measure.average, Measure.sample, toNat_ewmaU16, toNat_ewmaU64]
  · rename_i hnone
    simp only [except_ok] at hnext
    obtain ⟨-, -, rfl⟩ := hnext
    refine ⟨rfl, rfl, rfl, fun m => ?_⟩
    cases m <;> rw [hnone] <;> rfl

/-- The averages of every target are those of the samples registered for it. -/
def Averaged (policy : RuntimeHealthProbePolicy) (tr : List RuntimeHealthProbeSnapshot)
    (r : RuntimeHealthProbeRegistry) : Prop :=
  r.policy = policy ∧ ∀ target (m : Measure),
    (r.snapshots.get? target).map m.average = average 1000 policy.alpha (samplesOf m target tr)

theorem Averaged.step (h : Averaged policy tr r) (hr : Registers r next r') :
    Averaged policy (tr ++ [next]) r' := by
  obtain ⟨rfl, haverages⟩ := h
  obtain ⟨registered, outcome, observedAtMs, hrecord⟩ := hr
  obtain ⟨rfl, rfl, rfl, hnext⟩ := record_ok hrecord
  refine ⟨rfl, fun target m => ?_⟩
  by_cases heq : next.target = target
  · subst heq
    have hnew : samplesOf m next.target (tr ++ [next]) =
        samplesOf m next.target tr ++ [m.sample next.lastOutcome] := by simp [samplesOf]
    rw [hnew, average_snoc, ← haverages, Option.elim_map, Store.get?_insert, if_pos rfl]
    exact congrArg some (hnext m)
  · simpa [samplesOf, heq, Ne.symm heq] using haverages target m

/-- What is promised of an average: it is the rounded average of its samples and lies among them,
and with a further sample no sum saturates and the average moves towards the sample or stays. -/
structure Faithful (α : ℕ) (samples : List ℕ) (a : ℕ) : Prop where
  average : average 1000 α samples = some a
  between : (∃ lo ∈ samples, lo ≤ a) ∧ ∃ hi ∈ samples, a ≤ hi
  unsaturated : ∀ s < 2 ^ 64, a * (1000 - α) + s * α + 500 ≤ maxU128
  towards : ∀ s, min a s ≤ blend 1000 α a s ∧ blend 1000 α a s ≤ max a s

/-- The sample, repeated often enough, draws the average to within ten of it. -/
def Settles (α : ℕ) (samples : List ℕ) (s : ℕ) : Prop :=
  ∃ n a, average 1000 α (samples ++ List.replicate n s) = some a ∧ a ≤ s + 10 ∧ s ≤ a + 10

theorem faithful {samples : List ℕ} {a : ℕ} (ha : a < 2 ^ 64)
    (h : average 1000 policy.alpha samples = some a) : Faithful policy.alpha samples a where
  average := h
  between := average_between (by decide) (alpha_le policy) h
  unsaturated _ hs := sum_le (alpha_le policy) ha hs
  towards s := ⟨le_blend (by decide) (alpha_le policy) (min_le_left a s) (min_le_right a s),
    blend_le (by decide) (alpha_le policy) (le_max_left a s) (le_max_right a s)⟩

/-- **The averages do what they promise iff a new sample weighs at least 46 thousandths.** With
less, the success average of a target that was once well stops above ten, however often it fails. -/
theorem averages_faithful_iff (policy : RuntimeHealthProbePolicy) :
    (∀ hash shardCount tr r target snapshot,
      Run Registers (withPolicyAndShards hash policy shardCount) tr r →
      r.snapshots.get? target = some snapshot →
        (∀ m : Measure, Faithful policy.alpha (samplesOf m target tr) (m.average snapshot)) ∧
          ∀ outcome, Settles policy.alpha (samplesOf .success target tr)
          (Measure.success.sample outcome)) ↔
      46 ≤ policy.alpha := by
  constructor
  · intro h
    by_contra hsmall
    have hrun : Run Registers (withPolicyAndShards (fun _ => 0) policy 1) _ _ :=
      .cons ⟨.endpoint (.lit "e"), .succeeded 0, 0, rfl⟩ (.nil _)
    obtain ⟨-, hsettles⟩ := h _ _ _ _ (.endpoint (.lit "e")) _ hrun rfl
    obtain ⟨n, a, ha, hclose, -⟩ := hsettles (.failed 0)
    have hfirst : average 1000 policy.alpha [1000] = some 1000 := rfl
    obtain ⟨b, hb, hfar⟩ :=
      average_held (by decide) (alpha_le policy) (show 11 * policy.alpha ≤ 1000 / 2 by omega) hfirst
        (show 0 + 11 ≤ 1000 by decide) n
    cases ha.symm.trans hb
    exact absurd (hfar.trans hclose) (by decide)
  · intro hα hash shardCount tr r target snapshot hrun hsnapshot
    have hstart : Averaged policy [] (withPolicyAndShards hash policy shardCount) :=
      ⟨rfl, fun _ _ => rfl⟩
    obtain ⟨-, haverages⟩ := hrun.invariant hstart fun _ => Averaged.step
    have haverage : ∀ m : Measure,
        average 1000 policy.alpha (samplesOf m target tr) = some (m.average snapshot) :=
      fun m => (haverages target m).symm.trans (by rw [hsnapshot]; rfl)
    exact ⟨fun m => faithful (m.average_lt snapshot) (haverage m),
      fun outcome => average_settles (by decide) (alpha_le policy) (by omega) (haverage .success) _⟩

/-- With a weight of one thousandth an average that starts at success stays at one half or above,
whatever number of failures follows. -/
theorem failures_keep_half :
    (RuntimeHealthProbePolicy.tryNew 1).toOption.map (·.alpha) = some 1 ∧ ewmaU16 500 0 1 = 500 ∧
      ∀ n, ∃ a, average 1000 1 ([1000] ++ List.replicate n 0) = some a ∧ 500 ≤ a :=
  ⟨rfl, rfl, fun n => by
    simpa using average_held (d := 500) (s := 0) (by decide) (by decide) (by decide)
      (show average 1000 1 [1000] = some 1000 from rfl) (by decide) n⟩

end CpaGateway.Router.RuntimeProbe
