import CpaGateway.Grok.ContinuityBinding

/-! # What a replay key reads

A key reads the payload of its last write until the expiry in force. A write of the payload that is
already stored and has not expired is answered as a duplicate, and leaves the expiry as it was. -/

namespace CpaGateway.Grok.ReplayHistory

open Core.Identity Grok.Continuity Grok.ContinuityBinding Lib.Binding Lib.Effect Lib.Fallible
  Lib.Tables
open Store.Secrets

/-- A call that may change the replays. -/
inductive Call
  | write (nonce : Option Nonce) (key : GrokBuildReplayKey) (replay : GrokBuildReasoningReplay)
      (expiresAtMs updatedAtMs : ℤ)
  | clear (key : GrokBuildReplayKey)

/-- The payload and the expiry in force for a key. -/
abbrev InForce := Option (GrokBuildReasoningReplay × ℤ)

/-- What a write of the key leaves in force. -/
def written (before : InForce) (replay : GrokBuildReasoningReplay) (expiresAtMs : ℤ) :
    Except GrokBuildContinuityError GrokBuildReplayWriteOutcome → InForce
  | .ok .deduplicated => before.map fun s => (replay, s.2)
  | .ok _ => some (replay, expiresAtMs)
  | .error _ => before

section History

variable (store : SecretStore) (k : GrokBuildReplayKey)

/-- A call of the store, and what it leaves in force for `k`. -/
def step (s : ReplayTable × InForce) : Call → ReplayTable × InForce
  | .write nonce key replay expiresAtMs updatedAtMs =>
    let (outcome, replays) :=
      (writeReasoningReplay store nonce key replay expiresAtMs updatedAtMs).call s.1
    (replays, if key = k then written s.2 replay expiresAtMs outcome else s.2)
  | .clear key => (clearReasoningReplay key s.1, if key = k then none else s.2)

/-- The row of `k` has what is in force, and opens for it. -/
def Holds (s : ReplayTable × InForce) : Prop :=
  match s.2 with
  | none => loadReplayRow k s.1 = .ok none
  | some (replay, expiresAtMs) => ∃ row, loadReplayRow k s.1 = .ok (some row) ∧
    row.signature = grokBuildReplaySignature ∧ row.expiresAtMs = expiresAtMs ∧
      openRow store (utf8 (associatedText k)) row = .ok replay.payload

variable {store k} {key : GrokBuildReplayKey} {replays : ReplayTable} {s : ReplayTable × InForce}
  {nonce : Option Nonce} {nowMs expiresAtMs : ℤ} {encrypted : EncryptedSecret}

theorem tryFromPersisted_ok {version : KeyVersion} {ciphertext : Bytes} :
    EncryptedSecret.tryFromPersisted version ciphertext = .ok encrypted ↔
      encrypted.keyVersion = version ∧ encrypted.ciphertext = ciphertext := by
  obtain ⟨version', ciphertext', hvalid⟩ := encrypted
  unfold EncryptedSecret.tryFromPersisted
  split
  · simp [eq_comm]
  · rename_i herror
    refine iff_of_false nofun ?_
    rintro ⟨-, rfl⟩
    rw [herror] at hvalid
    cases hvalid

theorem openRow_sealSecret (hideal : store.cipher.Ideal) {plaintext a : Bytes} (signature : String)
    (expiresAtMs : ℤ) (h : store.sealSecret nonce plaintext a = .ok encrypted) :
    openRow store a ⟨signature, encrypted.keyVersion, encrypted.ciphertext, expiresAtMs⟩ =
      .ok plaintext := by
  have hpersisted := tryFromPersisted_ok.mpr ⟨Eq.refl encrypted.keyVersion, rfl⟩
  simp only [SecretStore.sealSecret, except_ok, tryFromPersisted_ok] at h
  obtain ⟨-, hnonempty, n, rfl, key, hkey, ciphertext, hencrypt, hversion, hbytes⟩ := h
  have hopen := hideal.decrypt_iff.mpr hencrypt
  have htake : (n.bytes ++ ciphertext).take nonceBytes = n.bytes := List.take_left' n.length
  have hdrop : (n.bytes ++ ciphertext).drop nonceBytes = ciphertext := List.drop_left' n.length
  simp only [openRow, hpersisted, SecretStore.openSecret, except_ok]
  refine ⟨encrypted, rfl, (), hnonempty, key, hversion ▸ hkey, ?_⟩
  rw [hbytes, Nat.add_comm 1, List.drop_succ_cons, List.drop_succ_cons, List.drop_zero,
    htake, hdrop, hopen]

theorem Holds.read (h : Holds store k s) (hnow : 0 < nowMs) :
    reasoningReplay store k nowMs s.1 = .ok ((s.2.filter (nowMs < ·.2)).map Prod.fst) := by
  rcases s with ⟨replays, _ | ⟨replay, expiresAtMs⟩⟩
  · simp only [Holds] at h
    simp [reasoningReplay, h, hnow, ensure]
  · obtain ⟨row, hload, hsignature, rfl, hopen⟩ := h
    by_cases hlive : nowMs < row.expiresAtMs
    · rw [reasoningReplay_of_row hnow hload hlive hsignature, hopen]
      simp [GrokBuildReasoningReplay.tryNew, replay.nonempty, replay.short, hlive, Except.map]
    · simp [reasoningReplay, hload, hnow, ensure, not_lt.mp hlive]

theorem Holds.congr (h : Holds store k s)
    (hlookup : replays.lookup k.columns = s.1.lookup k.columns) : Holds store k (replays, s.2) := by
  simpa only [Holds, loadReplayRow, hlookup] using h

theorem loadReplayRow_insert (version : KeyVersion) (signature : String) (ciphertext : Bytes)
    (updatedAtMs : ℤ) :
    loadReplayRow k (replays.insert k.columns
        ⟨signature, version.asSqliteI64, ciphertext, expiresAtMs, updatedAtMs⟩) =
      .ok (some ⟨signature, version, ciphertext, expiresAtMs⟩) := by
  have hbound : version.value.toNat < 4294967296 := version.value.toNat_lt
  have hversion : KeyVersion.tryFromSqliteI64 version.asSqliteI64 = .ok version := by
    simp [KeyVersion.tryFromSqliteI64, KeyVersion.asSqliteI64, hbound, version.positive]
  simp only [loadReplayRow, AList.lookup_insert]
  rw [hversion]
  rfl

theorem Holds.write (hideal : store.cipher.Ideal) (h : Holds store k s)
    (replay : GrokBuildReasoningReplay) (updatedAtMs : ℤ) :
    Ends (writeReasoningReplay store nonce key replay expiresAtMs updatedAtMs) s.1
      fun outcome replays =>
      Holds store k (replays, if key = k then written s.2 replay expiresAtMs outcome else s.2) := by
  have hkept {e : GrokBuildContinuityError} :
      Holds store k (s.1, if key = k then written s.2 replay expiresAtMs (.error e) else s.2) := by
    rwa [written, ite_self]
  refine ends_ensure_bind (fun _ => ?_) fun _ => hkept
  rw [replayAssociatedData_eq]
  refine ends_lift_bind (fun associatedData hassociated => ?_) fun _ _ => hkept
  cases hassociated
  refine ends_get_bind (ends_lift_bind (fun existing hload => ?_) fun _ _ => hkept)
  refine ends_lift_bind (fun duplicate hduplicate => ?_) fun _ _ => hkept
  cases duplicate with
  | true =>
    refine ends_pure ?_
    split_ifs with heq
    · subst heq
      rcases existing with _ | row
      · cases hduplicate
      rcases s with ⟨replays, _ | ⟨stored, e⟩⟩
      · simp [Holds, hload] at h
      obtain ⟨row', hload', hsignature, hexpires, -⟩ := h
      cases hload.symm.trans hload'
      simp only [isDuplicate, except_ok, Bool.and_eq_true, decide_eq_true_eq] at hduplicate
      obtain ⟨-, -, payload, hopen, -, rfl⟩ := hduplicate
      exact ⟨row, hload, hsignature, hexpires, hopen⟩
    · exact h
  | false =>
    refine ends_mapError_bind (fun encrypted hseal => ends_modify_bind (ends_pure ?_)) fun _ =>
      hkept
    by_cases heq : key = k
    · subst heq
      have hopen := openRow_sealSecret hideal grokBuildReplaySignature expiresAtMs hseal
      rw [if_pos rfl]
      cases existing <;> exact ⟨_, loadReplayRow_insert .., rfl, rfl, hopen⟩
    · rw [if_neg heq]
      exact h.congr (by rw [lookup_insert, if_neg fun h => heq (columns_inj.mp h).symm])

theorem Holds.step (hideal : store.cipher.Ideal) (h : Holds store k s) (call : Call) :
    Holds store k (step store k s call) := by
  cases call with
  | write nonce key replay expiresAtMs updatedAtMs => exact h.write hideal replay updatedAtMs
  | clear key =>
    simp only [ReplayHistory.step, clearReasoningReplay]
    split_ifs with heq
    · simp [Holds, loadReplayRow, heq]
    · exact h.congr (by rw [lookup_erase, if_neg fun h => heq (columns_inj.mp h).symm])

/-- **A read returns what is in force**: after any calls, the payload of the last write of the key
that succeeded and was not cleared, before the expiry of that write or, for a duplicate, the one
before. -/
theorem reads_in_force (hideal : store.cipher.Ideal) (calls : List Call) (k : GrokBuildReplayKey)
    (hnow : 0 < nowMs) :
    reasoningReplay store k nowMs (calls.foldl (step store k) (∅, none)).1 =
      .ok (((calls.foldl (step store k) (∅, none)).2.filter (nowMs < ·.2)).map Prod.fst) := by
  refine Holds.read (List.foldlRecOn calls _ ?_ fun s h call _ => h.step hideal call) hnow
  simp [Holds, loadReplayRow]

end History

/-- The sample payload, written again with another expiry. -/
def sampleRewrite : Except GrokBuildContinuityError GrokBuildReplayWriteOutcome × ReplayTable :=
  (writeReasoningReplay sampleStore none taggedKey sampleReplay 200 2).call sampleReplays

theorem duplicate_keeps_expiry : sampleRewrite.1 = .ok .deduplicated ∧
    reasoningReplay sampleStore taggedKey 150 sampleRewrite.2 = .ok none := by
  decide +kernel

def otherReplay : GrokBuildReasoningReplay := ⟨[4], by decide, by decide⟩

/-- A write, its payload again with a later expiry, a write of another key, another payload, and a
clear. -/
def sampleCalls : List Call :=
  let nonce := some sampleNonce
  [.write nonce taggedKey sampleReplay 100 1, .write nonce taggedKey sampleReplay 200 2,
    .write nonce otherKey sampleReplay 300 3, .write nonce taggedKey otherReplay 400 4,
    .clear taggedKey]

/-- What a key reads after the first `n` calls. -/
def sampleRead (n : ℕ) (key : GrokBuildReplayKey) (nowMs : ℤ) :
    Except GrokBuildContinuityError (Option GrokBuildReasoningReplay) :=
  reasoningReplay sampleStore key nowMs
    ((sampleCalls.take n).foldl (step sampleStore key) (∅, none)).1

theorem reads_in_force_sample :
    sampleRead 3 taggedKey 50 = .ok (some sampleReplay) ∧ sampleRead 3 taggedKey 150 = .ok none ∧
      sampleRead 4 taggedKey 150 = .ok (some otherReplay) ∧ sampleRead 5 taggedKey 150 = .ok none ∧
      sampleRead 5 otherKey 150 = .ok (some sampleReplay) := by
  have hread : ∀ n key nowMs, 0 < nowMs → sampleRead n key nowMs = _ := fun n key _ hnow =>
    reads_in_force sampleCipher_ideal (sampleCalls.take n) key hnow
  refine ⟨?_, ?_, ?_, ?_, ?_⟩
  all_goals exact (hread _ _ _ (by decide)).trans (by decide +kernel)

end CpaGateway.Grok.ReplayHistory
