import CpaGateway.Grok.Continuity

/-! # What a replay is bound to

A stored replay opens for another key exactly when both keys have the same associated data. The
client key stands behind its length there, but model and session are only separated by a colon,
which both may contain: a key is `Shifted` from another one if its model takes the other's separator
in. -/

namespace CpaGateway.Grok.ContinuityBinding

open Core.Identity Grok.Continuity Lib.Binding Lib.Fallible Lib.Tables
open Store.Secrets GrokBuildReasoningReplay

/-! ### Associated data -/

/-- The model of `k` is that of `k'` with a part of the session of `k'` behind it. -/
def Shifted (k k' : GrokBuildReplayKey) : Prop :=
  k.clientKeyId = k'.clientKeyId ∧ ∃ part, k.upstreamModel = k'.upstreamModel ++ ":" ++ part ∧
    k'.sessionId = part ++ ":" ++ k.sessionId

section Associated

variable {k k' : GrokBuildReplayKey}

theorem columns_inj : k.columns = k'.columns ↔ k = k' := by
  refine ⟨fun h => ?_, fun h => h ▸ rfl⟩
  obtain ⟨⟨_, _⟩, _, _, _, _, _⟩ := k
  cases h
  rfl

theorem colon_not_mem_repr (n : ℕ) : ':' ∉ n.repr.toList := by
  intro h
  rw [Nat.toList_repr] at h
  exact absurd (Nat.isDigit_of_mem_toDigits (by decide) (by decide) h) (by decide)

theorem repr_injective : Function.Injective Nat.repr := by
  intro n m h
  have hdigits := congrArg (fun text => Nat.ofDigitChars 10 text.toList 0) h
  simpa using hdigits

theorem toList_colon : ":".toList = [':'] := by decide

/-- What stands before the model in the associated data. -/
def associatedStart (clientKeyId : ClientKeyId) : String :=
  replayDomain ++ (clientKeyId.asStr.utf8ByteSize.repr ++ (":" ++ (clientKeyId.asStr ++ ":")))

theorem associatedText_eq (k : GrokBuildReplayKey) :
    associatedText k = associatedStart k.clientKeyId ++
      (k.upstreamModel ++ ":" ++ k.sessionId) := by
  rw [associatedText, associatedStart]
  simp [String.append_assoc]

theorem associatedStart_append_inj {c c' : ClientKeyId} {r r' : String}
    (h : associatedStart c ++ r = associatedStart c' ++ r') : c = c' ∧ r = r' := by
  have hchars := congrArg String.toList h
  simp only [associatedStart, String.toList_append, List.append_assoc, List.append_cancel_left_eq,
    toList_colon, List.cons_append] at hchars
  obtain ⟨hlength, hrest⟩ := append_cons_inj_of_not_mem (colon_not_mem_repr _)
    (colon_not_mem_repr _) hchars
  have hsize := repr_injective (String.toList_inj.mp hlength)
  have htext : c.asStr ++ (":" ++ r) = c'.asStr ++ (":" ++ r') := by
    apply String.toList_inj.mp
    simpa only [String.toList_append, toList_colon, List.cons_append, List.nil_append] using hrest
  have hbytes := congrArg utf8 htext
  obtain ⟨hclient, hafter⟩ := List.append_inj hbytes (by simpa using hsize)
  exact ⟨Identifier.ext (utf8_injective hclient),
    utf8_injective (List.append_cancel_left hafter)⟩

theorem shifted_of_toList {t : List Char} (hclient : k.clientKeyId = k'.clientKeyId)
    (hmodel : k.upstreamModel.toList = k'.upstreamModel.toList ++ ':' :: t)
    (hsession : k'.sessionId.toList = t ++ ':' :: k.sessionId.toList) : Shifted k k' := by
  refine ⟨hclient, .ofList t, ?_, ?_⟩
  · apply String.toList_inj.mp
    rw [hmodel, String.toList_append, String.toList_append]
    simp
  · apply String.toList_inj.mp
    rw [hsession, String.toList_append, String.toList_append]
    simp

theorem Shifted.associatedText_eq (h : Shifted k k') : associatedText k = associatedText k' := by
  obtain ⟨hclient, part, hmodel, hsession⟩ := h
  rw [ContinuityBinding.associatedText_eq, ContinuityBinding.associatedText_eq, hclient,
    hmodel, hsession]
  simp [String.append_assoc]

/-- **Two keys have the same associated data** exactly when they are equal or one is shifted from
the other. -/
theorem associatedText_inj_iff :
    associatedText k = associatedText k' ↔ k = k' ∨ Shifted k k' ∨ Shifted k' k := by
  constructor
  · intro h
    rw [associatedText_eq, associatedText_eq] at h
    obtain ⟨hclient, hrest⟩ := associatedStart_append_inj h
    have hchars := congrArg String.toList hrest
    simp only [String.toList_append, List.append_assoc, toList_colon, List.cons_append,
      List.nil_append] at hchars
    rcases append_cons_eq_iff.mp hchars with ⟨hmodel, hsession⟩ | ⟨t, hmodel, hsession⟩ |
      ⟨t, hmodel, hsession⟩
    · refine .inl (columns_inj.mp ?_)
      rw [GrokBuildReplayKey.columns, hclient, String.toList_inj.mp hmodel,
        String.toList_inj.mp hsession]
      rfl
    · exact .inr (.inl (shifted_of_toList hclient hmodel hsession))
    · exact .inr (.inr (shifted_of_toList hclient.symm hmodel hsession))
  · rintro (rfl | h | h)
    · rfl
    · exact h.associatedText_eq
    · exact h.associatedText_eq.symm

theorem utf8ByteSize_of_isBounded {n : ℕ} {value : String} (h : isBounded n value = true) :
    value.utf8ByteSize ≤ n := by
  simp only [isBounded, Bool.and_eq_true, decide_eq_true_eq] at h
  exact h.1.2

theorem length_repr_le {n : ℕ} (h : n ≤ maxDurableIdentifierBytes) : n.repr.utf8ByteSize ≤ 3 := by
  have hall : ∀ m ≤ maxDurableIdentifierBytes, m.repr.utf8ByteSize ≤ 3 := by decide
  exact hall n h

theorem replayAssociatedData_eq (k : GrokBuildReplayKey) :
    replayAssociatedData k = .ok (utf8 (associatedText k)) := by
  have hclient := utf8ByteSize_of_isBounded k.clientValid
  have hmodel := utf8ByteSize_of_isBounded k.modelValid
  have hsession := utf8ByteSize_of_isBounded k.sessionValid
  have hrepr := length_repr_le hclient
  have hstart : replayDomain.utf8ByteSize = 21 := by decide
  have hcolon : ":".utf8ByteSize = 1 := by decide
  have hsize : (associatedText k).utf8ByteSize ≤ maxAssociatedDataBytes := by
    simp only [associatedText, String.utf8ByteSize_append]
    simp only [maxDurableIdentifierBytes, maxContinuityIdentifierBytes, maxAssociatedDataBytes] at *
    omega
  have hnonempty : utf8 (associatedText k) ≠ [] := by
    intro hnil
    have hlength := congrArg List.length hnil
    simp only [length_utf8, associatedText, String.utf8ByteSize_append, List.length_nil] at hlength
    omega
  simp only [replayAssociatedData, except_ok]
  simp [hnonempty, hsize]

end Associated

/-! ### Copied rows -/

/-- The row of one key, stored under another key as well. -/
def copyRow (k k' : GrokBuildReplayKey) (replays : ReplayTable) : ReplayTable :=
  match replays.lookup k.columns with
  | some row => replays.insert k'.columns row
  | none => replays

section Copies

variable {store : SecretStore} {k k' : GrokBuildReplayKey} {replays : ReplayTable} {nowMs : ℤ}
  {replay : GrokBuildReasoningReplay} {row : PersistedReplayRow} {a a' plaintext : Bytes}

theorem loadReplayRow_copyRow (h : loadReplayRow k replays = .ok (some row)) :
    loadReplayRow k' (copyRow k k' replays) = .ok (some row) := by
  unfold loadReplayRow at h
  split at h
  · cases h
  · rename_i found hfound
    have hcopied : (copyRow k k' replays).lookup k'.columns = some found := by
      rw [copyRow, hfound]
      exact AList.lookup_insert _
    rw [loadReplayRow, hcopied]
    exact h

theorem openRow_other (hideal : store.cipher.Ideal) (h : openRow store a row = .ok plaintext)
    (ha' : a' ≠ []) :
    openRow store a' row = if a' = a then .ok plaintext else .error .secretStoreFailure := by
  simp only [openRow, except_ok] at h
  obtain ⟨encrypted, hencrypted, hopen⟩ := h
  have hunfold : openRow store a' row =
      (store.openSecret encrypted a').mapError fun _ => .secretStoreFailure := by
    rw [openRow, hencrypted]
    rfl
  rw [hunfold, SecretStore.openSecret_other hideal hopen ha']
  split_ifs <;> rfl

theorem reasoningReplay_some (h : reasoningReplay store k nowMs replays = .ok (some replay)) :
    0 < nowMs ∧ ∃ row, loadReplayRow k replays = .ok (some row) ∧ nowMs < row.expiresAtMs ∧
      row.signature = grokBuildReplaySignature ∧ ∃ plaintext,
        openRow store (utf8 (associatedText k)) row = .ok plaintext ∧
          tryNew plaintext = .ok replay := by
  simp only [reasoningReplay, except_ok, decide_eq_true_eq] at h
  obtain ⟨-, hnow, found, hload, h⟩ := h
  refine ⟨hnow, ?_⟩
  split at h
  · cases h
  · rename_i row
    split_ifs at h with hexpired
    · cases h
    · simp only [replayAssociatedData_eq, ok_bind, except_ok, decide_eq_true_eq] at h
      obtain ⟨-, hsignature, plaintext, hopen, hnew⟩ := h
      obtain ⟨replay', hreplay, heq⟩ := map_ok hnew
      cases heq
      exact ⟨row, hload, not_le.mp hexpired, hsignature, plaintext, hopen, hreplay⟩

theorem reasoningReplay_of_row (hnow : 0 < nowMs) (hload : loadReplayRow k replays = .ok (some row))
    (hlive : nowMs < row.expiresAtMs) (hsignature : row.signature = grokBuildReplaySignature) :
    reasoningReplay store k nowMs replays = (do
      let plaintext ← openRow store (utf8 (associatedText k)) row
      (tryNew plaintext).map some) := by
  simp only [reasoningReplay, hload, replayAssociatedData_eq, ok_bind,
    if_neg (not_le.mpr hlive), hnow, hsignature]
  rfl

/-- **A copied row is read by a key with the same associated data**, and by no other. -/
theorem reasoningReplay_copyRow (hideal : store.cipher.Ideal)
    (h : reasoningReplay store k nowMs replays = .ok (some replay)) :
    reasoningReplay store k' nowMs (copyRow k k' replays) =
      if associatedText k' = associatedText k then .ok (some replay)
        else .error .secretStoreFailure := by
  obtain ⟨hnow, row, hload, hlive, hsignature, plaintext, hopen, hnew⟩ := reasoningReplay_some h
  have hnonempty : utf8 (associatedText k') ≠ [] := by
    have hk' := replayAssociatedData_eq k'
    simp only [replayAssociatedData, except_ok, Bool.and_eq_true, bne_iff_ne] at hk'
    exact hk'.choose_spec.1.1
  rw [reasoningReplay_of_row hnow (loadReplayRow_copyRow hload) hlive hsignature,
    openRow_other hideal hopen hnonempty]
  by_cases heq : associatedText k' = associatedText k
  · rw [if_pos (congrArg utf8 heq), if_pos heq, ok_bind, hnew]
    rfl
  · rw [if_neg fun hbytes => heq (utf8_injective hbytes), if_neg heq, error_bind]

end Copies

/-! ### Cache identities -/

theorem macField_ok {value : String} {bytes : Bytes} (h : macField value = .ok bytes) :
    (utf8 value).length < 256 ^ 2 ∧ bytes = field 2 (utf8 value) := by
  simp only [macField, except_ok] at h
  obtain ⟨-, hsize, rfl⟩ := h
  exact ⟨by simpa using hsize, rfl⟩

theorem cacheIdentityInput_ok {c : ClientKeyId} {model key : String} {input : Bytes}
    (h : cacheIdentityInput c model key = .ok input) :
    (∀ bytes ∈ [c.asStr, model, key].map utf8, bytes.length < 256 ^ 2) ∧
      input = cacheIdentityDomain ++ ([c.asStr, model, key].map utf8).flatMap (field 2) := by
  simp only [cacheIdentityInput, validateIdentifier, except_ok] at h
  obtain ⟨-, -, model', ⟨-, -, rfl⟩, key', ⟨-, -, rfl⟩, fields, hfields, rfl⟩ := h
  simp only [List.mapM_cons, List.mapM_nil, except_ok] at hfields
  obtain ⟨b₁, h₁, _, ⟨b₂, h₂, _, ⟨b₃, h₃, _, rfl, rfl⟩, rfl⟩, rfl⟩ := hfields
  obtain ⟨hsize₁, rfl⟩ := macField_ok h₁
  obtain ⟨hsize₂, rfl⟩ := macField_ok h₂
  obtain ⟨hsize₃, rfl⟩ := macField_ok h₃
  refine ⟨?_, by simp⟩
  intro bytes hmem
  simp only [List.map_cons, List.map_nil, List.mem_cons, List.not_mem_nil, or_false] at hmem
  rcases hmem with rfl | rfl | rfl
  · exact hsize₁
  · exact hsize₂
  · exact hsize₃

/-- **No two triples are derived from the same bytes.** -/
theorem cacheIdentityInput_inj {c c' : ClientKeyId} {model model' key key' : String} {input : Bytes}
    (h : cacheIdentityInput c model key = .ok input)
    (h' : cacheIdentityInput c' model' key' = .ok input) :
    c = c' ∧ model = model' ∧ key = key' := by
  obtain ⟨hsizes, hinput⟩ := cacheIdentityInput_ok h
  obtain ⟨hsizes', hinput'⟩ := cacheIdentityInput_ok h'
  have hfields := List.append_cancel_left (hinput.symm.trans hinput')
  have hlists := flatMap_field_injective (by decide) hsizes hsizes' hfields
  simp only [List.map_cons, List.cons.injEq, and_true] at hlists
  exact ⟨Identifier.ext (utf8_injective hlists.1), utf8_injective hlists.2.1,
    utf8_injective hlists.2.2⟩

/-! ### The binding -/

/-- **Two replay keys are kept apart unless one is shifted from the other**: their associated data
differ, and a row that opens for one of them and is copied to the other does not open there. The
bytes of a cache identity keep all triples apart. -/
theorem replay_separated_iff {store : SecretStore} (hideal : store.cipher.Ideal)
    {k k' : GrokBuildReplayKey} (hne : k ≠ k') :
    (replayAssociatedData k ≠ replayAssociatedData k' ↔ ¬(Shifted k k' ∨ Shifted k' k)) ∧
      (∀ replays nowMs replay, reasoningReplay store k nowMs replays = .ok (some replay) →
        (reasoningReplay store k' nowMs (copyRow k k' replays) = .error .secretStoreFailure ↔
          ¬(Shifted k k' ∨ Shifted k' k))) ∧
      ∀ (c c' : ClientKeyId) (model model' key key' : String) (input input' : Bytes),
        (c, model, key) ≠ (c', model', key') → cacheIdentityInput c model key = .ok input →
          cacheIdentityInput c' model' key' = .ok input' → input ≠ input' := by
  have hsame : associatedText k = associatedText k' ↔ Shifted k k' ∨ Shifted k' k := by
    rw [associatedText_inj_iff, or_iff_right hne]
  refine ⟨?_, ?_, ?_⟩
  · rw [replayAssociatedData_eq, replayAssociatedData_eq, ne_eq, Except.ok.injEq,
      utf8_injective.eq_iff, hsame]
  · intro replays nowMs replay hread
    rw [reasoningReplay_copyRow hideal hread, ← hsame]
    by_cases heq : associatedText k' = associatedText k
    · simp [heq]
    · simp [heq, Ne.symm heq]
  · rintro c c' model model' key key' input _ hdistinct hinput hinput' rfl
    obtain ⟨rfl, rfl, rfl⟩ := cacheIdentityInput_inj hinput hinput'
    exact hdistinct rfl

/-! ### A replay that another session reads -/

/-- A cipher that writes the associated data in front of the message. -/
def openlySealed (associated : Bytes) : Bytes := List.replicate aeadTagBytes 0 ++ field 8 associated

def sampleCipher : Aead MasterKey where
  encrypt _ _ message associated :=
    if associated.length < 256 ^ 8 then some (openlySealed associated ++ message) else none
  decrypt _ _ ciphertext associated :=
    if associated.length < 256 ^ 8 ∧ (openlySealed associated).isPrefixOf ciphertext then
      some (ciphertext.drop (openlySealed associated).length)
    else none

theorem sampleCipher_ideal : sampleCipher.Ideal where
  decrypt_iff := by
    intro k n c a m
    simp only [sampleCipher, List.isPrefixOf_iff_prefix]
    constructor
    · intro h
      split_ifs at h with hboth
      obtain ⟨hlength, rest, rfl⟩ := hboth
      rw [Option.some.injEq, List.drop_left] at h
      rw [if_pos hlength, h]
    · intro h
      split_ifs at h with hlength
      rw [Option.some.injEq] at h
      subst h
      rw [if_pos ⟨hlength, List.prefix_append _ _⟩, List.drop_left]
  separates := by
    intro k n m m' a a' c h h'
    simp only [sampleCipher] at h h'
    split_ifs at h h' with hlength hlength'
    rw [Option.some.injEq] at h h'
    rw [← h', openlySealed, openlySealed, List.append_assoc, List.append_assoc] at h
    exact (field_append_inj hlength hlength' (List.append_cancel_left h)).1

def sampleStore : SecretStore where
  cipher := sampleCipher
  keyRing :=
    { activeKeyVersion := ⟨1, by decide⟩
      keys := fun _ => some ⟨List.replicate 32 0, rfl⟩
      activeLoaded := rfl }

def sampleKey (model session : String)
    (hmodel : isBounded maxContinuityIdentifierBytes model = true)
    (hsession : isBounded maxContinuityIdentifierBytes session = true) : GrokBuildReplayKey :=
  ⟨⟨"client", by decide⟩, model, session, by decide +kernel, hmodel, hsession⟩

/-- The session `s` of a model whose name has a colon. -/
def taggedKey : GrokBuildReplayKey :=
  sampleKey "grok:fast" "s" (by decide +kernel) (by decide +kernel)

/-- The session `fast:s` of a model. -/
def plainKey : GrokBuildReplayKey :=
  sampleKey "grok" "fast:s" (by decide +kernel) (by decide +kernel)

def sampleReplay : GrokBuildReasoningReplay := ⟨[1, 2, 3], by decide, by decide⟩

def sampleNonce : Nonce := ⟨List.replicate 24 0, rfl⟩

/-- The replays after one write. -/
def sampleReplays : ReplayTable :=
  ((writeReasoningReplay sampleStore (some sampleNonce) taggedKey sampleReplay 100 1).call ∅).2

/-- The two keys are different and accepted, and the second reads what was written for the first. -/
theorem shifted_key_reads_replay :
    taggedKey ≠ plainKey ∧ replayAssociatedData taggedKey = replayAssociatedData plainKey ∧
      reasoningReplay sampleStore plainKey 50 (copyRow taggedKey plainKey sampleReplays) =
        .ok (some sampleReplay) := by
  decide +kernel

/-- The session `s` of the model without a colon. -/
def otherKey : GrokBuildReplayKey := sampleKey "grok" "s" (by decide +kernel) (by decide +kernel)

theorem replay_separated_iff_sample :
    taggedKey ≠ otherKey ∧
      reasoningReplay sampleStore taggedKey 50 sampleReplays = .ok (some sampleReplay) ∧
      reasoningReplay sampleStore otherKey 50 (copyRow taggedKey otherKey sampleReplays) =
        .error .secretStoreFailure := by
  have hne : taggedKey ≠ otherKey := by decide +kernel
  have hread : reasoningReplay sampleStore taggedKey 50 sampleReplays =
      .ok (some sampleReplay) := by
    decide +kernel
  obtain ⟨hdata, hcopies, -⟩ := @replay_separated_iff sampleStore sampleCipher_ideal _ _ hne
  have hapart : ¬(Shifted taggedKey otherKey ∨ Shifted otherKey taggedKey) :=
    hdata.mp (by decide +kernel)
  exact ⟨hne, hread, (hcopies _ _ _ hread).mpr hapart⟩

end CpaGateway.Grok.ContinuityBinding
