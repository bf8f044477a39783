import CpaGateway.Chat.UpstreamResponse
import CpaGateway.Lib.Feed

/-! # Network segmentation of a Chat stream

The search for the end of a frame prefers a line feed pair to a carriage return pair anywhere before
it, so a buffer that holds both kinds can be cut in another place than a buffer that is searched
earlier. Where no buffer is mixed in that way, a body is read the same in any chunks. -/

namespace CpaGateway.Chat.Segmentation

open Chat.UpstreamResponse Core.Error Core.Events Core.Json Core.Sse Lib.Effect
open Lib.Feed Lib.Framing Chat.UpstreamResponse.ChatMachine OpenAiChatSseDecoder Consumer

/-! ### Frames do not look at the queue -/

variable {serde : SerdeJson}

section Queue

/-- The events that were not returned yet. -/
def queue : Queue CanonicalEvent ChatMachine where
  pending := ChatMachine.pending
  put events m := { m with pending := events }

variable {xs : List CanonicalEvent}

@[simp] theorem commutes_emit (e : CanonicalEvent) : Commutes (queue.queued xs) (emit e) :=
  commutes_get_bind (fun _ => rfl) fun _ => commutes_bind (by simp) fun _ =>
    commutes_modify fun _ => by simp [queue, Queue.queued]

@[simp] theorem commutes_streaming : Commutes (queue.queued xs) streaming := by
  refine commutes_get_bind (fun _ => rfl) fun m => ?_
  rcases m.lifecycle with _ | _ | _ <;> simp

@[simp] theorem commutes_setLifecycle (l : StreamLifecycle) :
    Commutes (queue.queued xs) (setLifecycle l) := commutes_modify fun _ => rfl

@[simp] theorem commutes_setStreaming (s : StreamState) :
    Commutes (queue.queued xs) (setStreaming s) :=
  commutes_setLifecycle _

theorem commutes_enterChunk (id : String) (finalSummary : Bool) :
    Commutes (queue.queued xs) (enterChunk id finalSummary) := by
  refine commutes_get_bind (fun _ => rfl) fun m => ?_
  rcases m.lifecycle with _ | _ | _
  · repeat refine commutes_bind (by simp) fun _ => ?_
    simp
  all_goals simp

@[simp] theorem commutes_emitText (text : Option String) :
    Commutes (queue.queued xs) (emitText text) := by
  cases text
  · exact commutes_pure _
  · repeat refine commutes_bind (by simp) fun _ => ?_
    simp

@[simp] theorem commutes_emitFragment (callId delta : String) :
    Commutes (queue.queued xs) (emitFragment callId delta) := commutes_ite (by simp) (by simp)

theorem commutes_openTool (s : StreamState) (index : ℕ) (call : Map) :
    Commutes (queue.queued xs) (openTool s index call) := by
  repeat refine commutes_bind (by simp) fun _ => ?_
  simp

theorem commutes_appendTool (s : StreamState) (index : ℕ) (call : Map) :
    Commutes (queue.queued xs) (appendTool s index call) := by
  repeat refine commutes_bind (by simp) fun _ => ?_
  simp

theorem commutes_decodeToolDelta (value : Value) :
    Commutes (queue.queued xs) (decodeToolDelta value) := by
  repeat refine commutes_bind (by simp) fun _ => ?_
  exact commutes_ite (commutes_appendTool _ _ _) (commutes_openTool _ _ _)

@[simp] theorem commutes_decodeToolDeltas (calls : List Value) :
    Commutes (queue.queued xs) (decodeToolDeltas calls) := by
  induction calls with
  | nil => exact commutes_pure _
  | cons call calls ih => exact commutes_bind (commutes_decodeToolDelta call) fun _ => ih

theorem commutes_decodeDelta (delta : Map) (suppress : Bool) :
    Commutes (queue.queued xs) (decodeDelta delta suppress) := by
  repeat refine commutes_bind (by simp) fun _ => ?_
  simp

@[simp] theorem commutes_decodeChoiceDelta (choice : Map) (finalSummary : Bool) :
    Commutes (queue.queued xs) (decodeChoiceDelta choice finalSummary) := by
  refine commutes_get_bind (fun _ => rfl) fun m => ?_
  cases choice.get "delta"
  · simp
  · exact commutes_bind (by simp) fun _ => commutes_decodeDelta _ _

@[simp] theorem commutes_validateMessage (choice : Map) (finishReason : Option String) :
    Commutes (queue.queued xs) (validateMessage choice finishReason) := by
  unfold validateMessage
  cases choice.get "message"
  · simp
  · repeat refine commutes_bind (by simp) fun _ => ?_
    simp

theorem commutes_endTools (tools : List (ℕ × OpenTool)) :
    Commutes (queue.queued xs) (endTools serde tools) := by
  induction tools with
  | nil => exact commutes_pure _
  | cons tool tools ih =>
    repeat refine commutes_bind (by simp) fun _ => ?_
    exact ih

@[simp] theorem commutes_closeFinished (finishReason : Option String) :
    Commutes (queue.queued xs) (closeFinished serde finishReason) := by
  cases finishReason
  · exact commutes_pure _
  · repeat refine commutes_bind (by simp) fun _ => ?_
    refine commutes_bind (commutes_endTools _) fun _ => ?_
    repeat refine commutes_bind (by simp) fun _ => ?_
    simp

@[simp] theorem commutes_emitFinalUsage (value : Value) :
    Commutes (queue.queued xs) (emitFinalUsage value) := by
  repeat refine commutes_bind (by simp) fun _ => ?_
  simp

theorem commutes_decodeChoice (root choice : Map) (finalSummary : Bool) :
    Commutes (queue.queued xs) (decodeChoice serde root choice finalSummary) := by
  repeat refine commutes_bind (by simp) fun _ => ?_
  unfold emitReportedUsage
  split <;> simp

theorem commutes_decodeChoices (root : Map) (finalSummary : Bool) (choices : List Value) :
    Commutes (queue.queued xs) (decodeChoices serde root finalSummary choices) := by
  unfold decodeChoices
  split
  · exact commutes_bind (by simp) fun _ => by simp
  · exact commutes_bind (by simp) fun _ => commutes_decodeChoice _ _ _
  · simp

theorem commutes_decodeData (data : String) :
    Commutes (queue.queued xs) (decodeData serde data) := by
  refine commutes_ite ?_ ?_
  · repeat refine commutes_bind (by simp) fun _ => ?_
    simp
  · repeat refine commutes_bind (by simp) fun _ => ?_
    exact commutes_bind (commutes_enterChunk _ _) fun _ => commutes_bind (by simp) fun _ =>
      commutes_decodeChoices _ _ _

/-- **No frame looks at the queue.** -/
theorem commutes_decodeFrame (frame : List UInt8) :
    Commutes (queue.queued xs) (decodeFrame serde frame) := by
  repeat refine commutes_bind (by simp) fun _ => ?_
  exact commutes_ite (by simp) (commutes_decodeData _)

/-- The decoder as a consumer of frames. A frame after the end is consumed too. -/
def consumer (serde : SerdeJson) : Consumer UInt8 GatewayError CanonicalEvent ChatMachine where
  toQueue := queue
  delimiter := frameDelimiter
  consume := decodeFrame serde
  finished _ := false

end Queue

/-! ### The end of a frame -/

section Frames

/-- A line feed pair stands behind a carriage return pair. -/
def Mixed (l : List UInt8) : Prop :=
  ∃ i j, i < j ∧ [0x0d, 0x0a, 0x0d, 0x0a] <+: l.drop i ∧ [0x0a, 0x0a] <+: l.drop j

variable {l : List UInt8} {pattern : List UInt8}

theorem Mixed.of_drop {n : ℕ} (h : Mixed (l.drop n)) : Mixed l := by
  obtain ⟨i, j, hij, hi, hj⟩ := h
  rw [List.drop_drop] at hi hj
  exact ⟨n + i, n + j, by omega, hi, hj⟩

theorem not_mixed (h : 0x0d ∉ l) : ¬ Mixed l := by
  rintro ⟨i, j, -, hi, -⟩
  exact h (List.mem_of_mem_drop (hi.subset (by simp)))

theorem position_none (h : ∀ n, ¬ pattern <+: l.drop n) : position pattern l = none := by
  induction l with
  | nil => rfl
  | cons b rest ih =>
    have hfront : ¬ pattern <+: b :: rest := h 0
    rw [position, if_neg (by rwa [List.isPrefixOf_iff_prefix]), ih fun n => h (n + 1)]
    rfl

variable {b : UInt8}

theorem position_cons_front (h : pattern <+: b :: l) : position pattern (b :: l) = some 0 := by
  rw [position, if_pos (by rwa [List.isPrefixOf_iff_prefix])]

theorem position_cons (h : ¬ pattern <+: b :: l) :
    position pattern (b :: l) = (position pattern l).map (· + 1) := by
  rw [position, if_neg (by rwa [List.isPrefixOf_iff_prefix])]

theorem findFrame_cons (h : blankLine (b :: l) = none) :
    findFrame (b :: l) = (findFrame l).map fun found => (found.1 + 1, found.2) := by
  have hlf : ¬ [0x0a, 0x0a] <+: b :: l := by
    rintro ⟨rest, hrest⟩
    rw [← hrest] at h
    cases h
  have hcr : ¬ [0x0d, 0x0a, 0x0d, 0x0a] <+: b :: l := by
    rintro ⟨rest, hrest⟩
    rw [← hrest] at h
    cases h
  rw [findFrame, findFrame, position_cons hlf, position_cons hcr]
  rcases position [0x0a, 0x0a] l with _ | n
  · rcases position [0x0d, 0x0a, 0x0d, 0x0a] l with _ | n <;> rfl
  · rfl

theorem findFrame_stop {stop width : ℕ} (h : findFrame l = some (stop, width)) :
    stop < l.length := by
  rw [findFrame] at h
  split at h
  · rename_i hpos
    cases h
    exact position_length hpos
  · obtain ⟨n, hpos, heq⟩ := Option.map_eq_some_iff.mp h
    cases heq
    exact position_length hpos

/-- **The leftmost delimiter is found**, unless a line feed pair follows a carriage return pair. -/
theorem findFrame_of_unmixed (h : ¬ Mixed l) : findFrame l = frameDelimiter.scan 0 l := by
  induction l with
  | nil => rfl
  | cons b rest ih =>
    have hrest : ¬ Mixed rest := fun hm => h (Mixed.of_drop (n := 1) hm)
    rcases hb : blankLine (b :: rest) with _ | n
    · rw [findFrame_cons hb, ih hrest, Delimiter.scan_cons_none hb, Delimiter.scan_add]
    · rw [Delimiter.scan_cons_some hb]
      rcases blankLine_some hb with ⟨rfl, hp⟩ | ⟨rfl, hp⟩
      · rw [findFrame, position_cons_front hp]
      · -- no line feed pair may follow, and none stands at the front
        have hnone : position [0x0a, 0x0a] (b :: rest) = none := by
          refine position_none fun j hj => ?_
          rcases Nat.eq_zero_or_pos j with rfl | hpos
          · obtain ⟨t, ht⟩ := hp
            obtain ⟨u, hu⟩ := hj
            rw [← ht] at hu
            cases hu
          · exact h ⟨0, j, hpos, hp, hj⟩
        rw [findFrame, hnone, position_cons_front hp]
        rfl

end Frames

/-! ### Feeding bytes -/

variable {d : OpenAiChatSseDecoder}

section Feeding

open OpenAiChatSseDecoder

/-- Decoding the frames of the buffer comes to one that is too long. -/
inductive OversizedFrame (serde : SerdeJson) : OpenAiChatSseDecoder → Prop
  | here {d : OpenAiChatSseDecoder} {stop width : ℕ} :
    findFrame d.buffer = some (stop, width) → maxFrameBytes < stop → OversizedFrame serde d
  | next {d : OpenAiChatSseDecoder} {stop width : ℕ} {m : ChatMachine} :
    findFrame d.buffer = some (stop, width) → stop ≤ maxFrameBytes →
    (decodeFrame serde (d.buffer.take stop)).call d.machine = (.ok (), m) →
    OversizedFrame serde ⟨d.buffer.drop (stop + width), m⟩ → OversizedFrame serde d

/-- How many bytes the buffer has room for. -/
def available (d : OpenAiChatSseDecoder) : ℕ := maxFrameBytes + 4 - d.buffer.length

/-- The decoder with as many of the bytes as its buffer has room for. -/
def filled (d : OpenAiChatSseDecoder) (remaining : List UInt8) : OpenAiChatSseDecoder :=
  { d with buffer := d.buffer ++ remaining.take (available d) }

/-- Feeding the bytes reports the bound on a frame: the buffer is full, a frame is too long, or
bytes remain although no frame was complete. -/
inductive ReportsBound (serde : SerdeJson) : OpenAiChatSseDecoder → List UInt8 → Prop
  | full {d remaining} : remaining ≠ [] → available d = 0 → ReportsBound serde d remaining
  | oversized {d remaining} :
    remaining ≠ [] → OversizedFrame serde (filled d remaining) → ReportsBound serde d remaining
  | stuck {d d' remaining} :
    drainFrames serde (filled d remaining) false = (.ok false, d') →
    remaining.drop (available d) ≠ [] → ReportsBound serde d remaining
  | later {d d' remaining drained} :
    remaining ≠ [] → drainFrames serde (filled d remaining) false = (.ok drained, d') →
    ReportsBound serde d' (remaining.drop (available d)) → ReportsBound serde d remaining

/-- Feeding the bytes searches this buffer for frames. -/
inductive Searches (serde : SerdeJson) : OpenAiChatSseDecoder → List UInt8 → List UInt8 → Prop
  | now {d : OpenAiChatSseDecoder} {remaining : List UInt8} :
    remaining ≠ [] → Searches serde d remaining (filled d remaining).buffer
  | later {d d' : OpenAiChatSseDecoder} {remaining buffer : List UInt8} {drained : Bool} :
    remaining ≠ [] → drainFrames serde (filled d remaining) false = (.ok drained, d') →
    Searches serde d' (remaining.drop (available d)) buffer → Searches serde d remaining buffer

/-- No buffer that feeding the bytes searches is mixed. -/
def Unmixed (serde : SerdeJson) (d : OpenAiChatSseDecoder) (remaining : List UInt8) : Prop :=
  ∀ buffer, Searches serde d remaining buffer → ¬ Mixed buffer

variable {remaining : List UInt8}

theorem drainFrames_none (h : findFrame d.buffer = none) (drained : Bool) :
    drainFrames serde d drained = (.ok drained, d) := by
  rw [drainFrames]
  split <;> simp_all

theorem drainFrames_some {stop width : ℕ} (h : findFrame d.buffer = some (stop, width))
    (hle : stop ≤ maxFrameBytes) (drained : Bool) :
    drainFrames serde d drained =
      match (decodeFrame serde (d.buffer.take stop)).call d.machine with
      | (.error e, machine) => (.error e, ⟨d.buffer.drop (stop + width), machine⟩)
      | (.ok (), machine) => drainFrames serde ⟨d.buffer.drop (stop + width), machine⟩ true := by
  rw [drainFrames]
  split
  · rename_i h'
    rw [h] at h'
    cases h'
  · rename_i h'
    rw [h, Option.some.injEq] at h'
    obtain ⟨rfl, rfl⟩ := h'
    refine (if_neg (by omega)).trans ?_
    rcases (decodeFrame serde (d.buffer.take stop)).call d.machine with ⟨_ | _, _⟩ <;> rfl

theorem feed_nil : feed serde d [] = (.ok (), d) := by
  rw [feed, dif_pos rfl]

theorem feed_round (hne : remaining ≠ []) (hbound : ¬ ReportsBound serde d remaining) :
    feed serde d remaining =
      match drainFrames serde (filled d remaining) false with
      | (.error e, d') => (.error e, d')
      | (.ok _, d') => feed serde d' (remaining.drop (available d)) := by
  rw [feed, dif_neg hne]
  refine (dif_neg fun h => hbound (.full hne h)).trans ?_
  change (match drainFrames serde (filled d remaining) false with
    | (.error e, d') => (Except.error e, d')
    | (.ok drained, d') =>
      if remaining.drop (available d) ≠ [] && !drained then _ else feed serde d' _) = _
  rcases hd : drainFrames serde (filled d remaining) false with ⟨e | drained, d'⟩
  · rfl
  · have hstuck : (remaining.drop (available d) ≠ [] && !drained) = false := by
      cases drained
      · have : ¬ remaining.drop (available d) ≠ [] := fun h => hbound (.stuck hd h)
        simpa using this
      · simp
    simp only [hstuck]
    rfl

theorem drain_read (m : ChatMachine) (xs : List CanonicalEvent) (l : List UInt8) (drained : Bool)
    (hmixed : ¬ Mixed l) (hsize : ¬ OversizedFrame serde ⟨l, queue.queued xs m⟩) :
    (drainFrames serde ⟨l, queue.queued xs m⟩ drained).1.map (fun _ => ()) =
        Intake.result ((consumer serde).read m l) ∧
      (drainFrames serde ⟨l, queue.queued xs m⟩ drained).2 =
        ⟨((consumer serde).read m l).object.2,
          queue.queued (xs ++ ((consumer serde).read m l).events)
          ((consumer serde).read m l).object.1⟩ := by
  have hnext : frameDelimiter.next l =
      (findFrame l).map fun found => (l.take found.1, l.drop (found.1 + found.2)) := by
    rw [findFrame_of_unmixed hmixed]
    rfl
  rcases hf : findFrame l with _ | ⟨stop, width⟩
  · rw [hf] at hnext
    rw [drainFrames_none hf, read_none hnext, List.append_nil]
    exact ⟨rfl, rfl⟩
  · rw [hf] at hnext
    have hle : stop ≤ maxFrameBytes := by
      by_contra hlt
      exact hsize (.here hf (by omega))
    have hlt := findFrame_length hf
    have hcons := @commutes_decodeFrame serde xs (l.take stop) m
    rw [drainFrames_some hf hle]
    rcases hc : (decodeFrame serde (l.take stop)).call m with ⟨e | _, m'⟩
    · rw [hc] at hcons
      simp only [hcons]
      rw [read_failed rfl hnext hc, List.append_nil]
      exact ⟨rfl, rfl⟩
    · rw [hc, ← queue.queued_clear m', queue.queued_queued] at hcons
      have hrest := drain_read (queue.clear m') (xs ++ queue.pending m')
        (l.drop (stop + width)) true
        (fun h => hmixed h.of_drop) (fun h => hsize (.next hf hle hcons h))
      rw [List.append_assoc] at hrest
      simp only [hcons]
      rw [read_ok rfl hnext hc]
      exact hrest
termination_by l.length
decreasing_by exact hlt

/-- **Feeding bytes reads them.** The buffer matters only after a success. -/
theorem feed_read (m : ChatMachine) (xs : List CanonicalEvent) (b remaining : List UInt8)
    (hn : frameDelimiter.next b = none)
    (hbound : ¬ ReportsBound serde ⟨b, queue.queued xs m⟩ remaining)
    (hmixed : Unmixed serde ⟨b, queue.queued xs m⟩ remaining) :
    (feed serde ⟨b, queue.queued xs m⟩ remaining).1 =
        Intake.result ((consumer serde).read m (b ++ remaining)) ∧
      (feed serde ⟨b, queue.queued xs m⟩ remaining).2.machine =
        queue.queued (xs ++ ((consumer serde).read m (b ++ remaining)).events)
          ((consumer serde).read m (b ++ remaining)).object.1 ∧
      (((consumer serde).read m (b ++ remaining)).error = none →
        (feed serde ⟨b, queue.queued xs m⟩ remaining).2.buffer =
          ((consumer serde).read m (b ++ remaining)).object.2) := by
  by_cases hne : remaining = []
  · subst hne
    rw [feed_nil, List.append_nil, read_none hn, List.append_nil]
    exact ⟨rfl, rfl, fun _ => rfl⟩
  · let room := available ⟨b, queue.queued xs m⟩
    have hroom : room ≠ 0 := fun h => hbound (.full hne h)
    obtain ⟨hres, hobj⟩ := @drain_read serde m xs (b ++ remaining.take room) false
      (hmixed _ (.now hne)) fun h => hbound (.oversized hne h)
    have hsplit : b ++ remaining = b ++ remaining.take room ++ remaining.drop room := by
      rw [List.append_assoc, List.take_append_drop]
    have hstops := read_stops (C := consumer serde) m (b ++ remaining.take room)
    have hlater := @ReportsBound.later serde ⟨b, queue.queued xs m⟩
    have hsearch := @Searches.later serde ⟨b, queue.queued xs m⟩
    rw [feed_round hne hbound, hsplit]
    change (drainFrames serde (filled ⟨b, queue.queued xs m⟩ remaining) false).1.map _ = _ at hres
    change (drainFrames serde (filled ⟨b, queue.queued xs m⟩ remaining) false).2 = _ at hobj
    rcases hd : drainFrames serde (filled ⟨b, queue.queued xs m⟩ remaining) false with
        ⟨e | drained, d'⟩
    · rw [hd] at hres hobj
      have herr : ((consumer serde).read m (b ++ remaining.take room)).error = some e :=
        Intake.result_error.mp hres.symm
      rw [read_append_failed (by simp [herr])]
      simp only [more, Reading.map, Intake.result, herr, Option.map_some, id,
        show d' = _ from hobj]
      exact ⟨trivial, trivial, fun h => by cases h⟩
    · rw [hd] at hres hobj
      have herr : ((consumer serde).read m (b ++ remaining.take room)).error = none :=
        Intake.result_ok.mp hres.symm
      have hlt : (remaining.drop room).length < remaining.length := by
        have := List.length_pos_of_ne_nil hne
        rw [List.length_drop]
        omega
      rw [read_append_ok herr]
      have ih := feed_read _ _ _ (remaining.drop room)
        ((hstops herr).resolve_left (by simp [consumer]))
        (fun h => hbound (hlater hne hd (by rw [show d' = _ from hobj]; exact h)))
        (fun s hs => hmixed s (hsearch hne hd (by rw [show d' = _ from hobj]; exact hs)))
      simp only [show d' = _ from hobj]
      simpa only [Reading.before, List.append_assoc, Intake.result] using ih
termination_by remaining.length

/-! Short bodies never report the bound. -/

theorem not_oversizedFrame (h : d.buffer.length ≤ maxFrameBytes) : ¬ OversizedFrame serde d := by
  intro ho
  induction ho with
  | here hf hlt =>
    have := findFrame_stop hf
    omega
  | next hf _ _ _ ih =>
    refine ih ?_
    simp only [List.length_drop]
    omega

theorem not_reportsBound_nil : ¬ ReportsBound serde d [] := by
  rintro (⟨hne, -⟩ | ⟨hne, -⟩ | ⟨-, hne⟩ | ⟨hne, -, -⟩)
  · exact hne rfl
  · exact hne rfl
  · exact hne List.drop_nil
  · exact hne rfl

theorem not_reportsBound (h : d.buffer.length + remaining.length ≤ maxFrameBytes) :
    ¬ ReportsBound serde d remaining := by
  have hdrop : remaining.drop (available d) = [] := by
    rw [List.drop_eq_nil_iff, available]
    omega
  have hfilled : (filled d remaining).buffer.length ≤ maxFrameBytes := by
    simp only [filled, List.length_append, List.length_take]
    omega
  rintro (⟨-, hfull⟩ | ⟨-, ho⟩ | ⟨-, hne⟩ | ⟨-, -, hl⟩)
  · rw [available] at hfull
    omega
  · exact not_oversizedFrame hfilled ho
  · exact hne hdrop
  · rw [hdrop] at hl
    exact not_reportsBound_nil hl

theorem unmixed_of_fits (h : d.buffer.length + remaining.length ≤ maxFrameBytes)
    (hmixed : ¬ Mixed (d.buffer ++ remaining)) : Unmixed serde d remaining := by
  have hroom : remaining.length ≤ available d := by
    rw [available]
    omega
  rintro buffer (⟨-⟩ | ⟨-, -, hl⟩)
  · rwa [filled, List.take_of_length_le hroom]
  · rw [List.drop_eq_nil_of_le hroom] at hl
    rcases hl with ⟨hne⟩ | ⟨hne, -, -⟩ <;> exact absurd rfl hne

theorem drainFrames_length (d : OpenAiChatSseDecoder) (drained : Bool) :
    (drainFrames serde d drained).2.buffer.length ≤ d.buffer.length := by
  fun_induction drainFrames serde d drained with
  | case1 | case2 => exact le_rfl
  | case3 d _ stop width hf => exact (findFrame_length hf).le
  | case4 d _ stop width hf _ _ _ ih => exact ih.trans (findFrame_length hf).le

theorem feed_length (h : d.buffer.length + remaining.length ≤ maxFrameBytes) :
    (feed serde d remaining).2.buffer.length ≤ d.buffer.length + remaining.length := by
  by_cases hne : remaining = []
  · subst hne
    rw [feed_nil]
    exact Nat.le_add_right _ _
  · have hdrop : remaining.drop (available d) = [] := by
      rw [List.drop_eq_nil_iff, available]
      omega
    have hlen := @drainFrames_length serde (filled d remaining) false
    have hfilled : (filled d remaining).buffer.length ≤ d.buffer.length + remaining.length := by
      simp only [filled, List.length_append, List.length_take]
      omega
    rw [feed_round hne (not_reportsBound h), hdrop]
    rcases hd : drainFrames serde (filled d remaining) false with ⟨e | drained, d'⟩
    · rw [hd] at hlen
      exact hlen.trans hfilled
    · rw [hd] at hlen
      simp only [feed_nil]
      exact hlen.trans hfilled

end Feeding

/-! ### Whole bodies -/

section Drive

open OpenAiChatSseDecoder

/-- Pushes each chunk up to the first error, and finishes if there is none. -/
def drive (serde : SerdeJson) (d : OpenAiChatSseDecoder) : List (List UInt8) →
    Reading CanonicalEvent GatewayError OpenAiChatSseDecoder
  | [] => .ofCall (finish.call d)
  | chunk :: rest =>
    (Reading.ofCall ((push serde chunk).call d)).andThen fun d' => drive serde d' rest

/-- Every push of a drive is made where `P` holds. -/
def Along (P : OpenAiChatSseDecoder → List UInt8 → Prop) (serde : SerdeJson)
    (d : OpenAiChatSseDecoder) : List (List UInt8) → Prop
  | [] => True
  | chunk :: rest => P d chunk ∧
      ∀ events d', (push serde chunk).call d = (.ok events, d') → Along P serde d' rest

/-- No push reports the bound on a frame. -/
def Admissible (serde : SerdeJson) : OpenAiChatSseDecoder → List (List UInt8) → Prop :=
  Along (fun d chunk => ¬ ReportsBound serde d chunk) serde

/-- A push before the end that neither reports the bound nor searches a mixed buffer. If it comes to
a frame that fails, the frames before that one have no events. -/
structure RegularPush (serde : SerdeJson) (d : OpenAiChatSseDecoder) (chunk : List UInt8) :
    Prop where
  open_ : d.isFinished = false
  bound : ¬ ReportsBound serde d chunk
  unmixed : Unmixed serde d chunk
  lossless : ((consumer serde).read d.machine (d.buffer ++ chunk)).error ≠ none →
    ((consumer serde).read d.machine (d.buffer ++ chunk)).events = []

/-- All pushes are regular. -/
def Regular (serde : SerdeJson) : OpenAiChatSseDecoder → List (List UInt8) → Prop :=
  Along (RegularPush serde) serde

variable {chunk : List UInt8}

/-- **A push after the end is refused**, whatever the chunk holds. -/
theorem push_finished (h : d.isFinished = true) :
    (push serde chunk).call d = (.error protocolError, d) := by
  simp [push, call_eq, h]

theorem call_push (h : d.isFinished = false) :
    (push serde chunk).call d =
      match feed serde d chunk with
      | (.ok (), d') => (.ok d'.machine.pending, { d' with machine.pending := [] })
      | (.error e, d') => (.error e, d') := by
  simp only [push, call_eq, h, Bool.not_false, if_true, call_of]
  rcases feed serde d chunk with ⟨_ | _, d'⟩ <;> rfl

variable (chunks : List (List UInt8))

theorem admissible_of_fits (d : OpenAiChatSseDecoder)
    (h : d.buffer.length + chunks.flatten.length ≤ maxFrameBytes) : Admissible serde d chunks := by
  induction chunks generalizing d with
  | nil => trivial
  | cons chunk rest ih =>
    rw [List.flatten_cons, List.length_append] at h
    refine ⟨not_reportsBound (by omega), fun events d' hc => ih d' ?_⟩
    rcases hf : d.isFinished with _ | _
    · have hlen := @feed_length serde d chunk (by omega)
      rw [call_push hf] at hc
      rcases hfeed : feed serde d chunk with ⟨e | _, d''⟩ <;> rw [hfeed] at hc hlen
      · cases hc
      · cases hc
        simp only at hlen ⊢
        omega
    · rw [push_finished hf] at hc
      cases hc

/-- A decoder between two chunks: nothing is queued and no frame is complete. -/
structure Idle (d : OpenAiChatSseDecoder) : Prop where
  pending : d.machine.pending = []
  drained : frameDelimiter.next d.buffer = none

theorem idle_new : Idle new := ⟨rfl, rfl⟩

/-- The error a body ends with that left this machine and these bytes. -/
def finishError (s : ChatMachine × List UInt8) : Option GatewayError :=
  if s.2.all isAsciiWhitespace && s.1.state.finish.isOk && s.1.lifecycle.isFinished then none
  else some truncatedError

theorem call_finish_ok (h : finishError (d.machine, d.buffer) = none) :
    finish.call d = (.ok d.machine.pending, ⟨[], { d.machine with pending := [] }⟩) := by
  simp only [finishError, ite_eq_left_iff, reduceCtorEq, imp_false, not_not, Bool.and_eq_true] at h
  obtain ⟨⟨hw, hs⟩, hf⟩ := h
  rcases hfin : d.machine.state.finish with e | u
  · simp [hfin, Except.toBool] at hs
  · simp only [finish, call_eq, hw, hfin, if_true, Except.mapError,
      show d.isFinished = true from hf]
    rfl

theorem call_finish_error (h : finishError (d.machine, d.buffer) ≠ none) :
    ∃ d', finish.call d = (.error truncatedError, d') := by
  rcases hw : d.buffer.all isAsciiWhitespace with _ | _
  · exact ⟨d, by simp [finish, call_eq, hw]⟩
  · rcases hs : d.machine.state.finish with e | u
    · simp [finish, call_eq, hw, hs, Except.mapError]
    · have hf : d.isFinished = false := by
        by_contra hf
        refine h ?_
        simp [finishError, hw, hs, Except.isOk, Except.toBool,
          show d.machine.lifecycle.isFinished = true from (Bool.not_eq_false _).mp hf]
      simp [finish, call_eq, hw, hs, hf, Except.mapError]

theorem drive_nil (h : Idle d) :
    (drive serde d []).events = [] ∧
      (drive serde d []).error = finishError (d.machine, d.buffer) := by
  by_cases hnone : finishError (d.machine, d.buffer) = none
  · rw [drive, call_finish_ok hnone, hnone, h.pending]
    exact ⟨rfl, rfl⟩
  · obtain ⟨d', hcall⟩ := call_finish_error hnone
    rw [drive, hcall]
    refine ⟨rfl, ?_⟩
    rw [finishError] at hnone ⊢
    split_ifs at hnone ⊢ with hc
    · exact absurd rfl hnone
    · rfl

/-- What a regular push does: it reads the live bytes, and returns their events if none fails. -/
theorem push_regular (h : Idle d) (hp : RegularPush serde d chunk) :
    let r := (consumer serde).read d.machine (d.buffer ++ chunk)
    (∀ e, r.error = some e → ∃ d', (push serde chunk).call d = (.error e, d')) ∧
      (r.error = none → (push serde chunk).call d = (.ok r.events, ⟨r.object.2, r.object.1⟩) ∧
        Idle ⟨r.object.2, r.object.1⟩) := by
  intro r
  have hread := @feed_read serde d.machine [] d.buffer chunk h.drained hp.bound hp.unmixed
  have hpending := pending_read (C := consumer serde) d.machine (d.buffer ++ chunk) h.pending
  have hstops := read_stops (C := consumer serde) d.machine (d.buffer ++ chunk)
  change (feed serde d chunk).1 = Intake.result r ∧
    (feed serde d chunk).2.machine = queue.queued ([] ++ r.events) r.object.1 ∧
    (r.error = none → (feed serde d chunk).2.buffer = r.object.2) at hread
  obtain ⟨hres, hmachine, hbuffer⟩ := hread
  rw [call_push hp.open_]
  rcases hf : feed serde d chunk with ⟨res, d'⟩
  rw [hf] at hres hmachine hbuffer
  refine ⟨fun e he => ?_, fun he => ?_⟩
  · rw [Intake.result, he] at hres
    subst hres
    exact ⟨d', rfl⟩
  · have hnone : r.object.1.pending = [] := hpending he
    rw [Intake.result, he] at hres
    subst hres
    have hd' : d' = ⟨r.object.2, queue.queued r.events r.object.1⟩ := by
      rw [← hbuffer he]
      exact congrArg (mk d'.buffer) hmachine
    have hcleared : { r.object.1 with pending := [] } = r.object.1 := by rw [← hnone]
    refine ⟨?_, hnone, (hstops he).resolve_left (by simp [consumer])⟩
    simp [hd', queue, Queue.queued, hnone, hcleared]

/-- **A regular drive reads all bytes.** -/
theorem drive_read (d : OpenAiChatSseDecoder) (h : Idle d) (hreg : Regular serde d chunks) :
    let r := (consumer serde).read d.machine (d.buffer ++ chunks.flatten)
    (drive serde d chunks).events = r.events ∧
      (drive serde d chunks).error = r.error.or (finishError r.object) := by
  induction chunks generalizing d with
  | nil =>
    rw [List.flatten_nil, List.append_nil, read_none h.drained]
    exact drive_nil h
  | cons chunk rest ih =>
    obtain ⟨hpush, hrest⟩ := hreg
    obtain ⟨hfail, hok⟩ := push_regular h hpush
    rw [List.flatten_cons, ← List.append_assoc]
    rcases he : ((consumer serde).read d.machine (d.buffer ++ chunk)).error with _ | e
    · obtain ⟨hcall, hidle⟩ := hok he
      obtain ⟨hevents, herror⟩ := ih _ hidle (hrest _ _ hcall)
      rw [read_append_ok he, drive, hcall]
      refine ⟨?_, herror⟩
      simp only [Reading.ofCall, Reading.andThen, Reading.before]
      rw [hevents]
    · obtain ⟨d', hcall⟩ := hfail e he
      rw [read_append_failed (by simp [he]), drive, hcall]
      simp [Reading.ofCall, Reading.andThen, more, Reading.map, he, hpush.lossless (by simp [he])]

end Drive

/-- **When cuts between chunks cannot be observed**: two splits of the same bytes whose pushes are
all regular return the same events and end with the same error. A push after the end is refused. -/
theorem segmentation_of_regular (serde : SerdeJson) :
    (∀ cs ds : List (List UInt8), cs.flatten = ds.flatten → Regular serde .new cs →
      Regular serde .new ds →
        (drive serde .new cs).events = (drive serde .new ds).events ∧
        (drive serde .new cs).error = (drive serde .new ds).error) ∧
      ∀ (d : OpenAiChatSseDecoder) (chunk : List UInt8), d.isFinished = true →
        (push serde chunk).call d = (.error protocolError, d) := by
  refine ⟨fun cs ds hflat hcs hds => ?_, fun d chunk => push_finished⟩
  obtain ⟨hcevents, hcerror⟩ := drive_read cs .new idle_new hcs
  obtain ⟨hdevents, hderror⟩ := drive_read ds .new idle_new hds
  rw [hflat] at hcevents hcerror
  exact ⟨hcevents.trans hdevents.symm, hcerror.trans hderror.symm⟩

/-! ### A body in two ways, and with white space after its end -/

/-- The data of a chunk with text and a finish reason. -/
def chunkData : String :=
  "\x7b\"id\":\"r\",\"object\":\"chat.completion.chunk\",\"choices\":[\x7b\"index\":0," ++
    "\"delta\":\x7b\"content\":\"x\"\x7d,\"finish_reason\":\"stop\"\x7d]\x7d"

/-- A library that reads the chunk. -/
def chunkSerde : SerdeJson := .ofTable [(chunkData, .object [("id", .string "r"),
  ("object", .string "chat.completion.chunk"), ("choices", .array [.object [
    ("index", .number (.posInt 0)), ("delta", .object [("content", .string "x")]),
    ("finish_reason", .string "stop")]])])]

/-- The frame of the chunk. -/
def chunkFrame : List UInt8 := ("data: " ++ chunkData ++ "\n\n").toUTF8.data.toList

/-- The same frame with carriage returns. -/
def chunkFrameCr : List UInt8 := ("data: " ++ chunkData ++ "\r\n\r\n").toUTF8.data.toList

/-- The terminal frame. -/
def doneFrame : List UInt8 := "data: [DONE]\n\n".toUTF8.data.toList

/-- A frame whose data is no JSON text. -/
def strayFrame : List UInt8 := "data: x\n\n".toUTF8.data.toList

/-- A body that ends with the terminal frame. -/
def body : List UInt8 := chunkFrame ++ doneFrame

/-- A push that is short, and plain after what was left, is regular where nothing fails. -/
theorem regularPush_of_fits {chunk : List UInt8} (hopen : d.isFinished = false)
    (hfits : (d.buffer ++ chunk).length ≤ maxFrameBytes) (hplain : 0x0d ∉ d.buffer ++ chunk)
    (hok : ((consumer serde).read d.machine (d.buffer ++ chunk)).error = none) :
    RegularPush serde d chunk := by
  rw [List.length_append] at hfits
  exact ⟨hopen, not_reportsBound hfits, unmixed_of_fits hfits (not_mixed hplain),
    fun h => absurd hok h⟩

/-- The body in one piece and cut inside its first frame. -/
theorem segmentation_body :
    (drive chunkSerde .new [body]).events =
        (drive chunkSerde .new [body.take 3, body.drop 3]).events ∧
      (drive chunkSerde .new [body]).error =
        (drive chunkSerde .new [body.take 3, body.drop 3]).error := by
  have hlen : body.length ≤ maxFrameBytes := by decide +kernel
  have hplain : 0x0d ∉ body := by decide +kernel
  have hread : ((consumer chunkSerde).read new.machine body).error = none := by decide +kernel
  have hone : Regular chunkSerde .new [body] :=
    ⟨regularPush_of_fits rfl hlen hplain hread, fun _ _ _ => trivial⟩
  have htwo : Regular chunkSerde .new [body.take 3, body.drop 3] := by
    have hnone : (consumer chunkSerde).read new.machine (new.buffer ++ body.take 3) =
        { object := (new.machine, body.take 3) } := read_none (by decide +kernel)
    have hfirst : RegularPush chunkSerde .new (body.take 3) :=
      regularPush_of_fits rfl (by decide +kernel) (by decide +kernel) (by rw [hnone])
    refine ⟨hfirst, fun events d' hcall => ?_⟩
    have hok := ((push_regular idle_new hfirst).2 (by rw [hnone])).1
    rw [hok, hnone] at hcall
    cases hcall
    refine ⟨regularPush_of_fits rfl ?_ ?_ ?_, fun _ _ _ => trivial⟩
    all_goals rwa [List.take_append_drop]
  exact (segmentation_of_regular chunkSerde).1 _ _ (by simp) hone htwo

theorem white_space_refused : (drive chunkSerde .new [body ++ [0x0a]]).error = none ∧
    (drive chunkSerde .new [body, [0x0a]]).error = some protocolError :=
  ⟨by decide +kernel, by decide +kernel⟩

theorem mixed_refused : (drive chunkSerde .new [chunkFrameCr, doneFrame]).error = none ∧
    (drive chunkSerde .new [chunkFrameCr ++ doneFrame]).error = some protocolError :=
  ⟨by decide +kernel, by decide +kernel⟩

theorem events_dropped : (drive chunkSerde .new [chunkFrame ++ strayFrame]).events = [] ∧
    (drive chunkSerde .new [chunkFrame, strayFrame]).events.length = 4 :=
  ⟨by decide +kernel, by decide +kernel⟩

/-- **Cuts that are observed**, one for each condition on a push: white space after the end is
refused in a chunk of its own; a carriage return frame is not found before line feed frames in its
chunk; and a frame that fails loses the events of the frames in its chunk. No push reports the
bound. -/
theorem cuts_observed :
    ((drive chunkSerde .new [body ++ [0x0a]]).error = none ∧
      (drive chunkSerde .new [body, [0x0a]]).error = some protocolError) ∧
    ((drive chunkSerde .new [chunkFrameCr, doneFrame]).error = none ∧
      (drive chunkSerde .new [chunkFrameCr ++ doneFrame]).error = some protocolError) ∧
    ((drive chunkSerde .new [chunkFrame ++ strayFrame]).events = [] ∧
      (drive chunkSerde .new [chunkFrame, strayFrame]).events.length = 4) ∧
    ∀ chunks : List (List UInt8), chunks.flatten.length ≤ 1024 →
      Admissible chunkSerde .new chunks := by
  refine ⟨white_space_refused, mixed_refused, events_dropped, fun chunks h => ?_⟩
  exact admissible_of_fits chunks .new (Nat.le_trans (by simpa [new] using h) (by decide))

end CpaGateway.Chat.Segmentation
