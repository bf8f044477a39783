import CpaGateway.Responses.UpstreamResponse

/-! # Network segmentation of a Responses stream

A push returns the events of all frames it completes, or an error. The events of the frames that
were pushed together with the first one that fails are dropped, so the cuts between the chunks show.
-/

namespace CpaGateway.Responses.Segmentation

open Responses.UpstreamResponse Core.Events Core.Json Core.Sse Lib.Effect
open Lib.Feed Lib.Framing.FrameBuffer Responses.UpstreamResponse.ResponsesMachine Consumer
  Reading Intake

/-! ### Frames do not look at the queue -/

variable {serde : SerdeJson}

section Queue

variable {xs : List CanonicalEvent}

@[simp] theorem commutes_emit (e : CanonicalEvent) : Commutes (queue.queued xs) (emit e) :=
  commutes_get_bind (fun _ => rfl) fun _ => commutes_bind (by simp) fun _ =>
    commutes_modify fun _ => by simp [queue, Queue.queued]

@[simp] theorem commutes_streaming : Commutes (queue.queued xs) streaming := by
  refine commutes_get_bind (fun _ => rfl) fun m => ?_
  rcases m.lifecycle with _ | _ | _ <;> simp

@[simp] theorem commutes_setLifecycle (l : SseLifecycle) :
    Commutes (queue.queued xs) (setLifecycle l) :=
  commutes_modify fun _ => rfl

@[simp] theorem commutes_setStreaming (s : SseState) :
    Commutes (queue.queued xs) (setStreaming s) :=
  commutes_setLifecycle _

@[simp] theorem commutes_noteProgressFree : Commutes (queue.queued xs) noteProgressFree :=
  commutes_bind (commutes_modify fun _ => rfl) fun _ => commutes_get_bind (fun _ => rfl) fun _ =>
    commutes_ite (commutes_bind (by simp) fun _ => by simp) (by simp)

@[simp] theorem commutes_ensureMessage : Commutes (queue.queued xs) ensureMessage :=
  commutes_bind (by simp) fun _ => commutes_ite (by simp) (commutes_bind (by simp) fun _ => by simp)

variable (v : Value)

theorem commutes_start : Commutes (queue.queued xs) (start v) := by
  refine commutes_get_bind (fun _ => rfl) fun m => ?_
  repeat refine commutes_bind (by simp) fun _ => ?_
  unfold emitInitialUsage
  split <;> simp

theorem commutes_startTool (itemId : String) (item : Map) :
    Commutes (queue.queued xs) (startTool itemId item) := by
  repeat refine commutes_bind (by simp) fun _ => ?_
  simp

theorem commutes_addItem (kind itemId : String) (item : Map) :
    Commutes (queue.queued xs) (addItem kind itemId item) := by
  unfold addItem
  split
  · iterate 3 refine commutes_bind (by simp) fun _ => ?_
    simp
  · refine commutes_get_bind (fun _ => rfl) fun _ => ?_
    repeat refine commutes_bind (by simp) fun _ => ?_
    exact commutes_ite (by simp) (by simp)
  · exact commutes_startTool itemId item
  · simp

theorem commutes_outputItemAdded : Commutes (queue.queued xs) (outputItemAdded v) := by
  repeat refine commutes_bind (by simp) fun _ => ?_
  exact commutes_addItem _ _ _

theorem commutes_emitContent (s : SseState) (delta : String) (event : String → CanonicalEvent) :
    Commutes (queue.queued xs) (emitContent s delta event) :=
  commutes_ite (by simp) (commutes_bind (by simp) fun _ => by simp)

theorem commutes_textDelta : Commutes (queue.queued xs) (textDelta v) := by
  repeat refine commutes_bind (by simp) fun _ => ?_
  exact commutes_emitContent _ _ _

theorem commutes_reasoningDelta : Commutes (queue.queued xs) (reasoningDelta v) := by
  repeat refine commutes_bind (by simp) fun _ => ?_
  exact commutes_get_bind (fun _ => rfl) fun _ =>
    commutes_ite (by simp) (commutes_emitContent _ _ _)

@[simp] theorem commutes_emitReleased (callId : String) (released : Option String) :
    Commutes (queue.queued xs) (emitReleased callId released) := by
  cases released
  · exact commutes_pure _
  · exact commutes_emit _

theorem commutes_toolDelta : Commutes (queue.queued xs) (toolDelta v) := by
  repeat refine commutes_bind (by simp) fun _ => ?_
  simp

theorem commutes_completeTool (itemId : String) (settled : Option (OpenTool × ℕ)) :
    Commutes (queue.queued xs) (completeTool serde itemId settled) := by
  rcases settled with _ | ⟨call, retained⟩
  · exact commutes_pure _
  · repeat refine commutes_bind (by simp) fun _ => ?_
    simp

@[simp] theorem commutes_finishTool (itemId : String) (reported : Option String)
    (authoritative : Bool) :
    Commutes (queue.queued xs) (finishTool serde itemId reported authoritative) := by
  repeat refine commutes_bind (by simp) fun _ => ?_
  exact commutes_ite (by simp) (commutes_bind (by simp) fun _ => commutes_completeTool _ _)

theorem commutes_outputItemDone : Commutes (queue.queued xs) (outputItemDone serde v) := by
  repeat refine commutes_bind (by simp) fun _ => ?_
  unfold endItem
  split <;> simp

theorem commutes_endResponse (reason : Option String) :
    Commutes (queue.queued xs) (endResponse v reason) := by
  repeat refine commutes_bind (by simp) fun _ => ?_
  refine commutes_bind (commutes_ite (by simp) (by simp)) fun _ =>
    commutes_bind (by simp) fun usage =>
    commutes_bind ?_ fun _ => commutes_bind (by simp) fun _ => by simp
  cases usage
  · exact commutes_pure _
  · exact commutes_emit _

theorem commutes_dispatch (kind : String) (v : Value) :
    Commutes (queue.queued xs) (dispatch serde kind v) := by
  unfold dispatch
  split
  · exact commutes_start v
  · exact commutes_outputItemAdded v
  · exact commutes_textDelta v
  · exact commutes_reasoningDelta v
  · exact commutes_reasoningDelta v
  · exact commutes_toolDelta v
  · exact commutes_bind (by simp) fun _ => by simp
  · exact commutes_outputItemDone v
  · exact commutes_endResponse v none
  · exact commutes_bind (by simp) fun _ => commutes_endResponse v _
  · exact commutes_get_bind (fun _ => rfl) fun _ => commutes_bind (by simp) fun _ =>
      commutes_bind (by simp) fun _ => by simp
  all_goals simp

/-- **No frame looks at the queue.** -/
theorem commutes_consumeFrame (frame : List UInt8) :
    Commutes (queue.queued xs) (consumeFrame serde frame) := by
  repeat refine commutes_bind (by simp) fun _ => ?_
  refine commutes_ite (by simp) ?_
  repeat refine commutes_bind (by simp) fun _ => ?_
  exact commutes_ite (by simp) (commutes_bind (commutes_modify fun _ => rfl) fun _ =>
    commutes_dispatch _ _)

end Queue

/-! ### Pushing a chunk -/

variable {d : OpenAiResponsesSseDecoder} {chunk p bytes : List UInt8}

section Push

open OpenAiResponsesSseDecoder

theorem queues : (consumer serde).Queues where
  consume _ frame := commutes_consumeFrame frame
  finished _ _ := rfl

/-- The bytes are refused: something other than white space follows the end. -/
def Refuses (d : OpenAiResponsesSseDecoder) (chunk : List UInt8) : Prop :=
  d.isFinished = true ∧ chunk.all isAsciiWhitespace = false

/-- A push of the chunk reports the bound on the live bytes. -/
def ReportsBound (d : OpenAiResponsesSseDecoder) (chunk : List UInt8) : Prop :=
  ¬ Refuses d chunk ∧ maxFrameBytes < d.frames.live.length + chunk.length

theorem call_append_room (h : d.frames.live.length + chunk.length ≤ maxFrameBytes) :
    (OpenAiResponsesSseDecoder.append chunk).call d = (.ok (), d.extended chunk) := by
  rw [OpenAiResponsesSseDecoder.append, Method.onPart, call_of, call_append, if_pos h]
  rfl

theorem push_refused (h : Refuses d chunk) :
    (push serde chunk).call d = (.error protocolError, d) := by
  obtain ⟨hf, hw⟩ := h
  simp [push, call_eq, hf, hw]

theorem call_push (hok : ¬ Refuses d chunk)
    (hroom : d.frames.live.length + chunk.length ≤ maxFrameBytes) :
    (push serde chunk).call d =
      match (d.extended chunk).run (consumer serde) fun m => !m.lifecycle.isFinished with
      | (.ok (), d') => (.ok d'.machine.pending, { d' with machine.pending := [] })
      | (.error e, d') => (.error e, d') := by
  have hcheck : (!d.isFinished || chunk.all isAsciiWhitespace) = true := by
    rw [Refuses] at hok
    cases hf : d.isFinished <;> simp_all
  simp only [push, call_eq, hcheck, if_true, call_append_room hroom, consumeFrames, call_of]
  rcases (d.extended chunk).run (consumer serde) _ with ⟨_ | _, d'⟩ <;> rfl

/-- What a push does to an idle decoder whose live bytes read as `r`: it returns all their events,
or none if they end in a failure. -/
structure Pushed (serde : SerdeJson)
    (r : Reading CanonicalEvent Fault (ResponsesMachine × List UInt8))
    (a : Reading CanonicalEvent Fault OpenAiResponsesSseDecoder) : Prop where
  error : a.error = r.error
  lost : r.error ≠ none → a.events = []
  events : r.error = none → a.events = r.events
  object : r.error = none → (a.object.machine, a.object.frames.live) = r.object
  idle : r.error = none → Intake.Idle (consumer serde) a.object

theorem push_room (h : Intake.Idle (consumer serde) d) (hok : ¬ Refuses d chunk)
    (hroom : d.frames.live.length + chunk.length ≤ maxFrameBytes) :
    Pushed serde ((consumer serde).read d.machine (d.frames.live ++ chunk))
      (.ofCall ((push serde chunk).call d)) := by
  have hsound := sound_extended h chunk
  have hrun := run_read (C := consumer serde) queues d.machine [] (d.extended chunk).frames
    hsound
  have hkeeps : Sound frameDelimiter (run (consumer serde)
      (fun m => !m.lifecycle.isFinished) (d.extended chunk)).2.frames :=
    run_keeps (fun _ hb => sound_takeFrame hb) _ hsound
  have hstops := read_stops (C := consumer serde) d.machine (d.frames.live ++ chunk)
  have hpending := pending_read (C := consumer serde) d.machine
    (d.frames.live ++ chunk) h.pending
  rw [live_extended h chunk] at hrun
  change (run (consumer serde) (fun m => !m.lifecycle.isFinished) (d.extended chunk)).1 = _ ∧
    (run (consumer serde) (fun m => !m.lifecycle.isFinished) (d.extended chunk)).2.machine =
      _ ∧ (run (consumer serde) (fun m => !m.lifecycle.isFinished)
        (d.extended chunk)).2.frames.live = _ at hrun
  rw [call_push hok hroom]
  generalize (consumer serde).read d.machine (d.frames.live ++ chunk) = r at hrun hstops hpending ⊢
  generalize run (consumer serde) _ (d.extended chunk) = ran at hrun hkeeps ⊢
  obtain ⟨res, d'⟩ := ran
  obtain ⟨rfl, hmachine, hlive⟩ := hrun
  rcases hr : r.error with _ | e
  · have hnone : r.object.1.pending = [] := hpending hr
    have hcleared : { d'.machine with pending := [] } = r.object.1 := by
      rw [show d'.machine = _ from hmachine]
      simp only [consumer, queue, Queue.queued]
      rw [← hnone]
    simp only [result, hr, ofCall]
    refine ⟨hr.symm, fun h => absurd hr h, fun _ => ?_, fun _ => ?_, fun _ => ⟨hkeeps, rfl, ?_⟩⟩
    · rw [show d'.machine = _ from hmachine]
      simp [consumer, queue, Queue.queued, hnone]
    · simp only [hcleared]
      exact Prod.ext rfl hlive
    · simp only [hcleared]
      rw [show d'.frames.live = _ from hlive]
      exact hstops hr
  · simp only [result, hr]
    exact ⟨hr.symm, fun _ => rfl, fun h => absurd h (by simp [hr]), fun h =>
      absurd h (by simp [hr]), fun h => absurd h (by simp [hr])⟩

end Push

/-! ### Whole bodies -/

variable {m : ResponsesMachine}

section Drive

open OpenAiResponsesSseDecoder

/-- Pushes each chunk up to the first error, and finishes if there is none. -/
def drive (serde : SerdeJson) (d : OpenAiResponsesSseDecoder) : List (List UInt8) →
    Reading CanonicalEvent Fault OpenAiResponsesSseDecoder
  | [] => .ofCall ((finish serde).call d)
  | chunk :: rest =>
    (ofCall ((push serde chunk).call d)).andThen fun d' => drive serde d' rest

/-- No push of the drive reports the bound on the live bytes. -/
def Admissible (serde : SerdeJson) (d : OpenAiResponsesSseDecoder) : List (List UInt8) → Prop
  | [] => True
  | chunk :: rest => ¬ ReportsBound d chunk ∧
      ∀ events d', (push serde chunk).call d = (.ok events, d') → Admissible serde d' rest

/-- A fresh decoder, of one of the two kinds. -/
def fresh (suppressReasoning : Bool) : OpenAiResponsesSseDecoder :=
  if suppressReasoning then newWithReasoningSuppressed else new

theorem idle_fresh (suppressReasoning : Bool) :
    Intake.Idle (consumer serde) (fresh suppressReasoning) := by
  cases suppressReasoning
  · exact idle_new rfl
  · exact idle_new rfl

/-- The bytes left over by a body: white space after a response that ended. -/
def Complete (s : ResponsesMachine × List UInt8) : Prop :=
  s.1.lifecycle.isFinished = true ∧ s.2.all isAsciiWhitespace = true

/-- Finishing an idle decoder returns no events, and fails unless the body is complete. -/
theorem drive_nil (h : Intake.Idle (consumer serde) d)
    (hfits : d.frames.live.length ≤ maxFrameBytes) :
    (drive serde d []).events = [] ∧
      ((drive serde d []).error = none ↔ Complete (d.machine, d.frames.live)) := by
  have hok : ¬ Refuses d [] := by simp [Refuses]
  have hpush := push_room h hok (by simpa using hfits)
  rw [List.append_nil, h.drained] at hpush
  rcases hc : (push serde []).call d with ⟨e | events, d'⟩
  · rw [hc] at hpush
    cases hpush.error
  · rw [hc] at hpush
    obtain rfl : events = [] := hpush.events rfl
    obtain ⟨hmachine, hlive⟩ := Prod.mk.inj (hpush.object rfl)
    have hfinish : (finish serde).call d = (if d.machine.lifecycle.isFinished &&
        d.frames.live.all isAsciiWhitespace then .ok [] else .error truncatedError, d') := by
      simp only [finish, call_eq, hc, isFinished]
      rw [show d'.machine = _ from hmachine, show d'.frames.live = _ from hlive]
      by_cases hd : (d.machine.lifecycle.isFinished && d.frames.live.all isAsciiWhitespace) = true
      · rw [if_pos hd, if_pos hd]
      · rw [if_neg hd, if_neg hd]
    rw [drive, hfinish]
    split_ifs with hdone
    · simp only [Bool.and_eq_true] at hdone
      exact ⟨rfl, fun _ => hdone, fun _ => rfl⟩
    · simp only [Bool.and_eq_true] at hdone
      refine ⟨rfl, fun h => ?_, fun h => absurd h hdone⟩
      cases h

variable {r : Reading CanonicalEvent Fault (ResponsesMachine × List UInt8)}

theorem drive_failed (h : Pushed serde r (.ofCall ((push serde chunk).call d)))
    (he : r.error ≠ none) (rest : List (List UInt8)) :
    (drive serde d (chunk :: rest)).events = [] ∧ (drive serde d (chunk :: rest)).error ≠ none := by
  obtain ⟨e, hr⟩ := Option.ne_none_iff_exists'.mp he
  have herr := h.error.trans hr
  rw [drive, andThen_failed herr, herr]
  exact ⟨h.lost he, by simp⟩

theorem drive_pushed (h : Pushed serde r (.ofCall ((push serde chunk).call d)))
    (he : r.error = none) (rest : List (List UInt8)) :
    drive serde d (chunk :: rest) =
      (drive serde (ofCall ((push serde chunk).call d)).object rest).before r.events := by
  rw [drive, andThen_none (h.error.trans he), h.events he]

theorem Admissible.rest {rest : List (List UInt8)} (h : Admissible serde d (chunk :: rest))
    (hp : Pushed serde r (.ofCall ((push serde chunk).call d))) (he : r.error = none) :
    Admissible serde (ofCall ((push serde chunk).call d)).object rest := by
  rcases hc : (push serde chunk).call d with ⟨e | events, d'⟩
  · rw [hc] at hp
    have := hp.error
    rw [he] at this
    cases this
  · exact h.2 events d' hc

/-- A piece `q` that one push may bring and that holds the first frame that fails: `p` is read
before it, and no part of `p` leaves more bytes undecoded than the bound allows. -/
structure Break (serde : SerdeJson) (m : ResponsesMachine) (l bytes p q rest : List UInt8) :
    Prop where
  split : bytes = p ++ q ++ rest
  narrow : ∀ p', p' <+: p → p' ≠ p →
    ((consumer serde).read m (l ++ p')).object.2.length < maxFrameBytes
  passes : ((consumer serde).read m (l ++ p)).error = none
  room : ((consumer serde).read m (l ++ p)).object.2.length + q.length ≤ maxFrameBytes
  fails : ((consumer serde).read ((consumer serde).read m (l ++ p)).object.1
    (((consumer serde).read m (l ++ p)).object.2 ++ q)).error ≠ none

/-- The events of the frames of `q` before the one that fails. -/
def dropped (serde : SerdeJson) (m : ResponsesMachine) (l p q : List UInt8) : List CanonicalEvent :=
  ((consumer serde).read ((consumer serde).read m (l ++ p)).object.1
    (((consumer serde).read m (l ++ p)).object.2 ++ q)).events

variable {c : List UInt8}

/-- A first part of two texts in a row is shorter than the first, or goes on into the second. -/
theorem prefix_append_cases {p' : List UInt8} (h : p' <+: c ++ p) :
    p'.length < c.length ∨ ∃ p'', p' = c ++ p'' ∧ p'' <+: p := by
  rcases List.prefix_or_prefix_of_prefix h (List.prefix_append c p) with hle | ⟨p'', rfl⟩
  · rcases Nat.lt_or_ge p'.length c.length with hlt | hge
    · exact .inl hlt
    · obtain rfl := hle.eq_of_length_le hge
      exact .inr ⟨[], by simp, List.nil_prefix⟩
  · exact .inr ⟨p'', rfl, (List.prefix_append_right_inj c).mp h⟩

variable {l : List UInt8}

theorem Break.cons {q rest : List UInt8} (hc : ((consumer serde).read m (l ++ c)).error = none)
    (hroom : l.length + c.length ≤ maxFrameBytes)
    (h : Break serde ((consumer serde).read m (l ++ c)).object.1
      ((consumer serde).read m (l ++ c)).object.2 bytes p q rest) :
    Break serde m l (c ++ bytes) (c ++ p) q rest := by
  have hread : ∀ p', (consumer serde).read m (l ++ (c ++ p')) =
      ((consumer serde).read ((consumer serde).read m (l ++ c)).object.1
        (((consumer serde).read m (l ++ c)).object.2 ++ p')).before
        ((consumer serde).read m (l ++ c)).events := by
    intro p'
    rw [← List.append_assoc, read_append_ok hc p']
  refine ⟨?_, fun p' hp hne => ?_, ?_, ?_, ?_⟩
  · simp [h.split]
  · rcases prefix_append_cases hp with hshort | ⟨p'', rfl, hp''⟩
    · have hle := length_rest_le (C := consumer serde) m (l ++ p')
      rw [List.length_append] at hle
      omega
    · rw [hread]
      exact h.narrow p'' hp'' (fun heq => hne (by rw [heq]))
  · rw [hread]
    exact h.passes
  · rw [hread]
    exact h.room
  · rw [hread]
    exact h.fails

theorem dropped_cons {q : List UInt8} (hc : ((consumer serde).read m (l ++ c)).error = none) :
    dropped serde m l (c ++ p) q = dropped serde ((consumer serde).read m (l ++ c)).object.1
      ((consumer serde).read m (l ++ c)).object.2 p q := by
  unfold dropped
  rw [← List.append_assoc, read_append_ok hc p]
  rfl

theorem Break.first (h : Intake.Idle (consumer serde) d)
    (hroom : d.frames.live.length + chunk.length ≤ maxFrameBytes)
    (he : ((consumer serde).read d.machine (d.frames.live ++ chunk)).error ≠ none)
    (rest : List UInt8) : Break serde d.machine d.frames.live (chunk ++ rest) [] chunk rest := by
  refine ⟨by simp, fun p' hp hne => absurd (List.prefix_nil.mp hp) hne, ?_, ?_, ?_⟩
  · rw [List.append_nil, h.drained]
  · rw [List.append_nil, h.drained]
    exact hroom
  · rw [List.append_nil, h.drained]
    exact he

/-- What a drive delivers: all events if nothing fails, and otherwise all but those of the frames
that were pushed together with the first one that fails. -/
structure Delivers (serde : SerdeJson) (d : OpenAiResponsesSseDecoder) (bytes : List UInt8)
    (a : Reading CanonicalEvent Fault OpenAiResponsesSseDecoder) : Prop where
  all : ((consumer serde).read d.machine (d.frames.live ++ bytes)).error = none →
    a.events = ((consumer serde).read d.machine (d.frames.live ++ bytes)).events ∧
      (a.error = none ↔ Complete ((consumer serde).read d.machine (d.frames.live ++ bytes)).object)
  failed : ((consumer serde).read d.machine (d.frames.live ++ bytes)).error ≠ none →
    a.error ≠ none ∧ ∃ p q rest, Break serde d.machine d.frames.live bytes p q rest ∧
      ((consumer serde).read d.machine (d.frames.live ++ bytes)).events =
        a.events ++ dropped serde d.machine d.frames.live p q

theorem drive_delivers (chunks : List (List UInt8)) (d : OpenAiResponsesSseDecoder)
    (h : Intake.Idle (consumer serde) d) (hfits : d.frames.live.length ≤ maxFrameBytes)
    (hadm : Admissible serde d chunks) :
    Delivers serde d chunks.flatten (drive serde d chunks) := by
  induction chunks generalizing d with
  | nil =>
    obtain ⟨hevents, herror⟩ := drive_nil h hfits
    refine ⟨fun _ => ?_, fun hne => ?_⟩
    · rw [List.flatten_nil, List.append_nil, h.drained]
      exact ⟨hevents, herror⟩
    · rw [List.flatten_nil, List.append_nil, h.drained] at hne
      exact absurd rfl hne
  | cons chunk rest ih =>
    rw [List.flatten_cons]
    by_cases href : Refuses d chunk
    · have hread := read_finished (C := consumer serde) href.1
      rw [drive, push_refused href]
      refine ⟨fun _ => ?_, fun hne => ?_⟩
      · rw [hread]
        refine ⟨rfl, fun hnone => ?_, fun hdone => ?_⟩
        · cases hnone
        · have hall := hdone.2
          rw [List.all_append, List.all_append, href.2] at hall
          simp at hall
      · rw [hread] at hne
        exact absurd rfl hne
    · have hroom : d.frames.live.length + chunk.length ≤ maxFrameBytes :=
        Nat.le_of_not_lt fun hlt => hadm.1 ⟨href, hlt⟩
      have hpush := push_room h href hroom
      by_cases he : ((consumer serde).read d.machine (d.frames.live ++ chunk)).error = none
      · -- the push succeeds, and the drive goes on where the reading stopped
        obtain ⟨hmachine, hlive⟩ := Prod.ext_iff.mp (hpush.object he)
        have hlen : (ofCall ((push serde chunk).call d)).object.frames.live.length ≤
            maxFrameBytes := by
          have hle := length_rest_le (C := consumer serde) d.machine
            (d.frames.live ++ chunk)
          rw [← hlive, List.length_append] at hle
          exact hle.trans hroom
        have hrest := ih _ (hpush.idle he) hlen (hadm.rest hpush he)
        rw [drive_pushed hpush he]
        obtain ⟨hall, hfailed⟩ := hrest
        rw [show (ofCall ((push serde chunk).call d)).object.machine = _ from hmachine,
          show (ofCall ((push serde chunk).call d)).object.frames.live = _ from hlive]
          at hall hfailed
        have hread := read_append_ok he rest.flatten
        rw [List.append_assoc] at hread
        refine ⟨fun hnone => ?_, fun hne => ?_⟩
        · rw [hread] at hnone ⊢
          obtain ⟨hevents, herror⟩ := hall hnone
          refine ⟨?_, herror⟩
          simp [before, hevents]
        · rw [hread] at hne ⊢
          obtain ⟨herror, p, q, tail, hbreak, hevents⟩ := hfailed hne
          refine ⟨herror, chunk ++ p, q, tail, hbreak.cons he hroom, ?_⟩
          rw [dropped_cons he]
          simp [before, hevents]
      · -- the push fails: the events of its frames before the failure are dropped
        obtain ⟨hevents, herror⟩ := drive_failed hpush he rest
        have hread := read_append_failed he rest.flatten
        rw [List.append_assoc] at hread
        refine ⟨fun hnone => ?_, fun _ => ⟨herror, [], chunk, rest.flatten,
          Break.first h hroom he _, ?_⟩⟩
        · rw [hread] at hnone
          simp only [more, map, Option.map_eq_none_iff] at hnone
          exact absurd hnone he
        · rw [hread, hevents, dropped, List.append_nil, h.drained]
          rfl

theorem admissible_of_fits (chunks : List (List UInt8)) (d : OpenAiResponsesSseDecoder)
    (h : Intake.Idle (consumer serde) d)
    (hfits : d.frames.live.length + chunks.flatten.length ≤ maxFrameBytes) :
    Admissible serde d chunks := by
  induction chunks generalizing d with
  | nil => trivial
  | cons chunk rest ih =>
    rw [List.flatten_cons, List.length_append] at hfits
    have hroom : d.frames.live.length + chunk.length ≤ maxFrameBytes := by omega
    refine ⟨fun hb => Nat.not_le_of_lt hb.2 hroom, fun events d' hc => ?_⟩
    have href : ¬ Refuses d chunk := by
      intro href
      rw [push_refused href] at hc
      cases hc
    have hpush := push_room h href hroom
    rw [hc] at hpush
    have he := hpush.error.symm
    have hlive := congrArg (·.2.length) (hpush.object he)
    have hle := length_rest_le (C := consumer serde) d.machine (d.frames.live ++ chunk)
    rw [List.length_append] at hle
    refine ih d' (hpush.idle he) ?_
    simp only [ofCall] at hlive
    omega

/-! ### Byte by byte -/

/-- The split of a text into its bytes. -/
def bytewise (bytes : List UInt8) : List (List UInt8) := bytes.map fun b => [b]

@[simp] theorem flatten_bytewise (bytes : List UInt8) : (bytewise bytes).flatten = bytes := by
  rw [bytewise, ← List.flatMap_def, List.flatMap_singleton']

/-- Bytes that can be pushed one by one: no part of them leaves more undecoded than the bound
allows, and none ends the response. -/
structure Smooth (serde : SerdeJson) (m : ResponsesMachine) (l bytes : List UInt8) : Prop where
  narrow : ∀ p, p <+: bytes → p ≠ bytes →
    ((consumer serde).read m (l ++ p)).object.2.length < maxFrameBytes
  unfinished : ∀ p, p <+: bytes → p ≠ bytes → ((consumer serde).read m (l ++ p)).error = none →
    ((consumer serde).read m (l ++ p)).object.1.lifecycle.isFinished = false

variable {b : UInt8}

theorem Smooth.tail
    (h : Smooth serde m l (b :: bytes)) (he : ((consumer serde).read m (l ++ [b])).error = none) :
    Smooth serde ((consumer serde).read m (l ++ [b])).object.1
      ((consumer serde).read m (l ++ [b])).object.2 bytes := by
  have hread : ∀ p, (consumer serde).read m (l ++ b :: p) =
      ((consumer serde).read ((consumer serde).read m (l ++ [b])).object.1
        (((consumer serde).read m (l ++ [b])).object.2 ++ p)).before
        ((consumer serde).read m (l ++ [b])).events := by
    intro p
    rw [← read_append_ok he p, List.append_assoc]
    rfl
  refine ⟨fun p hp hne => ?_, fun p hp hne hnone => ?_⟩
  · have := h.narrow (b :: p) (List.cons_prefix_cons.mpr ⟨rfl, hp⟩) (by simpa using hne)
    rwa [hread] at this
  · have := h.unfinished (b :: p) (List.cons_prefix_cons.mpr ⟨rfl, hp⟩) (by simpa using hne)
    rw [hread] at this
    exact this hnone

theorem Smooth.head (h : Intake.Idle (consumer serde) d)
    (hs : Smooth serde d.machine d.frames.live (b :: bytes)) :
    d.machine.lifecycle.isFinished = false ∧ ¬ Refuses d [b] ∧
      d.frames.live.length + [b].length ≤ maxFrameBytes := by
  have hne : ([] : List UInt8) ≠ b :: bytes := by simp
  have hlen := hs.narrow [] List.nil_prefix hne
  have hopen := hs.unfinished [] List.nil_prefix hne
  rw [List.append_nil, h.drained] at hlen hopen
  have hfinished : d.machine.lifecycle.isFinished = false := hopen rfl
  refine ⟨hfinished, fun href => ?_, hlen⟩
  have hdone : d.machine.lifecycle.isFinished = true := href.1
  rw [hfinished] at hdone
  cases hdone

theorem push_byte (h : Intake.Idle (consumer serde) d)
    (hs : Smooth serde d.machine d.frames.live (b :: bytes))
    (he : ((consumer serde).read d.machine (d.frames.live ++ [b])).error = none) :
    ∃ d₁ events, Intake.Idle (consumer serde) d₁ ∧
      Smooth serde d₁.machine d₁.frames.live bytes ∧
      (consumer serde).read d.machine (d.frames.live ++ b :: bytes) =
        ((consumer serde).read d₁.machine (d₁.frames.live ++ bytes)).before events ∧
      ∀ rest, drive serde d ([b] :: rest) = (drive serde d₁ rest).before events ∧
        (Admissible serde d₁ rest → Admissible serde d ([b] :: rest)) := by
  obtain ⟨-, href, hroom⟩ := hs.head h
  have hpush := push_room h href hroom
  obtain ⟨hmachine, hlive⟩ := Prod.ext_iff.mp (hpush.object he)
  have hread := read_append_ok he bytes
  have hsmooth := hs.tail he
  rw [← hmachine, ← hlive] at hread hsmooth
  rw [List.append_assoc] at hread
  refine ⟨_, _, hpush.idle he, hsmooth, hread, fun rest => ⟨drive_pushed hpush he rest,
    fun hadm => ⟨fun hb => Nat.not_le_of_lt hb.2 hroom, fun events d' hc => ?_⟩⟩⟩
  rwa [hc] at hadm

section Bytewise

variable (rest : List (List UInt8)) (bytes : List UInt8) (d : OpenAiResponsesSseDecoder)
  (h : Intake.Idle (consumer serde) d) (hs : Smooth serde d.machine d.frames.live bytes)

include h hs

theorem drive_bytewise
    (he : ((consumer serde).read d.machine (d.frames.live ++ bytes)).error = none) :
    ∃ d', Intake.Idle (consumer serde) d' ∧
      (d'.machine, d'.frames.live) =
        ((consumer serde).read d.machine (d.frames.live ++ bytes)).object ∧
      drive serde d (bytewise bytes ++ rest) = (drive serde d' rest).before
        ((consumer serde).read d.machine (d.frames.live ++ bytes)).events ∧
      (Admissible serde d' rest → Admissible serde d (bytewise bytes ++ rest)) := by
  induction bytes generalizing d with
  | nil =>
    rw [List.append_nil, h.drained]
    exact ⟨d, h, rfl, rfl, id⟩
  | cons b bytes ih =>
    have hb : ((consumer serde).read d.machine (d.frames.live ++ [b])).error = none := by
      by_contra hne
      have hread := read_append_failed hne bytes
      rw [List.append_assoc] at hread
      rw [show b :: bytes = [b] ++ bytes from rfl, hread] at he
      simp only [more, map, Option.map_eq_none_iff] at he
      exact hne he
    obtain ⟨d₁, events, hidle, hsmooth, hread, hdrive⟩ := push_byte h hs hb
    rw [hread] at he ⊢
    obtain ⟨d', hidle', hobject, hdrive', hadm⟩ := ih d₁ hidle hsmooth he
    refine ⟨d', hidle', hobject, ?_, fun hrest => (hdrive _).2 (hadm hrest)⟩
    change drive serde d ([b] :: (bytewise bytes ++ rest)) = _
    rw [(hdrive _).1, hdrive', before_before]
    rfl

/-- Smooth bytes pushed one by one deliver every event before the failure: no byte completes two
frames, so none is dropped with the frame that fails. -/
theorem drive_bytewise_failed
    (he : ((consumer serde).read d.machine (d.frames.live ++ bytes)).error ≠ none) :
    (drive serde d (bytewise bytes ++ rest)).events =
        ((consumer serde).read d.machine (d.frames.live ++ bytes)).events ∧
      Admissible serde d (bytewise bytes ++ rest) := by
  induction bytes generalizing d with
  | nil =>
    rw [List.append_nil, h.drained] at he
    exact absurd rfl he
  | cons b bytes ih =>
    by_cases hb : ((consumer serde).read d.machine (d.frames.live ++ [b])).error = none
    · obtain ⟨d₁, events, hidle, hsmooth, hread, hdrive⟩ := push_byte h hs hb
      rw [hread] at he ⊢
      obtain ⟨hevents, hadm⟩ := ih d₁ hidle hsmooth he
      refine ⟨?_, (hdrive _).2 hadm⟩
      change (drive serde d ([b] :: (bytewise bytes ++ rest))).events = _
      rw [(hdrive _).1]
      simp [before, hevents]
    · obtain ⟨hopen, href, hroom⟩ := hs.head h
      have hpush := push_room h href hroom
      obtain ⟨e, hsome⟩ := Option.ne_none_iff_exists'.mp hb
      have hnext : frameDelimiter.next d.frames.live = none := by
        rcases h.stopped with hf | hn
        · rw [show (consumer serde).finished d.machine = false from hopen] at hf
          cases hf
        · exact hn
      have hsnoc := read_snoc_failed (C := consumer serde) hnext hsome
      have hread := read_append_failed hb bytes
      rw [List.append_assoc] at hread
      refine ⟨?_, fun hbound => Nat.not_le_of_lt hbound.2 hroom, fun events d' hc => ?_⟩
      · rw [show b :: bytes = [b] ++ bytes from rfl, hread]
        exact ((drive_failed hpush hb _).1).trans hsnoc.symm
      · have herr := hpush.error
        rw [hc, hsome] at herr
        cases herr

end Bytewise

/-! ### Which bodies are safe -/

/-- A body with a piece that one push may bring, in which a frame with events stands before the
first frame that fails. -/
def Lossy (serde : SerdeJson) (m : ResponsesMachine) (bytes : List UInt8) : Prop :=
  ∃ p q rest, Break serde m [] bytes p q rest ∧ dropped serde m [] p q ≠ []

/-- What every admissible split delivers: whether it ends well depends on the bytes alone, and
without such a piece so do the events. -/
theorem delivers_all (suppressReasoning : Bool) {chunks : List (List UInt8)}
    (hadm : Admissible serde (fresh suppressReasoning) chunks) :
    ((drive serde (fresh suppressReasoning) chunks).error = none ↔
        ((consumer serde).read (fresh suppressReasoning).machine chunks.flatten).error = none ∧
        Complete ((consumer serde).read (fresh suppressReasoning).machine chunks.flatten).object) ∧
      (¬ Lossy serde (fresh suppressReasoning).machine chunks.flatten →
        (drive serde (fresh suppressReasoning) chunks).events =
          ((consumer serde).read (fresh suppressReasoning).machine chunks.flatten).events) := by
  have hlive : (fresh suppressReasoning).frames.live = [] := by cases suppressReasoning <;> rfl
  have hd := drive_delivers chunks (fresh suppressReasoning) (idle_fresh suppressReasoning)
    (by simp [hlive]) hadm
  obtain ⟨hall, hfailed⟩ := hd
  rw [hlive, List.nil_append] at hall hfailed
  by_cases he : ((consumer serde).read (fresh suppressReasoning).machine chunks.flatten).error =
    none
  · obtain ⟨hevents, herror⟩ := hall he
    exact ⟨herror.trans ⟨fun h => ⟨he, h⟩, And.right⟩, fun _ => hevents⟩
  · obtain ⟨herror, p, q, rest, hbreak, hevents⟩ := hfailed he
    refine ⟨⟨fun h => absurd h herror, fun h => absurd h.1 he⟩, fun hsafe => ?_⟩
    have hnone : dropped serde (fresh suppressReasoning).machine [] p q = [] := by
      by_contra hne
      exact hsafe ⟨p, q, rest, hbreak, hne⟩
    rw [hevents, hnone, List.append_nil]

section Loss

variable {q rest : List UInt8}

theorem Break.read_eq (h : Break serde m [] bytes p q rest) :
    ((consumer serde).read m (p ++ q)).error ≠ none ∧
      ((consumer serde).read m (p ++ q)).events =
        ((consumer serde).read m p).events ++ dropped serde m [] p q := by
  have hread := read_append_ok (C := consumer serde) (l := p) h.passes q
  rw [hread]
  exact ⟨h.fails, rfl⟩

theorem Break.smooth (h : Break serde m [] bytes p q rest) : Smooth serde m [] (p ++ q) := by
  refine ⟨fun p' hp hne => ?_, fun p' hp hne hnone => ?_⟩
  · rcases prefix_append_cases hp with hshort | ⟨q', rfl, hq⟩
    · refine h.narrow p' (List.prefix_of_prefix_length_le hp (List.prefix_append p q) hshort.le) ?_
      rintro rfl
      exact absurd hshort (lt_irrefl _)
    · have hread := read_append_ok (C := consumer serde) (l := p) h.passes q'
      have hlt : q'.length < q.length := by
        refine lt_of_le_of_ne hq.length_le fun heq => hne ?_
        rw [hq.eq_of_length heq]
      have hle := length_rest_le (C := consumer serde)
        ((consumer serde).read m p).object.1 (((consumer serde).read m p).object.2 ++ q')
      have hroom : ((consumer serde).read m p).object.2.length + q.length ≤ maxFrameBytes := h.room
      rw [List.length_append] at hle
      rw [List.nil_append, hread]
      simp only [before]
      omega
  · obtain ⟨tail, htail⟩ := hp
    rw [List.nil_append] at hnone ⊢
    rcases hf : ((consumer serde).read m p').object.1.lifecycle.isFinished with _ | _
    · rfl
    · have hread := read_append_ok hnone tail
      rw [htail, read_finished (C := consumer serde) hf] at hread
      exact absurd (by rw [hread]; rfl) h.read_eq.1

theorem Smooth.left (h : Smooth serde m [] (p ++ q)) : Smooth serde m [] p := by
  have hproper : ∀ p', p' <+: p → p' ≠ p → p' <+: p ++ q ∧ p' ≠ p ++ q := by
    intro p' hp hne
    refine ⟨hp.trans (List.prefix_append p q), fun heq => hne ?_⟩
    refine hp.eq_of_length_le ?_
    rw [heq, List.length_append]
    omega
  exact ⟨fun p' hp hne => h.narrow p' (hproper p' hp hne).1 (hproper p' hp hne).2,
    fun p' hp hne => h.unfinished p' (hproper p' hp hne).1 (hproper p' hp hne).2⟩

theorem Break.drive_at_once (h : Break serde m [] bytes p q rest) (d : OpenAiResponsesSseDecoder)
    (hidle : Intake.Idle (consumer serde) d) (hmachine : d.machine = m)
    (hlive : d.frames.live = []) :
    (drive serde d (bytewise p ++ [q, rest])).events = ((consumer serde).read m p).events ∧
      Admissible serde d (bytewise p ++ [q, rest]) := by
  subst hmachine
  have hsmooth := h.smooth.left
  have hpasses := h.passes
  rw [← hlive] at hsmooth hpasses
  obtain ⟨d', hidle', hobject, hdrive, hadm⟩ := drive_bytewise [q, rest] p d hidle hsmooth hpasses
  rw [hlive] at hobject hdrive
  obtain ⟨hm, hl⟩ := Prod.ext_iff.mp hobject
  have hfails : ((consumer serde).read d'.machine (d'.frames.live ++ q)).error ≠ none := by
    rw [show d'.machine = _ from hm, show d'.frames.live = _ from hl]
    exact h.fails
  have hroom : d'.frames.live.length + q.length ≤ maxFrameBytes := by
    rw [show d'.frames.live = _ from hl]
    exact h.room
  have href : ¬ Refuses d' q := by
    intro href
    rw [read_finished (C := consumer serde) href.1] at hfails
    exact hfails rfl
  have hpush := push_room hidle' href hroom
  refine ⟨?_, hadm ⟨fun hb => Nat.not_le_of_lt hb.2 hroom, fun events d'' hc => ?_⟩⟩
  · rw [hdrive]
    simp [before, (drive_failed hpush hfails [rest]).1]
  · have herr := hpush.error
    rw [hc] at herr
    exact absurd herr.symm hfails

end Loss

/-- **When cuts between chunks cannot be observed**: iff the body has no piece of admissible length
in which a frame with events comes before the first frame that fails. -/
theorem segmentation_unobservable_iff (serde : SerdeJson) (suppressReasoning : Bool)
    (bytes : List UInt8) :
    (∀ cs ds : List (List UInt8), cs.flatten = bytes → ds.flatten = bytes →
      Admissible serde (fresh suppressReasoning) cs →
      Admissible serde (fresh suppressReasoning) ds →
        (drive serde (fresh suppressReasoning) cs).events =
          (drive serde (fresh suppressReasoning) ds).events ∧
        ((drive serde (fresh suppressReasoning) cs).error = none ↔
          (drive serde (fresh suppressReasoning) ds).error = none)) ↔
      ¬ Lossy serde (fresh suppressReasoning).machine bytes := by
  constructor
  · rintro hagree ⟨p, q, rest, hbreak, hdropped⟩
    have hlive : (fresh suppressReasoning).frames.live = [] := by cases suppressReasoning <;> rfl
    have hidle : Intake.Idle (consumer serde) (fresh suppressReasoning) := idle_fresh _
    obtain ⟨hfails, hevents⟩ := hbreak.read_eq
    obtain ⟨honce, hadm⟩ := hbreak.drive_at_once _ hidle rfl hlive
    have hsmooth := hbreak.smooth
    obtain ⟨hslow, hadm'⟩ := drive_bytewise_failed [rest] (p ++ q) (fresh suppressReasoning) hidle
      (by rw [hlive]; exact hsmooth) (by rw [hlive]; exact hfails)
    have heq := (hagree _ _ (by simp [hbreak.split]) (by simp [hbreak.split]) hadm hadm').1
    rw [honce, hslow, hlive, List.nil_append, hevents] at heq
    exact hdropped (List.self_eq_append_right.mp heq)
  · rintro hsafe cs ds rfl hds hcadm hdadm
    obtain ⟨hcerr, hc⟩ := delivers_all suppressReasoning hcadm
    obtain ⟨hderr, hd⟩ := delivers_all suppressReasoning hdadm
    rw [hds] at hd hderr
    exact ⟨(hc hsafe).trans (hd hsafe).symm, hcerr.trans hderr.symm⟩

/-! ### A body whose cuts can be observed -/

/-- The data of a frame that starts a response. -/
def createdData : String :=
  "\x7b\"type\":\"response.created\",\"response\":\x7b\"id\":\"r\"\x7d\x7d"

def createdSerde : SerdeJson :=
  .ofTable [(createdData, .object
    [("type", .string "response.created"), ("response", .object [("id", .string "r")])])]

def createdFrame : List UInt8 := ("data: " ++ createdData ++ "\n\n").toUTF8.data.toList

/-- A frame that is no server-sent event. -/
def strayFrame : List UInt8 := "x\n\n".toUTF8.data.toList

/-- Together with the stray frame the start of the response is lost, apart from it it is delivered.
-/
theorem start_dropped :
    [createdFrame ++ strayFrame].flatten = [createdFrame, strayFrame].flatten ∧
      Admissible createdSerde (fresh false) [createdFrame ++ strayFrame] ∧
      Admissible createdSerde (fresh false) [createdFrame, strayFrame] ∧
      (drive createdSerde (fresh false) [createdFrame ++ strayFrame]).events = [] ∧
      (drive createdSerde (fresh false) [createdFrame, strayFrame]).events =
        [.responseStart { responseId := ⟨"r", by decide⟩ }] := by
  have hidle : Intake.Idle (consumer createdSerde) (fresh false) := idle_fresh false
  refine ⟨by simp, admissible_of_fits _ _ hidle ?_, admissible_of_fits _ _ hidle ?_, ?_, ?_⟩
  all_goals decide +kernel

end Drive

end CpaGateway.Responses.Segmentation
