import CpaGateway.Kiro.Lifecycle
import CpaGateway.Kiro.RoundTrip
import CpaGateway.Kiro.Source

/-! # What a Kiro event source returns

`decode` says what the frames of some bytes decode to, without chunks, queue or lifecycle. A healthy
source (`Healthy`) has handed out or queued exactly the events that the bytes read so far decode to.

A failure does not empty the queue, and before `ResponseStart` is handed out it does not end the
stream. So an event can follow a failure; `Orderly` bodies are those where this cannot happen: the
result that fails queues no event, and either a frame was decoded before it or it is the last one.
-/

namespace CpaGateway.Kiro.Discipline

open Core.Error Core.Events Core.Json Kiro.EventStream Kiro.EventSemantics Kiro.Segments Kiro.Source
open Lib.Effect Lib.Fallible
open Lifecycle (sampleId helloSerde)
open KiroEventSemanticMapper (pushFrame)
open KiroStreamingEventSource hiding new

/-! ### What bytes decode to -/

/-- The events of the frames before the first one that fails, whether one fails, and the mapper and
the bytes behind the last frame. -/
structure Decoding where
  events : List CanonicalEvent
  failed : Bool
  mapper : KiroEventSemanticMapper
  rest : List UInt8

def Decoding.after (d : Decoding) (es : List CanonicalEvent) : Decoding :=
  { d with events := es ++ d.events }

/-- The events that open the response, unless it is open. -/
def opening (m : KiroEventSemanticMapper) : List CanonicalEvent :=
  if m.started then []
  else [.responseStart { responseId := m.responseId }, .messageStart { role := ⟨"assistant"⟩ }]

def decode (serde : SerdeJson) (m : KiroEventSemanticMapper) (T : List UInt8) : Decoding :=
  match _h : head T with
  | none => ⟨[], false, m, T⟩
  | some (.good frame, n) =>
    match (pushFrame serde frame).call { m with started := true } with
    | (.ok es, m') => (decode serde m' (T.drop n)).after (opening m ++ es)
    | (.error _, m') => ⟨opening m, true, m', T⟩
  | some _ => ⟨[], true, m, T⟩
termination_by T.length
decreasing_by
  have := head_bounds _h
  simp only [List.length_drop]
  omega

variable {m m' : KiroEventSemanticMapper} {serde : SerdeJson} {frame : KiroEventStreamFrame}
  {es : List CanonicalEvent}

section Decode

variable {T b R : List UInt8} {n : ℕ}

theorem decode_none (h : head T = none) : decode serde m T = ⟨[], false, m, T⟩ := by
  rw [decode]; split <;> simp_all

theorem decode_fail {g : Segment} (h : head T = some (g, n)) (hg : ∀ f, g ≠ .good f) :
    decode serde m T = ⟨[], true, m, T⟩ := by
  rw [decode]
  split
  · simp_all
  · rename_i hhead
    rw [h, Option.some.injEq, Prod.mk.injEq] at hhead
    exact absurd hhead.1 (hg _)
  · rfl

theorem decode_good (h : head T = some (.good frame, n))
    (hp : (pushFrame serde frame).call { m with started := true } =
      (.ok es, m')) :
    decode serde m T = (decode serde m' (T.drop n)).after (opening m ++ es) := by
  rw [decode]; split <;> simp_all

theorem decode_refused {e : KiroEventSemanticError} (h : head T = some (.good frame, n))
    (hp : (pushFrame serde frame).call { m with started := true } =
      (.error e, m')) :
    decode serde m T = ⟨opening m, true, m', T⟩ := by
  rw [decode]; split <;> simp_all

@[simp] theorem after_nil (d : Decoding) : d.after [] = d := by simp [Decoding.after]

theorem decode_rest_waits (m : KiroEventSemanticMapper) (T : List UInt8)
    (hf : (decode serde m T).failed = false) : head (decode serde m T).rest = none := by
  fun_induction decode serde m T with
  | case1 m T hh => exact hh
  | case2 m T frame n hh es m' hp ih => exact ih hf
  | case3 | case4 => cases hf

theorem decode_append (m : KiroEventSemanticMapper) (b : List UInt8)
    (hf : (decode serde m b).failed = false) :
    decode serde m (b ++ R) = (decode serde (decode serde m b).mapper
      ((decode serde m b).rest ++ R)).after (decode serde m b).events := by
  fun_induction decode serde m b with
  | case1 => rw [after_nil]
  | case2 m b frame n hh es m' hp ih =>
    rw [decode_good (head_append_frame hh (by simp)) hp,
      List.drop_append_of_le_length (head_bounds hh).2, ih hf]
    simp [Decoding.after]
  | case3 | case4 => cases hf

theorem decode_append_failed (m : KiroEventSemanticMapper) (b : List UInt8)
    (hf : (decode serde m b).failed = true) :
    (decode serde m (b ++ R)).failed = true ∧
      (decode serde m (b ++ R)).events = (decode serde m b).events := by
  fun_induction decode serde m b with
  | case1 => cases hf
  | case2 m b frame n hh es m' hp ih =>
    obtain ⟨hf', he⟩ := ih hf
    rw [decode_good (head_append_frame hh (by simp)) hp,
      List.drop_append_of_le_length (head_bounds hh).2]
    exact ⟨hf', by simp [Decoding.after, he]⟩
  | case3 m b frame n hh e m' hp =>
    rw [decode_refused (head_append_frame hh (by simp)) hp]
    exact ⟨rfl, rfl⟩
  | case4 m b g hg hh =>
    obtain ⟨g, n⟩ := g
    have hbad : ∃ g' n', head (b ++ R) = some (g', n') ∧ ∀ f, g' ≠ .good f := by
      cases g with
      | good f => exact absurd rfl (hg f n)
      | bad => exact ⟨_, _, head_append_frame hh (by simp), by simp⟩
      | garbage k => exact ⟨_, _, (head_garbage_append hh).2.2.2, by simp⟩
    obtain ⟨g', n', hh', hg'⟩ := hbad
    rw [decode_fail hh' hg']
    exact ⟨rfl, rfl⟩

end Decode

/-! ### One chunk -/

variable {s : KiroStreamingEventSource}

/-- The mapper's flags, which no frame changes. -/
def flags (m : KiroEventSemanticMapper) : ResponseId × Bool × Bool :=
  (m.responseId, m.started, m.finished)

theorem keeps_toolEvents (payload : Map) :
    Keeps flags (KiroEventSemanticMapper.toolEvents serde payload) := by
  have hdeclare : ∀ id, Keeps flags (KiroEventSemanticMapper.declareTool payload id) := by
    intro id
    refine keeps_bind (by simp) fun m => ?_
    split
    · exact keeps_bind (by simp) fun _ => keeps_bind (by simp) fun _ =>
        keeps_bind (keeps_modify fun _ => rfl) fun _ => by simp
    · exact keeps_bind (by simp) fun _ => by simp
  have happend : ∀ id input, Keeps flags (KiroEventSemanticMapper.appendInput id input) := by
    intro id input
    repeat refine keeps_bind (by simp) fun _ => ?_
    exact keeps_bind (keeps_modify fun _ => rfl) fun _ => by simp
  have hclose : ∀ id stop, Keeps flags (KiroEventSemanticMapper.closeTool serde id stop) := by
    intro id stop
    cases stop with
    | false => exact keeps_pure _
    | true =>
      repeat refine keeps_bind (by simp) fun _ => ?_
      exact keeps_bind (keeps_modify fun _ => rfl) fun _ => keeps_bind (by simp) fun _ => by simp
  repeat refine keeps_bind (by simp [hdeclare, happend, hclose]) fun _ => ?_
  simp

theorem keeps_pushFrame (serde : SerdeJson) (frame : KiroEventStreamFrame) :
    Keeps flags (pushFrame serde frame) := by
  repeat refine keeps_bind (by simp) fun _ => ?_
  split <;> simp [keeps_toolEvents]

theorem started_pushFrame {r : Except KiroEventSemanticError (List CanonicalEvent)}
    (h : (pushFrame serde frame).call { m with started := true } = (r, m')) :
    m'.started = true ∧ m'.finished = m.finished := by
  have hkeep := keeps_pushFrame serde frame { m with started := true }
  rw [h] at hkeep
  simp only [flags, Prod.mk.injEq] at hkeep
  exact ⟨hkeep.2.1, hkeep.2.2⟩

theorem started_of_opening (h : opening m = []) : m.started = true := by
  by_contra hne
  simp [opening, hne] at h

/-- The lifecycle of the source tells whether its mapper is started; neither is over. -/
structure Ready (s : KiroStreamingEventSource) : Prop where
  lifecycle : s.lifecycle = if s.semantics.started then .streaming else .awaitingFirstFrame
  unfinished : s.semantics.finished = false

theorem mapFrame_call (hs : Ready s) (frame : KiroEventStreamFrame) :
    (mapFrame serde frame).call s =
      match (pushFrame serde frame).call
        { s.semantics with started := true } with
      | (.ok es, m') => (.ok (), { s with
          semantics := m', pending := s.pending ++ (opening s.semantics ++ es),
          lifecycle := .streaming })
      | (.error _, m') => (.error providerProtocolError, { s with
          semantics := m', pending := s.pending ++ opening s.semantics,
          lifecycle := .streaming }) := by
  have hopen : openStream.call s = (.ok (), { s with
      semantics := { s.semantics with started := true },
      pending := s.pending ++ opening s.semantics, lifecycle := .streaming }) := by
    rcases s with ⟨body, framing, ⟨id, started, finished, tools⟩, pending, lifecycle, rs, tf⟩
    obtain ⟨hl, hu⟩ := hs
    cases started with
    | true =>
      obtain rfl : lifecycle = .streaming := hl
      simp only [opening, if_true, List.append_nil]
      rfl
    | false =>
      obtain rfl : lifecycle = .awaitingFirstFrame := hl
      obtain rfl : finished = false := hu
      rfl
  rw [mapFrame, call_bind, hopen]
  simp only [onSemantics, Method.onPart, call_bind, call_of]
  rcases (pushFrame serde frame).call { s.semantics with started := true }
    with ⟨e | es, m'⟩
  · rfl
  · simp only [Except.mapError, ← List.append_assoc]
    rfl

/-- What mapping the frames of the buffer did to the source. -/
structure Mapped (s s' : KiroStreamingEventSource) (d : Decoding) : Prop where
  pending : s'.pending = s.pending ++ d.events
  ready : Ready s'
  body : s'.body = s.body
  responseStarted : s'.responseStarted = s.responseStarted
  terminalFailureEmitted : s'.terminalFailureEmitted = s.terminalFailureEmitted
  unopened : d.events = [] → s'.semantics.started = s.semantics.started
  semantics : d.failed = false → s'.semantics = d.mapper
  buffer : d.failed = false → s'.framing.buffer = d.rest
  live : d.failed = false → Live s'.framing

/-- The result of mapping. -/
def result (d : Decoding) : Except GatewayError Unit :=
  if d.failed then .error providerProtocolError else .ok ()

/-- **The frames of the buffer** are mapped as `decode` says. -/
theorem mapLoop_spec (serde : SerdeJson) :
    ∀ (fuel : ℕ) (s : KiroStreamingEventSource), Live s.framing → Ready s →
    s.framing.buffer.length < fuel →
      ∃ s', (mapLoop serde fuel).call s =
          (result (decode serde s.semantics s.framing.buffer), s') ∧
        Mapped s s' (decode serde s.semantics s.framing.buffer)
  | 0, s, _, _, hlen => absurd hlen (Nat.not_lt_zero _)
  | fuel + 1, s, hl, hs, hlen => by
    rw [mapLoop, call_bind]
    simp only [onFraming, Method.onPart, call_of]
    rcases hh : head s.framing.buffer with _ | ⟨g, n⟩
    · rw [nextFrame_none hl.running hh, decode_none hh]
      exact ⟨s, rfl, by simp, hs, rfl, rfl, rfl, fun _ => rfl, fun _ => rfl, fun _ => rfl,
        fun _ => hl⟩
    by_cases hg : ∃ f, g = .good f
    · obtain ⟨frame, rfl⟩ := hg
      rcases hp : (pushFrame serde frame).call { s.semantics with started := true } with ⟨r, m'⟩
      have hflags := started_pushFrame hp
      rw [nextFrame_good hl.running hh]
      simp only [Except.mapError, call_bind]
      rw [mapFrame_call (s := { s with
        framing := { s.framing.discard n with consecutiveErrors := 0 } })
        ⟨hs.lifecycle, hs.unfinished⟩, hp]
      rcases r with e | es
      · rw [decode_refused hh hp]
        refine ⟨_, rfl, rfl, ⟨?_, hflags.2.trans hs.unfinished⟩, rfl, rfl, rfl, fun hempty => ?_,
          by simp, by simp, by simp⟩
        · simp [hflags.1]
        · simp [hflags.1, started_of_opening hempty]
      · -- a frame is mapped, and the loop goes on behind it
        have hn := head_bounds hh
        rw [decode_good hh hp]
        obtain ⟨s', hcall, hm⟩ := mapLoop_spec serde fuel { s with
            framing := { s.framing.discard n with consecutiveErrors := 0 }, semantics := m',
            pending := s.pending ++ (opening s.semantics ++ es), lifecycle := .streaming }
          ⟨hl.running, Nat.zero_lt_succ _, hl.bounded.drop hh⟩
          ⟨by simp [hflags.1], hflags.2.trans hs.unfinished⟩
          (by simp only [KiroEventStreamDecoder.discard, List.length_drop]; omega)
        refine ⟨s', hcall, ?_, hm.ready, hm.body, hm.responseStarted, hm.terminalFailureEmitted, ?_,
          hm.semantics, hm.buffer, hm.live⟩
        · rw [hm.pending]
          simp [Decoding.after, KiroEventStreamDecoder.discard]
        · intro hempty
          simp only [Decoding.after, List.append_eq_nil_iff] at hempty
          obtain ⟨⟨hopen, -⟩, hrest⟩ := hempty
          rw [hm.unopened hrest]
          simp [hflags.1, started_of_opening hopen]
    · push Not at hg
      obtain ⟨e, he⟩ := nextFrame_fail hl.running hh hg
      rw [he, decode_fail hh hg]
      exact ⟨_, rfl, by simp, ⟨hs.lifecycle, hs.unfinished⟩, rfl, rfl, rfl, fun _ => rfl, by simp,
        by simp, by simp⟩

/-- **One chunk** of a permitted size, behind a buffer that waits. -/
theorem takeChunk_spec (serde : SerdeJson) (bytes : List UInt8) (hl : Live s.framing)
    (hw : head s.framing.buffer = none) (hs : Ready s) (hlen : bytes.length ≤ maxFrameBytes) :
    ∃ s', (takeChunk serde bytes).call s =
        (result (decode serde s.semantics (s.framing.buffer ++ bytes)), s') ∧
      Mapped s s' (decode serde s.semantics (s.framing.buffer ++ bytes)) := by
  obtain ⟨hfeed, hl'⟩ := feed_live hl hw hlen
  obtain ⟨s', hcall, hm⟩ := mapLoop_spec serde _
    { s with framing := { s.framing with buffer := s.framing.buffer ++ bytes } } hl'
    ⟨hs.lifecycle, hs.unfinished⟩ (Nat.lt_succ_self _)
  refine ⟨s', ?_, ⟨hm.pending, hm.ready, hm.body, hm.responseStarted, hm.terminalFailureEmitted,
    hm.unopened, hm.semantics, hm.buffer, hm.live⟩⟩
  rw [takeChunk, call_bind]
  simp only [onFraming, Method.onPart, call_of, hfeed]
  exact hcall

/-- The body may end here: no byte is left, the response is open and no tool call is. -/
def mayEnd (rest : List UInt8) (m : KiroEventSemanticMapper) : Bool :=
  rest.isEmpty && m.started && m.openTools.isEmpty

theorem finishStream_drained (hrun : s.framing.stopped = false) (hb : s.framing.buffer = []) :
    (finishStream serde).call s =
      Method.call (do
        let s ← get
        ensure (s.lifecycle = .streaming) providerProtocolError
        let events ← onSemantics KiroEventSemanticMapper.finish
        modify fun s => { s with pending := s.pending ++ events, lifecycle := .finished }) s := by
  have hfinish : s.framing.finish = (.ok (), s.framing) := by
    simp [KiroEventStreamDecoder.finish, hrun, hb]
  have hnone : s.framing.nextFrame = (.ok none, s.framing) :=
    nextFrame_none hrun (hb ▸ by decide)
  have hframing : (onFraming (.of KiroEventStreamDecoder.finish)).call s =
      (.ok (), s) := by
    simp only [onFraming, Method.onPart, call_of, hfinish]; rfl
  have hmap : (mapAvailableFrames serde).call s = (.ok (), s) := by
    simp [mapAvailableFrames, mapLoop, onFraming, Method.onPart, call_eq, call_of, hnone,
      Except.mapError]
  rw [finishStream, call_bind, hframing]
  simp only
  rw [call_bind, hmap]

theorem finishStream_truncated (serde : SerdeJson)
    (h : s.framing.stopped = true ∨ s.framing.buffer ≠ []) :
    ∃ framing, (finishStream serde).call s =
      (.error providerProtocolError, { s with framing }) := by
  have hfinish : ∃ e d, s.framing.finish = (.error e, d) := by
    unfold KiroEventStreamDecoder.finish
    split_ifs with hrun hb
    · exact ⟨_, _, rfl⟩
    · simp_all
    · exact ⟨_, _, rfl⟩
  obtain ⟨e, d, hfinish⟩ := hfinish
  refine ⟨d, ?_⟩
  rw [finishStream, call_bind]
  simp only [onFraming, Method.onPart, call_of, hfinish]
  rfl

theorem finishStream_awaiting (serde : SerdeJson) (h : s.lifecycle = .awaitingFirstFrame) :
    ∃ framing, (finishStream serde).call s =
      (.error providerProtocolError, { s with framing }) := by
  by_cases hd : s.framing.stopped = false ∧ s.framing.buffer = []
  · refine ⟨s.framing, ?_⟩
    have hno : decide (s.lifecycle = .streaming) = false := by simp [h]
    rw [finishStream_drained hd.1 hd.2]
    simp only [call_eq, hno]
    rfl
  · refine finishStream_truncated serde ?_
    rw [← Bool.not_eq_false]
    exact not_and_or.mp hd

/-- **The end of the body** of a source that is not over. -/
theorem finishStream_spec (serde : SerdeJson) (hl : Live s.framing) (hs : Ready s) :
    (mayEnd s.framing.buffer s.semantics = true ∧ ∃ s', (finishStream serde).call s = (.ok (), s') ∧
      s'.pending = s.pending ++ [.messageEnd {}, .responseEnd {}] ∧ s'.lifecycle = .finished) ∨
    (mayEnd s.framing.buffer s.semantics = false ∧ ∃ s', (finishStream serde).call s =
        (.error providerProtocolError, s') ∧
      s'.pending = s.pending ∧ s'.lifecycle = s.lifecycle ∧ s'.semantics = s.semantics ∧
      s'.body = s.body ∧
      s'.responseStarted = s.responseStarted ∧
      s'.terminalFailureEmitted = s.terminalFailureEmitted) := by
  by_cases hb : s.framing.buffer = []
  · rw [finishStream_drained hl.running hb]
    simp only [call_eq]
    cases hstarted : s.semantics.started with
    | false =>
      refine .inr ⟨by simp [mayEnd, hstarted], s, ?_, rfl, rfl, rfl, rfl, rfl, rfl⟩
      simp [hs.lifecycle, hstarted]
    | true =>
      have hstreaming : s.lifecycle = .streaming := by simp [hs.lifecycle, hstarted]
      have hcall : KiroEventSemanticMapper.finish.call s.semantics =
          if s.semantics.openTools.isEmpty then
            (.ok [.messageEnd {}, .responseEnd {}], { s.semantics with finished := true })
          else (.error .unfinishedTool, s.semantics) := by
        simp only [KiroEventSemanticMapper.finish, call_eq, hstarted, hs.unfinished, Bool.not_false,
          Bool.and_self]
        cases s.semantics.openTools.isEmpty <;> simp [hstarted]
      simp only [hstreaming, decide_true, if_true, onSemantics,
        Method.onPart, call_of, hcall]
      cases hopen : s.semantics.openTools.isEmpty with
      | true => exact .inl ⟨by simp [mayEnd, hb, hstarted, hopen], _, rfl, rfl, rfl⟩
      | false => exact .inr ⟨by simp [mayEnd, hopen], _, rfl, rfl, rfl, rfl, rfl, rfl, rfl⟩
  · obtain ⟨d, hcall⟩ := finishStream_truncated serde (s := s) (.inr hb)
    exact .inr ⟨by simp [mayEnd, hb], _, hcall, rfl, rfl, rfl, rfl, rfl, rfl⟩

/-! ### What the events look like -/

theorem nonterminal_pushFrame (h : (pushFrame serde frame).call m = (.ok es, m')) :
    ∀ e ∈ es, e.isTerminal = false := by
  rcases Lifecycle.pushFrame_ok h with ⟨use, -, hu⟩ | ⟨-, -, hspeaks⟩
  · obtain ⟨name, input, arguments, -, rfl⟩ := hu.emits
    intro e he
    simp only [Lifecycle.fragment, Lifecycle.ending, List.mem_append] at he
    rcases he with (he | he) | he <;> simp_all [CanonicalEvent.isTerminal]
  · intro e he
    cases hspeaks e he <;> rfl

theorem nonterminal_opening (m : KiroEventSemanticMapper) :
    ∀ e ∈ opening m, e.isTerminal = false := by
  intro e he
  unfold opening at he
  split_ifs at he
  · simp at he
  · simp only [List.mem_cons, List.not_mem_nil, or_false] at he
    rcases he with rfl | rfl <;> rfl

theorem nonterminal_decode (serde : SerdeJson) (m : KiroEventSemanticMapper) (T : List UInt8) :
    ∀ e ∈ (decode serde m T).events, e.isTerminal = false := by
  fun_induction decode serde m T with
  | case1 | case4 => simp
  | case2 m T frame n hh es m' hp ih =>
    intro e he
    simp only [Decoding.after, List.mem_append] at he
    rcases he with (he | he) | he
    · exact nonterminal_opening m e he
    · exact nonterminal_pushFrame hp e he
    · exact ih e he
  | case3 m => exact nonterminal_opening m

/-- A response that has events begins with `ResponseStart`; one without is not open. -/
theorem decode_unstarted (serde : SerdeJson) (hm : m.started = false) (T : List UInt8) :
    ((decode serde m T).events = [] ∧
      ((decode serde m T).failed = false → (decode serde m T).mapper.started = false)) ∨
    ∃ r tl, (decode serde m T).events = .responseStart r :: tl := by
  have hopen : opening m = [.responseStart { responseId := m.responseId },
      .messageStart { role := ⟨"assistant"⟩ }] := by simp [opening, hm]
  fun_cases decode serde m T with
  | case1 | case4 => exact .inl (by simp [hm])
  | case2 => exact .inr (by simp [Decoding.after, hopen])
  | case3 => exact .inr (by simp [hopen])

/-! ### Orderly bodies -/

/-- What the bytes of a body decode to. -/
def reads (serde : SerdeJson) (id : ResponseId) (S : List UInt8) : Decoding :=
  decode serde { responseId := id } S

/-- The bytes of the chunks before the first other result. -/
def received : List BodyResult → List UInt8
  | .chunk bytes :: rest => bytes ++ received rest
  | _ => []

def BodyResult.bytes : BodyResult → List UInt8
  | .chunk bytes => bytes
  | _ => []

def fails (serde : SerdeJson) (id : ResponseId) (S : List UInt8) : BodyResult → Bool
  | .chunk bytes => (reads serde id (S ++ bytes)).failed
  | .failed _ => true
  | .finished => !mayEnd (reads serde id S).rest (reads serde id S).mapper

/-- A body whose chunks have a permitted size, and whose first failing result decodes to no event of
its own and comes behind a decoded frame or last. -/
structure Orderly (serde : SerdeJson) (id : ResponseId) (R : List BodyResult) : Prop where
  short : ∀ bytes, BodyResult.chunk bytes ∈ R → bytes.length ≤ maxFrameBytes
  failure : ∀ (cs : List (List UInt8)) r rest, R = cs.map .chunk ++ r :: rest →
    (reads serde id cs.flatten).failed = false → fails serde id cs.flatten r = true →
    (reads serde id (cs.flatten ++ BodyResult.bytes r)).events =
      (reads serde id cs.flatten).events ∧
      ((reads serde id cs.flatten).events ≠ [] ∨ rest = [])

/-- The call returned an event. -/
def isEvent : Output → Bool
  | .ok (some _) => true
  | _ => false

/-- The call returned an error or a terminal event. -/
def isLast : Output → Bool
  | .error _ => true
  | .ok (some e) => e.isTerminal
  | .ok none => false

def event (e : CanonicalEvent) : Output := .ok (some e)

def eventsOf (outs : List Output) : List CanonicalEvent :=
  outs.filterMap fun
    | .ok e => e
    | .error _ => none

/-! ### Whole runs -/

variable {p : List CanonicalEvent} {outs : List Output}

section Run

variable {id : ResponseId} {R : List BodyResult} {S : List UInt8} {sent ref : List CanonicalEvent}

/-- A source that has read `S` without a failure and has returned `sent`. -/
structure Healthy (serde : SerdeJson) (id : ResponseId) (S : List UInt8)
    (sent : List CanonicalEvent) (s : KiroStreamingEventSource) : Prop where
  sound : (reads serde id S).failed = false
  mapper : s.semantics = (reads serde id S).mapper
  buffer : s.framing.buffer = (reads serde id S).rest
  live : Live s.framing
  events : sent ++ s.pending = (reads serde id S).events
  started : s.responseStarted = !sent.isEmpty
  ready : Ready s
  quiet : s.terminalFailureEmitted = false

/-- A source that returns no event any more. -/
structure Silent (s : KiroStreamingEventSource) : Prop where
  pending : s.pending = []
  ended : s.lifecycle = .finished ∨
    (s.lifecycle = .awaitingFirstFrame ∧ s.responseStarted = false ∧ s.body = [])

/-- How a run ends: with the end of the response, or with a failure behind all decoded events. -/
def Ends (ref sent : List CanonicalEvent) (out : Output) : Prop :=
  (out = event (.responseEnd {}) ∧ sent = ref ++ [.messageEnd {}]) ∨
    (((∃ e, out = .error e) ∨ ∃ e, out = event (.streamError e)) ∧ sent = ref)

/-- Where a run of an orderly body is after the outputs `outs`. -/
inductive Inv (serde : SerdeJson) (id : ResponseId) (R : List BodyResult) :
    List Output → KiroStreamingEventSource → Prop
  | running {cs : List (List UInt8)} {sent : List CanonicalEvent} {s : KiroStreamingEventSource} :
      R = cs.map .chunk ++ s.body → Healthy serde id cs.flatten sent s →
        Inv serde id R (sent.map event) s
  | closing {sent : List CanonicalEvent} {s : KiroStreamingEventSource} : s.lifecycle = .finished →
    s.pending ≠ [] →
      sent ++ s.pending = (reads serde id (received R)).events ++
        [.messageEnd {}, .responseEnd {}] →
      Inv serde id R (sent.map event) s
  | ended {sent : List CanonicalEvent} {out : Output} {later : List Output}
      {s : KiroStreamingEventSource} : Silent s →
        Ends (reads serde id (received R)).events sent out →
      (∀ o ∈ later, isEvent o = false) → Inv serde id R (sent.map event ++ out :: later) s

theorem received_chunks (cs : List (List UInt8)) (R : List BodyResult) :
    received (cs.map .chunk ++ R) = cs.flatten ++ received R := by
  induction cs with
  | nil => rfl
  | cons c cs ih => simp [received, ih]

variable {e : CanonicalEvent}

theorem nextPending_cons (h : s.pending = e :: p) :
    ∃ started, s.nextPending = (some e, { s with pending := p, responseStarted := started }) ∧
      (started = true ∨ started = s.responseStarted) ∧
      (∀ r, e = .responseStart r → started = true) := by
  unfold nextPending
  rw [h]
  cases e with
  | responseStart r => exact ⟨true, rfl, .inl rfl, fun _ _ => rfl⟩
  | _ => exact ⟨s.responseStarted, rfl, .inr rfl, by simp⟩

theorem nextPending_nil (h : s.pending = []) : s.nextPending = (none, s) := by
  simp [nextPending, h]

section

variable (hH : Healthy serde id S sent s)

include hH

theorem Healthy.pop (h : s.pending = e :: p) :
    ∃ s', s.nextPending = (some e, s') ∧ s'.body = s.body ∧
      Healthy serde id S (sent ++ [e]) s' := by
  obtain ⟨started, hpop, hflag, hfirst⟩ := nextPending_cons h
  have hevents := hH.events
  rw [h] at hevents
  refine ⟨_, hpop, rfl, hH.sound, hH.mapper, hH.buffer, hH.live, by simp [← hevents], ?_,
    ⟨hH.ready.lifecycle, hH.ready.unfinished⟩, hH.quiet⟩
  -- the first event of a response is `ResponseStart`
  have htrue : started = true := by
    rcases hflag with hflag | hflag
    · exact hflag
    rcases sent with _ | ⟨x, sent⟩
    · rcases decode_unstarted serde (m := { responseId := id }) rfl S with
        ⟨hnil, -⟩ | ⟨r, tl, hcons⟩
      · simp [reads, hnil] at hevents
      · rw [reads, hcons, List.nil_append, List.cons.injEq] at hevents
        exact hfirst r hevents.1
    · rw [hflag, hH.started]; rfl
  simp [htrue]

theorem Healthy.waits : head s.framing.buffer = none := by
  rw [hH.buffer]
  exact decode_rest_waits _ S hH.sound

theorem Healthy.unstarted (hp : s.pending = []) (hsent : sent = []) :
    s.semantics.started = false := by
  have hevents := hH.events
  rw [hp, hsent] at hevents
  rw [hH.mapper]
  rcases decode_unstarted serde (m := { responseId := id }) rfl S with ⟨-, hm⟩ | ⟨r, tl, hcons⟩
  · exact hm hH.sound
  · simp [reads, hcons] at hevents

theorem Healthy.withBody (body : List BodyResult) : Healthy serde id S sent { s with body } :=
  ⟨hH.sound, hH.mapper, hH.buffer, hH.live, hH.events, hH.started,
    ⟨hH.ready.lifecycle, hH.ready.unfinished⟩, hH.quiet⟩

end

theorem failure_over {error : GatewayError} (hp : s.pending = [])
    (hstart : s.responseStarted = !sent.isEmpty) (hq : s.terminalFailureEmitted = false)
    (hsent : sent = (reads serde id (received R)).events)
    (hrest : sent ≠ [] ∨ s.body = []) (hs : Ready s)
    (hwait : sent = [] → s.semantics.started = false) :
    Inv serde id R (sent.map event ++ [(s.terminalFailure error).1])
      (s.terminalFailure error).2 := by
  unfold terminalFailure
  cases hflag : s.responseStarted with
  | false =>
    have hnil : sent = [] := by simpa [hflag] using hstart
    have hlife : s.lifecycle = .awaitingFirstFrame := by simp [hs.lifecycle, hwait hnil]
    exact .ended ⟨hp, .inr ⟨hlife, hflag, hrest.resolve_left (by simp [hnil])⟩⟩
      (.inr ⟨.inl ⟨error, rfl⟩, hsent⟩) (by simp)
  | true =>
    simp only [Bool.false_eq_true, hq]
    exact .ended ⟨hp, .inl rfl⟩ (.inr ⟨.inr ⟨⟨error⟩, rfl⟩, hsent⟩) (by simp)

theorem endBody_inv (hH : Healthy serde id S sent s) (hp : s.pending = []) (hS : received R = S)
    (hrest : mayEnd s.framing.buffer s.semantics = false → sent ≠ [] ∨ s.body = []) :
    Inv serde id R (sent.map event ++ [(s.endBody serde).1]) (s.endBody serde).2 := by
  have hevents := hH.events
  rw [hp, List.append_nil, ← hS] at hevents
  unfold endBody
  rcases finishStream_spec serde hH.live hH.ready with
    ⟨-, s', hcall, hpend, hlife⟩ | ⟨hmay, s', hcall, hpend, hlife, hready, hbody, hstarted, hquiet⟩
  · rw [hp, List.nil_append] at hpend
    obtain ⟨started, hpop, -, -⟩ := nextPending_cons hpend
    simp only [hcall, hpop]
    have hclosing : Inv serde id R (List.map event (sent ++ [.messageEnd {}]))
        { s' with pending := [.responseEnd {}], responseStarted := started } :=
      .closing hlife (by simp) (by simp [hevents])
    simpa [event] using hclosing
  · simp only [hcall]
    exact failure_over (hpend.trans hp) (hstarted.trans hH.started) (hquiet.trans hH.quiet) hevents
      (hbody ▸ hrest hmay)
        ⟨by rw [hlife, hready]; exact hH.ready.lifecycle, by rw [hready]; exact hH.ready.unfinished⟩
      (hready ▸ hH.unstarted hp)

/-- **Reading the body** of a healthy source with an empty queue. -/
theorem readBody_inv (hR : Orderly serde id R) : ∀ (body : List BodyResult)
    (cs : List (List UInt8)) (s : KiroStreamingEventSource), s.body = body →
      R = cs.map .chunk ++ body → Healthy serde id cs.flatten sent s → s.pending = [] →
      Inv serde id R (sent.map event ++ [(readBody serde body s).1])
        (readBody serde body s).2
  | [], cs, s, hbody, hcs, hH, hp => by
    rw [readBody]
    have hS : received R = cs.flatten := by rw [hcs, received_chunks]; simp [received]
    exact endBody_inv hH hp hS fun _ => .inr hbody
  | .finished :: rest, cs, s, hbody, hcs, hH, hp => by
    rw [readBody]
    have hS : received R = cs.flatten := by rw [hcs, received_chunks]; simp [received]
    refine endBody_inv (hH.withBody rest) hp hS fun hmay => ?_
    have hfails : fails serde id cs.flatten .finished = true := by
      simp [fails, ← hH.mapper, ← hH.buffer, hmay]
    have hend := (hR.failure cs _ rest hcs hH.sound hfails).2
    rwa [← hH.events, hp, List.append_nil] at hend
  | .failed error :: rest, cs, s, hbody, hcs, hH, hp => by
    rw [readBody]
    have hS : received R = cs.flatten := by rw [hcs, received_chunks]; simp [received]
    have hevents := hH.events
    rw [hp, List.append_nil] at hevents
    have hend := (hR.failure cs _ rest hcs hH.sound rfl).2
    exact failure_over hp hH.started hH.quiet (hS ▸ hevents) (hevents ▸ hend)
      (hH.withBody rest).ready (hH.unstarted hp)
  | .chunk bytes :: rest, cs, s, hbody, hcs, hH, hp => by
    rw [readBody]
    have hHr := hH.withBody rest
    obtain ⟨s', hcall, hm⟩ := takeChunk_spec serde bytes hHr.live hHr.waits hHr.ready
      (hR.short bytes (by simp [hcs]))
    have hreads : reads serde id (cs.flatten ++ bytes) =
        (decode serde s.semantics (s.framing.buffer ++ bytes)).after
          (reads serde id cs.flatten).events := by
      rw [reads, decode_append _ _ hH.sound, hH.mapper, hH.buffer]
      rfl
    have hevents := hH.events
    rw [hp, List.append_nil] at hevents
    rw [hcall]
    set D := decode serde s.semantics (s.framing.buffer ++ bytes) with hD
    cases hf : D.failed with
    | true =>
      have hfails : fails serde id cs.flatten (.chunk bytes) = true := by
        simp [fails, hreads, Decoding.after, hf]
      obtain ⟨hsame, hend⟩ := hR.failure cs _ rest hcs hH.sound hfails
      have hnone : D.events = [] := by simpa [BodyResult.bytes, hreads, Decoding.after] using hsame
      have href : sent = (reads serde id (received R)).events := by
        rw [hcs, received_chunks, received, ← List.append_assoc, reads,
          (decode_append_failed _ _ hfails).2, hevents]
        exact hsame.symm
      simp only [result, hf, if_true]
      refine failure_over ?_ (hm.responseStarted.trans hH.started)
        (hm.terminalFailureEmitted.trans hH.quiet) href ?_ hm.ready fun hsent => ?_
      · rw [hm.pending, hnone, List.append_nil]; exact hp
      · rw [hm.body]; exact hevents ▸ hend
      · exact (hm.unopened hnone).trans (hH.unstarted hp hsent)
    | false =>
      have hflat : (cs ++ [bytes]).flatten = cs.flatten ++ bytes := by simp
      have hH' : Healthy serde id (cs ++ [bytes]).flatten sent s' := by
        rw [hflat]
        refine ⟨by rw [hreads]; exact hf, by rw [hreads]; exact hm.semantics hf,
          by rw [hreads]; exact hm.buffer hf, hm.live hf, ?_, hm.responseStarted.trans hH.started,
          hm.ready, hm.terminalFailureEmitted.trans hH.quiet⟩
        rw [hreads, hm.pending]
        simp [Decoding.after, hp, hevents]
      have hcs' : R = (cs ++ [bytes]).map .chunk ++ rest := by simp [hcs]
      simp only [result, hf, Bool.false_eq_true, if_false]
      rcases hpend : s'.pending with _ | ⟨e, p⟩
      · rw [nextPending_nil hpend]
        exact readBody_inv hR rest (cs ++ [bytes]) s' hm.body hcs' hH' hpend
      · obtain ⟨s'', hpop, hbody', hH''⟩ := hH'.pop hpend
        rw [hpop]
        have hrun : Inv serde id R (List.map event (sent ++ [e])) s'' :=
          .running (by rw [hbody', hm.body]; exact hcs') hH''
        simpa [event] using hrun

theorem Silent.step (serde : SerdeJson) (h : Silent s) :
    isEvent (s.nextEvent serde).1 = false ∧ Silent (s.nextEvent serde).2 := by
  unfold nextEvent
  rw [nextPending_nil h.pending]
  rcases h.ended with hfin | ⟨hwait, hstart, hbody⟩
  · simp only [hfin]
    exact ⟨rfl, h⟩
  · obtain ⟨framing, hcall⟩ := finishStream_awaiting serde hwait
    simp only [hwait, hbody, reduceCtorEq, readBody, endBody, hcall, terminalFailure, hstart,
      Bool.not_false]
    exact ⟨rfl, h.pending, .inr ⟨rfl, rfl, rfl⟩⟩

/-- **One call** on an orderly body. -/
theorem nextEvent_inv (hR : Orderly serde id R) (h : Inv serde id R outs s) :
    Inv serde id R (outs ++ [(s.nextEvent serde).1]) (s.nextEvent serde).2 := by
  cases h with
  | @running cs sent _ hcs hH =>
    unfold nextEvent
    rcases hpend : s.pending with _ | ⟨e, p⟩
    · rw [nextPending_nil hpend]
      have hlife : s.lifecycle ≠ .finished := by
        rw [hH.ready.lifecycle]; split_ifs <;> simp
      simp only [if_neg hlife]
      exact readBody_inv hR s.body cs s rfl hcs hH hpend
    · obtain ⟨s', hpop, hbody, hH'⟩ := hH.pop hpend
      rw [hpop]
      have hrun : Inv serde id R (List.map event (sent ++ [e])) s' :=
        .running (by rw [hbody]; exact hcs) hH'
      simpa [event] using hrun
  | @closing sent _ hfin hne hall =>
    obtain ⟨e, p, hpend⟩ := List.exists_cons_of_ne_nil hne
    obtain ⟨started, hpop, -, -⟩ := nextPending_cons hpend
    unfold nextEvent
    rw [hpop]
    rw [hpend] at hall
    rcases p with _ | ⟨e', p⟩
    · have hlast : sent ++ [e] = ((reads serde id (received R)).events ++ [.messageEnd {}]) ++
          [.responseEnd {}] := by simpa using hall
      obtain ⟨hsent, he⟩ := List.append_inj' hlast rfl
      obtain rfl : e = .responseEnd {} := by simpa using he
      exact .ended ⟨rfl, .inl hfin⟩ (.inl ⟨rfl, hsent⟩) (by simp)
    · have hclosing : Inv serde id R (List.map event (sent ++ [e]))
          { s with pending := e' :: p, responseStarted := started } :=
        .closing hfin (by simp) (by simpa using hall)
      simpa [event] using hclosing
  | @ended sent out later _ hs hend hlater =>
    obtain ⟨hno, hs'⟩ := hs.step serde
    have hended : Inv serde id R (sent.map event ++ out :: (later ++ [(s.nextEvent serde).1]))
        (s.nextEvent serde).2 :=
      .ended hs' hend (by simpa [or_imp, forall_and] using ⟨hlater, hno⟩)
    simpa using hended

/-- **Any number of calls** on an orderly body. -/
theorem outputs_inv (hR : Orderly serde id R) : ∀ (n : ℕ) (outs : List Output)
    (s : KiroStreamingEventSource), Inv serde id R outs s →
      ∃ s', Inv serde id R (outs ++ outputs serde n s) s'
  | 0, outs, s, h => ⟨s, by simpa [outputs] using h⟩
  | n + 1, outs, s, h => by
    obtain ⟨s', h'⟩ := outputs_inv hR n _ _ (nextEvent_inv hR h)
    exact ⟨s', by simpa [outputs] using h'⟩

theorem inv_new : Inv serde id R [] (KiroStreamingEventSource.new R id) := by
  have hnone : reads serde id [] = ⟨[], false, { responseId := id }, []⟩ :=
    decode_none (by decide)
  have hH : Healthy serde id (List.flatten []) [] (KiroStreamingEventSource.new R id) :=
    ⟨by simp [hnone], by simp [hnone, KiroStreamingEventSource.new],
      by simp [hnone, KiroStreamingEventSource.new],
      ⟨rfl, Nat.zero_lt_succ _, .inl (Nat.zero_le _)⟩,
      by simp [hnone, KiroStreamingEventSource.new], rfl, ⟨rfl, rfl⟩, rfl⟩
  exact .running rfl hH

/-- The outputs of a run whose bytes decode to `ref`: nothing follows the output that ends the run,
all of `ref` comes before it, and until then what was returned is a part of `ref` in order. -/
structure Disciplined (ref : List CanonicalEvent) (outs : List Output) : Prop where
  silent : ∀ before out after, outs = before ++ out :: after → isLast out = true →
    ∀ o ∈ after, isEvent o = false
  complete : ∀ before out after, outs = before ++ out :: after → (∀ o ∈ before, isLast o = false) →
    isLast out = true →
    eventsOf before = if out = event (.responseEnd {}) then ref ++ [.messageEnd {}] else ref
  ordered : (∀ o ∈ outs, isLast o = false) → eventsOf outs <+: ref ++ [.messageEnd {}]

@[simp] theorem eventsOf_map_event (es : List CanonicalEvent) : eventsOf (es.map event) = es := by
  induction es with
  | nil => rfl
  | cons e es ih => simpa [eventsOf, event] using ih

theorem not_isLast_event (h : ∀ e ∈ es, e.isTerminal = false) :
    ∀ o ∈ es.map event, isLast o = false := by
  intro o ho
  obtain ⟨e, he, rfl⟩ := List.mem_map.mp ho
  exact h e he

theorem disciplined_open (hno : ∀ o ∈ outs, isLast o = false)
    (hpre : eventsOf outs <+: ref ++ [.messageEnd {}]) : Disciplined ref outs := by
  have habsurd : ∀ before out after, outs = before ++ out :: after → isLast out = true → False := by
    rintro before out after rfl hlast
    simp [hno out (by simp)] at hlast
  exact ⟨fun b o a h hl => (habsurd b o a h hl).elim, fun b o a h _ hl => (habsurd b o a h hl).elim,
    fun _ => hpre⟩

/-- Behind a part without a last output, the first output that can be last is the next one. -/
theorem split_first {before after A B : List Output} {x y : Output}
    (h : A ++ y :: B = before ++ x :: after) (hA : ∀ o ∈ A, isLast o = false)
    (hx : isLast x = true) :
    (before = A ∧ x = y ∧ after = B) ∨ (y ∈ before ∧ ∃ mid, B = mid ++ x :: after) := by
  rcases List.append_eq_append_iff.mp h with ⟨mid, rfl, htail⟩ | ⟨mid, rfl, htail⟩
  · rcases mid with _ | ⟨z, mid⟩
    · obtain ⟨rfl, rfl⟩ : y = x ∧ B = after := by simpa using htail
      exact .inl ⟨by simp, rfl, rfl⟩
    · obtain ⟨rfl, rfl⟩ : y = z ∧ B = mid ++ x :: after := by simpa using htail
      exact .inr ⟨by simp, mid, rfl⟩
  · rcases mid with _ | ⟨z, mid⟩
    · obtain ⟨rfl, rfl⟩ : x = y ∧ after = B := by simpa using htail
      exact .inl ⟨by simp, rfl, rfl⟩
    · obtain ⟨rfl, -⟩ : x = z ∧ after = mid ++ y :: B := by simpa using htail
      simp [hA x (by simp)] at hx

theorem disciplined_over {out : Output} {later : List Output}
    (hsent : ∀ e ∈ sent, e.isTerminal = false) (hend : Ends ref sent out)
    (hlater : ∀ o ∈ later, isEvent o = false) :
    Disciplined ref (sent.map event ++ out :: later) := by
  have hno := not_isLast_event hsent
  have hlast : isLast out = true := by
    rcases hend with ⟨rfl, -⟩ | ⟨⟨e, rfl⟩ | ⟨e, rfl⟩, -⟩ <;> rfl
  refine ⟨fun before x after heq hx => ?_, fun before x after heq hb hx => ?_, fun h => ?_⟩
  · rcases split_first heq hno hx with ⟨-, -, rfl⟩ | ⟨-, mid, rfl⟩
    · exact hlater
    · exact fun o ho => hlater o (by simp [ho])
  · rcases split_first heq hno hx with ⟨rfl, rfl, -⟩ | ⟨hmem, -⟩
    · rw [eventsOf_map_event]
      rcases hend with ⟨rfl, rfl⟩ | ⟨⟨e, rfl⟩ | ⟨e, rfl⟩, rfl⟩
      · rw [if_pos rfl]
      · rw [if_neg (by simp [event])]
      · rw [if_neg (by simp [event])]
    · simp [hb out hmem] at hlast
  · simp [h out (by simp)] at hlast

/-- **A source on an orderly body**: for any number of calls, no event follows an error or a
terminal event, and before it come all the events that the received bytes decode to, however they
were cut into chunks. -/
theorem disciplined (serde : SerdeJson) (id : ResponseId) (R : List BodyResult)
    (hR : Orderly serde id R) (n : ℕ) :
    Disciplined (reads serde id (received R)).events
      (outputs serde n (.new R id)) := by
  have hnonterminal := nonterminal_decode serde { responseId := id } (received R)
  obtain ⟨s', h⟩ := outputs_inv hR n [] _ inv_new
  generalize outputs serde n (.new R id) = outs at h
  cases h with
  | @running cs sent _ hcs hH =>
    have hpre : sent <+: (reads serde id (received R)).events := by
      have hall := decode_append (R := received s'.body) { responseId := id } cs.flatten hH.sound
      rw [hcs, received_chunks, reads, hall]
      exact ⟨s'.pending ++ _, by rw [← List.append_assoc, hH.events]; rfl⟩
    refine disciplined_open (not_isLast_event fun e he => hnonterminal e (hpre.subset he)) ?_
    rw [eventsOf_map_event]
    exact hpre.trans (List.prefix_append _ _)
  | @closing sent _ hfin hne hall =>
    have hpre : sent <+: (reads serde id (received R)).events ++ [.messageEnd {}] := by
      obtain ⟨p, e, hp⟩ := List.eq_nil_or_concat s'.pending |>.resolve_left hne
      rw [hp, List.concat_eq_append] at hall
      have hlast : (sent ++ p) ++ [e] =
          ((reads serde id (received R)).events ++ [.messageEnd {}]) ++ [.responseEnd {}] := by
        simpa using hall
      exact ⟨p, (List.append_inj' hlast rfl).1⟩
    refine disciplined_open (not_isLast_event fun e he => ?_) (by rwa [eventsOf_map_event])
    rcases List.mem_append.mp (hpre.subset he) with he | he
    · exact hnonterminal e he
    · rw [List.mem_singleton.mp he]; rfl
  | @ended sent out later _ hs hend hlater =>
    refine disciplined_over (fun e he => ?_) hend hlater
    rcases hend with ⟨-, rfl⟩ | ⟨-, rfl⟩
    · rcases List.mem_append.mp he with he | he
      · exact hnonterminal e he
      · rw [List.mem_singleton.mp he]; rfl
    · exact hnonterminal e he

end Run

/-! ### A text frame -/

theorem eventType_ne : ":event-type" ≠ "" := by decide

theorem eventType_fits : (RoundTrip.utf8 ":event-type").length ≤ 255 := by decide

def helloFrame : RoundTrip.WireFrame where
  headers :=
    [⟨":message-type", .string "event", by decide, by decide, by
      unfold RoundTrip.ValueFits; decide⟩,
      ⟨":event-type", .string "assistantResponseEvent", eventType_ne, eventType_fits,
        by unfold RoundTrip.ValueFits; decide⟩]
  payload := Lifecycle.helloPayload.toUTF8.data.toList
  distinct := by decide
  fits := by decide +kernel

def helloEvents : List CanonicalEvent :=
  [.responseStart { responseId := sampleId }, .messageStart { role := ⟨"assistant"⟩ },
    .textDelta { text := "hi" }]

theorem decode_hello (R : List UInt8) : ∃ m, reads helloSerde sampleId (helloFrame.encode ++ R) =
      (decode helloSerde m R).after helloEvents := by
  have hh : head (helloFrame.encode ++ R) = _ := RoundTrip.WireFrame.head_encode helloFrame
  have hp : ((pushFrame helloSerde helloFrame.frame).call
      { responseId := sampleId, started := true }).1 = .ok [.textDelta { text := "hi" }] := by
    decide +kernel
  have hgood := decode_good (m := { responseId := sampleId }) hh (Prod.ext hp rfl)
  exact ⟨_, hgood⟩

theorem short_hello : helloFrame.encode.length ≤ maxFrameBytes :=
  helloFrame.length_encode ▸ helloFrame.fits

/-- A text frame and then a broken connection: the events of the frame, one error, nothing more. -/
theorem disciplined_hello : Disciplined helloEvents (outputs helloSerde 6
      (.new [.chunk helloFrame.encode, .failed providerProtocolError] sampleId)) := by
  obtain ⟨m, hreads⟩ := decode_hello []
  have hshort := short_hello
  rw [List.append_nil, decode_none (by decide)] at hreads
  -- only what the frame decodes to matters from here on
  generalize helloFrame.encode = frame at hreads hshort ⊢
  have hR : Orderly helloSerde sampleId
      [.chunk frame, .failed providerProtocolError] := by
    refine ⟨?_, ?_⟩
    · intro bytes hmem
      obtain rfl : bytes = frame := by simpa using hmem
      exact hshort
    · rintro (_ | ⟨c, _ | ⟨c', cs⟩⟩) r rest heq - hfails
      · obtain ⟨rfl, rfl⟩ : r = .chunk frame ∧ rest = [.failed providerProtocolError] := by
          simpa [eq_comm] using heq
        rw [List.flatten_nil, fails, List.nil_append, hreads] at hfails
        cases hfails
      · obtain ⟨rfl, rfl, rfl⟩ : c = frame ∧ r = .failed providerProtocolError ∧ rest = [] := by
          simpa [eq_comm] using heq
        simp [BodyResult.bytes, hreads]
      · simp at heq
  have hrun := disciplined _ _ _ hR 6
  simpa [received, hreads, Decoding.after] using hrun

theorem head_zeros : ∃ g n, head (List.replicate 16 0) = some (g, n) ∧ ∀ f, g ≠ .good f := by
  have herror : ∀ p, parsePrelude ((List.replicate 16 0).take preludeBytes) ≠ .ok p := by
    have hfail : (parsePrelude ((List.replicate 16 0).take preludeBytes)).isOk = false := by
      decide +kernel
    intro p hp
    rw [hp] at hfail
    cases hfail
  rcases head_cases (List.replicate 16 0) with ⟨-, h | ⟨p, hp, -⟩⟩ | ⟨e, -, -, hh⟩ | ⟨p, -, hp, -⟩
  · simp [preludeBytes] at h
  · exact absurd hp (herror p)
  · exact ⟨_, _, hh, by simp⟩
  · exact absurd hp (herror p)

/-- A first chunk that fails behind a frame: an error, and then the first event of the frame. -/
theorem outputs_failed_chunk {id : ResponseId} {bytes : List UInt8} {d : Decoding}
    {e : CanonicalEvent} (hreads : reads serde id bytes = d) (hfail : d.failed = true)
    (hevents : d.events = e :: es) (hshort : bytes.length ≤ maxFrameBytes) :
    outputs serde 2 (.new [.chunk bytes] id) =
      [.error providerProtocolError, event e] := by
  obtain ⟨s', hcall, hm⟩ := takeChunk_spec serde bytes (s := .new [] id)
    ⟨rfl, Nat.zero_lt_succ _, .inl (Nat.zero_le _)⟩ rfl ⟨rfl, rfl⟩ hshort
  have hbuffer : (KiroStreamingEventSource.new [] id).framing.buffer ++ bytes = bytes := rfl
  have hmapper : (KiroStreamingEventSource.new [] id).semantics = { responseId := id } := rfl
  rw [hbuffer, hmapper, ← reads, hreads] at hcall hm
  have hstarted : s'.responseStarted = false := hm.responseStarted
  have hpending : s'.pending = e :: es := by rw [hm.pending, hevents]; rfl
  have hread : readBody serde [.chunk bytes] (.new [.chunk bytes] id) =
      (.error providerProtocolError, s') := by
    have hbody : { KiroStreamingEventSource.new [.chunk bytes] id with body := [] } =
      KiroStreamingEventSource.new [] id := rfl
    rw [readBody, hbody, hcall]
    simp [result, hfail, terminalFailure, hstarted]
  have hnext : (KiroStreamingEventSource.new [.chunk bytes] id).nextEvent serde =
      (.error providerProtocolError, s') := by
    exact hread
  obtain ⟨started, hpop, -, -⟩ := nextPending_cons hpending
  have hthen : (s'.nextEvent serde).1 = event e := by
    rw [nextEvent, hpop]
    rfl
  simp [outputs, hnext, hthen]

/-- A frame and garbage in one chunk: an error, and then `ResponseStart`. -/
theorem event_after_failure : outputs helloSerde 2
        (.new [.chunk (helloFrame.encode ++ List.replicate 16 0)] sampleId) =
      [.error providerProtocolError, event (.responseStart { responseId := sampleId })] := by
  obtain ⟨m, hreads⟩ := decode_hello (List.replicate 16 0)
  obtain ⟨g, n, hzeros, hg⟩ := head_zeros
  rw [decode_fail hzeros hg] at hreads
  refine outputs_failed_chunk hreads rfl rfl ?_
  rw [List.length_append]
  decide +kernel

end CpaGateway.Kiro.Discipline
