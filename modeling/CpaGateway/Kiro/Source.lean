import CpaGateway.Kiro.EventSemantics

/-! # The Kiro event source

`KiroStreamingEventSource` reads the body of a response chunk by chunk, decodes and maps the frames
of each chunk into a queue, and hands the queue out one event per call of `nextEvent`. A failure
ends the stream with a `StreamError` once the client has seen `ResponseStart`, and is returned as an
error before that.

The body is the list of results it will give; behind the list it reports its end. -/

namespace CpaGateway.Kiro.Source

open Core.Error Core.Events Core.Json Kiro.EventStream Kiro.EventSemantics Lib.Effect Lib.Fallible
open KiroEventSemanticMapper

inductive BodyResult
  | chunk (bytes : List UInt8)
  | finished
  | failed (error : GatewayError)

/-- How far the stream has come. -/
inductive KiroStreamLifecycle
  | awaitingFirstFrame
  | streaming
  | finished
  deriving DecidableEq

/-- An upstream that breaks the framing or the event vocabulary. -/
def providerProtocolError : GatewayError := ⟨.upstreamProtocolError, .provider⟩

structure KiroStreamingEventSource where
  body : List BodyResult
  framing : KiroEventStreamDecoder := {}
  semantics : KiroEventSemanticMapper
  pending : List CanonicalEvent := []
  lifecycle : KiroStreamLifecycle := .awaitingFirstFrame
  responseStarted : Bool := false
  terminalFailureEmitted : Bool := false

/-- What a call of `nextEvent` returns. -/
abbrev Output := Except GatewayError (Option CanonicalEvent)

abbrev SourceMethod := Method KiroStreamingEventSource GatewayError

variable (serde : SerdeJson)

namespace KiroStreamingEventSource

/-- A source that has read nothing. -/
def new (body : List BodyResult) (responseId : ResponseId) : KiroStreamingEventSource where
  body
  semantics := { responseId }

variable {α : Type}

def onFraming (m : Method KiroEventStreamDecoder KiroEventStreamError α) : SourceMethod α :=
  .onPart (·.framing) (fun s framing => { s with framing }) (fun _ => providerProtocolError) m

def onSemantics (m : Mapping α) : SourceMethod α :=
  .onPart (·.semantics) (fun s semantics => { s with semantics })
    (fun _ => providerProtocolError) m

/-- The first event of the queue. -/
def nextPending (s : KiroStreamingEventSource) : Option CanonicalEvent × KiroStreamingEventSource :=
  match s.pending with
  | [] => (none, s)
  | .responseStart e :: pending =>
    (some (.responseStart e), { s with pending, responseStarted := true })
  | event :: pending => (some event, { s with pending })

/-- Opens the response at its first frame. -/
def openStream : SourceMethod Unit := do
  let s ← get
  if s.lifecycle = .awaitingFirstFrame then do
    let events ← onSemantics start
    modify fun s => { s with pending := s.pending ++ events, lifecycle := .streaming }
  else return ()

/-- Maps one frame into the queue. -/
def mapFrame (frame : KiroEventStreamFrame) : SourceMethod Unit := do
  openStream
  let events ← onSemantics (pushFrame serde frame)
  modify fun s => { s with pending := s.pending ++ events }

/-- Maps the frames of the buffer; at most `fuel` calls of the decoder. -/
def mapLoop : ℕ → SourceMethod Unit
  | 0 => return ()
  | fuel + 1 => do
    let frame ← onFraming (.of KiroEventStreamDecoder.nextFrame)
    match frame with
    | none => return ()
    | some frame => do
      mapFrame serde frame
      mapLoop fuel

/-- Every decoded frame takes a byte, so the buffer bounds the calls. -/
def mapAvailableFrames : SourceMethod Unit := do
  let s ← get
  mapLoop serde (s.framing.buffer.length + 1)

/-- The end of the body. -/
def finishStream : SourceMethod Unit := do
  onFraming (.of KiroEventStreamDecoder.finish)
  mapAvailableFrames serde
  let s ← get
  ensure (s.lifecycle = .streaming) providerProtocolError
  let events ← onSemantics finish
  modify fun s => { s with pending := s.pending ++ events, lifecycle := .finished }

/-- A chunk of the body. -/
def takeChunk (bytes : List UInt8) : SourceMethod Unit := do
  onFraming (.of fun d => d.feed bytes)
  mapAvailableFrames serde

/-- The answer to a failure. -/
def terminalFailure (s : KiroStreamingEventSource) (error : GatewayError) :
    Output × KiroStreamingEventSource :=
  if !s.responseStarted then (.error error, s)
  else if s.terminalFailureEmitted then (.ok none, s)
  else (.ok (some (.streamError ⟨error⟩)),
    { s with terminalFailureEmitted := true, lifecycle := .finished })

def endBody (s : KiroStreamingEventSource) : Output × KiroStreamingEventSource :=
  match (finishStream serde).call s with
  | (.ok (), s) => (.ok s.nextPending.1, s.nextPending.2)
  | (.error error, s) => s.terminalFailure error

/-- Reads the body until there is something to return. -/
def readBody : List BodyResult → KiroStreamingEventSource → Output × KiroStreamingEventSource
  | [], s => s.endBody serde
  | .finished :: rest, s => { s with body := rest }.endBody serde
  | .failed error :: rest, s => { s with body := rest }.terminalFailure error
  | .chunk bytes :: rest, s =>
    match (takeChunk serde bytes).call { s with body := rest } with
    | (.error error, s) => s.terminalFailure error
    | (.ok (), s) =>
      match s.nextPending with
      | (some event, s) => (.ok (some event), s)
      | (none, s) => readBody rest s

/-- One event, or the end, or a failure. -/
def nextEvent (s : KiroStreamingEventSource) : Output × KiroStreamingEventSource :=
  match s.nextPending with
  | (some event, s) => (.ok (some event), s)
  | (none, s) => if s.lifecycle = .finished then (.ok none, s) else readBody serde s.body s

/-- What the first `n` calls return. -/
def outputs : ℕ → KiroStreamingEventSource → List Output
  | 0, _ => []
  | n + 1, s => (s.nextEvent serde).1 :: outputs n (s.nextEvent serde).2

end KiroStreamingEventSource

end CpaGateway.Kiro.Source
