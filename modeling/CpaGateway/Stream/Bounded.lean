import CpaGateway.Core.Events
import CpaGateway.Lib.Transition

/-! # The bounded canonical stream

`bounded_canonical_stream` joins one `CanonicalEventSender` to one `CanonicalEventStream` by a
bounded channel and a cancellation flag. The two halves run concurrently, so the model is a step
relation: each asynchronous call is cut at the points where the other half may act in between, that
is at every read of the flag, every access to the channel and every return. The channel is a first
in, first out queue of at most `capacity` events. -/

namespace CpaGateway.Stream.Bounded

open Core.Error Core.Events

def requestCancelledError : GatewayError := ⟨.cancelled, .request⟩

/-! ### The two halves -/

inductive SendPhase
  /-- No call is running. -/
  | idle
  /-- The call was made and has not looked at the flag yet. -/
  | called (event : CanonicalEvent)
  /-- The event is valid; the call looks at the flag next. -/
  | polling (event : CanonicalEvent) (next : CanonicalEventState)
  /-- The flag was unset; the call offers the event to the channel next. -/
  | offering (event : CanonicalEvent) (next : CanonicalEventState)
  /-- The channel took the event; the call returns next. -/
  | enqueued (event : CanonicalEvent) (next : CanonicalEventState)

/-- The producer half. The channel handle is dropped by a terminal event. -/
structure CanonicalEventSender where
  hasSender : Bool := true
  state : CanonicalEventState := {}
  phase : SendPhase := .idle

/-- `send` up to its `select!`: the flag, the lifecycle, the channel handle, in this order. -/
def CanonicalEventSender.start (tx : CanonicalEventSender) (cancelled : Bool)
    (event : CanonicalEvent) : Except GatewayError CanonicalEventSender :=
  if cancelled then .error requestCancelledError
  else do
    let next ← tx.state.apply event
    if tx.hasSender then return { tx with phase := .polling event next }
    else .error streamProtocolError

/-- The end of a `send` whose event is in the channel. -/
def CanonicalEventSender.complete (tx : CanonicalEventSender) (next : CanonicalEventState) :
    CanonicalEventSender :=
  { hasSender := tx.hasSender && !next.isTerminal, state := next, phase := .idle }

/-- Where the one `recv` call of a stream stands. -/
inductive RecvPhase
  /-- No call is running. -/
  | idle
  /-- The call looks at the flag next. -/
  | polling
  /-- The flag was unset; the call looks at the channel next. -/
  | reading

/-- The consumer half. -/
structure CanonicalEventStream where
  state : CanonicalEventState := {}
  finished : Bool := false
  phase : RecvPhase := .idle

/-- The handler of what the channel gave: an event, or nothing once the producer is gone. -/
def CanonicalEventStream.receive (rx : CanonicalEventStream) :
    Option CanonicalEvent → Except GatewayError (Option CanonicalEvent) × CanonicalEventStream
  | none => (rx.state.finish.map fun _ => none, { rx with finished := true, phase := .idle })
  | some event =>
    match rx.state.apply event with
    | .error error => (.error error, { rx with finished := true, phase := .idle })
    | .ok state => (.ok (some event), { state, finished := state.isTerminal, phase := .idle })

/-- The consumer half over time; dropping it first cancels and then closes the channel. -/
inductive ReceiverHalf
  | live (rx : CanonicalEventStream)
  | dropping
  | closed

/-- Both halves, the channel and the flag. -/
structure System where
  queue : List CanonicalEvent := []
  cancelled : Bool := false
  sender : Option CanonicalEventSender := some {}
  receiver : ReceiverHalf := .live {}

/-- No handle of the channel is left on the producer's side. -/
def System.senderGone (s : System) : Bool :=
  match s.sender with
  | none => true
  | some tx => !tx.hasSender

/-! ### Steps -/

/-- What a step shows to the callers. -/
inductive Label
  | sendCalled (event : CanonicalEvent)
  | sendReturned (event : CanonicalEvent) (result : Except GatewayError Unit)
  | enqueued (event : CanonicalEvent)
  | recvReturned (result : Except GatewayError (Option CanonicalEvent))
  | cancelCalled
  | senderDropped
  | receiverDropped
  | internal

/-- One atomic action. The two `select!`s are biased: they look at the flag before the channel. -/
inductive Step (capacity : ℕ) : System → Label → System → Prop
  | sendCall {s : System} {tx event} (htx : s.sender = some tx) (hphase : tx.phase = .idle) :
      Step capacity s (.sendCalled event)
        { s with sender := some { tx with phase := .called event } }
  | sendRefused {s : System} {tx event error} (htx : s.sender = some tx)
      (hphase : tx.phase = .called event) (hstart : tx.start s.cancelled event = .error error) :
      Step capacity s (.sendReturned event (.error error))
        { s with sender := some { tx with phase := .idle } }
  | sendStarted {s : System} {tx tx' event} (htx : s.sender = some tx)
      (hphase : tx.phase = .called event) (hstart : tx.start s.cancelled event = .ok tx') :
      Step capacity s .internal { s with sender := some tx' }
  | sendCancelled {s : System} {tx event next} (htx : s.sender = some tx)
      (hphase : tx.phase = .polling event next) (hflag : s.cancelled = true) :
      Step capacity s (.sendReturned event (.error requestCancelledError))
        { s with sender := some { tx with phase := .idle } }
  | sendUncancelled {s : System} {tx event next} (htx : s.sender = some tx)
      (hphase : tx.phase = .polling event next) (hflag : s.cancelled = false) :
      Step capacity s .internal { s with sender := some { tx with phase := .offering event next } }
  | offerClosed {s : System} {tx event next} (htx : s.sender = some tx)
      (hphase : tx.phase = .offering event next) (hclosed : s.receiver = .closed) :
      Step capacity s (.sendReturned event (.error requestCancelledError))
        { s with sender := some { tx with phase := .idle } }
  | offerFull {s : System} {tx event next} (htx : s.sender = some tx)
      (hphase : tx.phase = .offering event next) (hopen : s.receiver ≠ .closed)
      (hfull : capacity ≤ s.queue.length) :
      Step capacity s .internal { s with sender := some { tx with phase := .polling event next } }
  | offerTaken {s : System} {tx event next} (htx : s.sender = some tx)
      (hphase : tx.phase = .offering event next) (hopen : s.receiver ≠ .closed)
      (hroom : s.queue.length < capacity) :
      Step capacity s (.enqueued event)
        { s with
          queue := s.queue ++ [event]
          sender := some { tx with phase := .enqueued event next } }
  | sendDone {s : System} {tx event next} (htx : s.sender = some tx)
      (hphase : tx.phase = .enqueued event next) :
      Step capacity s (.sendReturned event (.ok ())) { s with sender := some (tx.complete next) }
  /-- The caller drops the future of a call that has not offered its event. -/
  | sendAborted {s : System} {tx event next} (htx : s.sender = some tx)
      (hphase : tx.phase = .called event ∨ tx.phase = .polling event next) :
      Step capacity s .internal { s with sender := some { tx with phase := .idle } }
  | senderDrop {s : System} {tx} (htx : s.sender = some tx) (hphase : tx.phase = .idle) :
      Step capacity s .senderDropped { s with sender := none }
  | recvFinished {s : System} {rx} (hrx : s.receiver = .live rx) (hphase : rx.phase = .idle)
      (hfin : rx.finished = true) : Step capacity s (.recvReturned (.ok none)) s
  | recvCall {s : System} {rx} (hrx : s.receiver = .live rx) (hphase : rx.phase = .idle)
      (hfin : rx.finished = false) :
      Step capacity s .internal { s with receiver := .live { rx with phase := .polling } }
  | recvCancelled {s : System} {rx} (hrx : s.receiver = .live rx) (hphase : rx.phase = .polling)
      (hflag : s.cancelled = true) :
      Step capacity s (.recvReturned (.error requestCancelledError))
        { s with receiver := .live { rx with finished := true, phase := .idle } }
  | recvUncancelled {s : System} {rx} (hrx : s.receiver = .live rx) (hphase : rx.phase = .polling)
      (hflag : s.cancelled = false) :
      Step capacity s .internal { s with receiver := .live { rx with phase := .reading } }
  | recvTake {s : System} {rx event rest} (hrx : s.receiver = .live rx)
      (hphase : rx.phase = .reading) (hqueue : s.queue = event :: rest) :
      Step capacity s (.recvReturned (rx.receive (some event)).1)
        { s with queue := rest, receiver := .live (rx.receive (some event)).2 }
  | recvClosed {s : System} {rx} (hrx : s.receiver = .live rx) (hphase : rx.phase = .reading)
      (hqueue : s.queue = []) (hgone : s.senderGone = true) :
      Step capacity s (.recvReturned (rx.receive none).1)
        { s with receiver := .live (rx.receive none).2 }
  | recvEmpty {s : System} {rx} (hrx : s.receiver = .live rx) (hphase : rx.phase = .reading)
      (hqueue : s.queue = []) (hgone : s.senderGone = false) :
      Step capacity s .internal { s with receiver := .live { rx with phase := .polling } }
  /-- The caller drops the future of a waiting call. -/
  | recvAborted {s : System} {rx} (hrx : s.receiver = .live rx) (hphase : rx.phase = .polling) :
      Step capacity s .internal { s with receiver := .live { rx with phase := .idle } }
  | receiverDrop {s : System} {rx} (hrx : s.receiver = .live rx) (hphase : rx.phase = .idle) :
      Step capacity s .receiverDropped
        { s with cancelled := s.cancelled || !rx.state.isTerminal, receiver := .dropping }
  | receiverClose {s : System} (hrx : s.receiver = .dropping) :
      Step capacity s .internal { s with queue := [], receiver := .closed }
  | cancel {s : System} : Step capacity s .cancelCalled { s with cancelled := true }

end CpaGateway.Stream.Bounded
