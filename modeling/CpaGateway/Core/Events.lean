import CpaGateway.Core.Error
import CpaGateway.Lib.Fallible

/-! # Canonical events and their lifecycle

The protocol-neutral events a response is made of, and the state machine `CanonicalEventState` that
checks their order: `apply` takes one event, `finish` says whether a source may stop here, and
`CanonicalResponse.tryNew` accepts exactly the finite sequences that the machine runs through to a
`ResponseEnd`. A rejected event leaves the state as it was, so `apply` returns the next state only
on success. -/

namespace CpaGateway.Core.Events

open Core.Error Lib.Fallible

/-! ### The data of the events -/

/-- A raw JSON text, kept as the upstream wrote it. -/
structure RawJson where
  get : String
  deriving DecidableEq

/-- An opaque field and its name. -/
abbrev RawExtension := String × RawJson

/-- The order of the fields is that of their names. -/
abbrev RawExtension.before (a b : RawExtension) : Prop := a.1 < b.1

/-- Opaque fields in the order of their names, without repetition. -/
structure RawExtensions where
  entries : List RawExtension := []
  sorted : entries.Pairwise RawExtension.before := by exact .nil
  deriving DecidableEq

/-- No field is present. -/
def RawExtensions.isEmpty (x : RawExtensions) : Bool := x.entries.isEmpty

@[simp] theorem isEmpty_default : RawExtensions.isEmpty {} = true := rfl

/-- A response identifier: any non-empty text. -/
@[ext]
structure ResponseId where
  asStr : String
  nonempty : asStr ≠ ""

instance : DecidableEq ResponseId := fun _ _ => decidable_of_iff _ ResponseId.ext_iff.symm

/-- The identifier of a text that is evidently not empty. -/
def ResponseId.lit (value : String) (h : (value == "") = false := by exact Eq.refl false) :
    ResponseId :=
  ⟨value, ne_of_beq_false h⟩

/-- The checked constructor of a response identifier; the only error is an empty text. -/
def ResponseId.tryNew (value : String) : Option ResponseId :=
  if h : value = "" then none else some ⟨value, h⟩

/-- The open role label of an output message. -/
structure MessageRole where
  value : String
  deriving DecidableEq

/-- Begins one response. -/
structure ResponseStart where
  responseId : ResponseId
  extensions : RawExtensions := {}
  deriving DecidableEq

/-- Begins one output message. -/
structure MessageStart where
  role : MessageRole
  extensions : RawExtensions := {}
  deriving DecidableEq

/-- A visible text fragment. -/
structure TextDelta where
  text : String
  extensions : RawExtensions := {}
  deriving DecidableEq

/-- A reasoning fragment. -/
structure ReasoningDelta where
  text : String
  extensions : RawExtensions := {}
  deriving DecidableEq

structure ToolCallStart where
  callId : String
  name : String
  extensions : RawExtensions := {}
  deriving DecidableEq

/-- A fragment of the arguments of an open tool call. -/
structure ToolCallArgumentsDelta where
  callId : String
  delta : String
  extensions : RawExtensions := {}
  deriving DecidableEq

/-- Completes a tool call with its assembled arguments. -/
structure ToolCallEnd where
  callId : String
  arguments : RawJson
  extensions : RawExtensions := {}
  deriving DecidableEq

/-- Token counts as the upstream reported them. -/
structure Usage where
  inputTokens : Option UInt64 := none
  outputTokens : Option UInt64 := none
  reasoningTokens : Option UInt64 := none
  cacheReadTokens : Option UInt64 := none
  cacheCreationTokens : Option UInt64 := none
  cachedTokens : Option UInt64 := none
  extensions : RawExtensions := {}
  deriving DecidableEq

/-- One partial or final usage report. -/
structure UsageDelta where
  usage : Usage
  isFinal : Bool
  extensions : RawExtensions := {}
  deriving DecidableEq

structure MessageEnd where
  extensions : RawExtensions := {}
  deriving DecidableEq

structure ResponseEnd where
  stopReason : Option String := none
  stopSequence : Option String := none
  extensions : RawExtensions := {}
  deriving DecidableEq

/-- Terminates a response that cannot complete. -/
structure StreamError where
  error : GatewayError
  deriving DecidableEq

inductive CanonicalEvent
  | responseStart (e : ResponseStart)
  | messageStart (e : MessageStart)
  | textDelta (e : TextDelta)
  | reasoningDelta (e : ReasoningDelta)
  | toolCallStart (e : ToolCallStart)
  | toolCallArgumentsDelta (e : ToolCallArgumentsDelta)
  | toolCallEnd (e : ToolCallEnd)
  | usageDelta (e : UsageDelta)
  | messageEnd (e : MessageEnd)
  | responseEnd (e : ResponseEnd)
  | streamError (e : StreamError)
  deriving DecidableEq

/-- The two events that close a response. -/
def CanonicalEvent.isTerminal : CanonicalEvent → Bool
  | .responseEnd _ | .streamError _ => true
  | _ => false

/-- The event carries no opaque field. -/
def CanonicalEvent.extensionsEmpty : CanonicalEvent → Bool
  | .responseStart e => e.extensions.isEmpty
  | .messageStart e => e.extensions.isEmpty
  | .textDelta e => e.extensions.isEmpty
  | .reasoningDelta e => e.extensions.isEmpty
  | .toolCallStart e => e.extensions.isEmpty
  | .toolCallArgumentsDelta e => e.extensions.isEmpty
  | .toolCallEnd e => e.extensions.isEmpty
  | .usageDelta e => e.extensions.isEmpty && e.usage.extensions.isEmpty
  | .messageEnd e => e.extensions.isEmpty
  | .responseEnd e => e.extensions.isEmpty
  | .streamError _ => true

/-! ### The state machine -/

/-- How far one tool call has come. -/
inductive ToolCallLifecycle
  | declared
  | argumentsStreaming
  | emitted
  deriving DecidableEq

/-- Whether usage was reported, and finally so. -/
inductive UsageLifecycle
  | notReported
  | interim
  | final
  deriving DecidableEq

/-- The state of a response between its start and its end. -/
structure OpenResponse where
  messageOpen : Bool := false
  toolCalls : Std.TreeMap String ToolCallLifecycle := ∅
  usage : UsageLifecycle := .notReported

/-- The phase of a response. -/
inductive ResponseLifecycle
  | initial
  | opened (o : OpenResponse)
  | completed
  | failed (e : GatewayError)

/-- The validator of one ordered event sequence. -/
structure CanonicalEventState where
  lifecycle : ResponseLifecycle := .initial

namespace OpenResponse

variable (o : OpenResponse)

def hasOpenToolCall : Bool := o.toolCalls.toList.any fun call => call.2 ≠ .emitted

def isReadyToEnd : Bool := !o.messageOpen && !o.hasOpenToolCall

def startToolCall (start : ToolCallStart) : Except GatewayError OpenResponse :=
  if !o.messageOpen || start.callId.isEmpty || start.name.isEmpty ||
      o.toolCalls.contains start.callId then
    .error streamProtocolError
  else
    .ok { o with toolCalls := o.toolCalls.insert start.callId .declared }

def appendToolArguments (delta : ToolCallArgumentsDelta) : Except GatewayError OpenResponse :=
  if !o.messageOpen then .error streamProtocolError
  else
    match o.toolCalls[delta.callId]? with
    | none => .error streamProtocolError
    | some .declared =>
      .ok { o with toolCalls := o.toolCalls.insert delta.callId .argumentsStreaming }
    | some .argumentsStreaming => .ok o
    | some .emitted => .error streamProtocolError

def endToolCall (e : ToolCallEnd) : Except GatewayError OpenResponse :=
  if !o.messageOpen then .error streamProtocolError
  else
    match o.toolCalls[e.callId]? with
    | none => .error streamProtocolError
    | some .declared | some .argumentsStreaming =>
      .ok { o with toolCalls := o.toolCalls.insert e.callId .emitted }
    | some .emitted => .error streamProtocolError

def recordUsage (delta : UsageDelta) : Except GatewayError OpenResponse :=
  if o.usage = .final then .error streamProtocolError
  else .ok { o with usage := if delta.isFinal then .final else .interim }

def endMessage : Except GatewayError OpenResponse :=
  if !o.messageOpen then .error streamProtocolError
  else if o.hasOpenToolCall then .error streamProtocolError
  else .ok { o with messageOpen := false }

def apply : CanonicalEvent → Except GatewayError OpenResponse
  | .messageStart _ =>
    if o.messageOpen then .error streamProtocolError else .ok { o with messageOpen := true }
  | .textDelta delta =>
    if !o.messageOpen || delta.text.isEmpty then .error streamProtocolError else .ok o
  | .reasoningDelta delta =>
    if !o.messageOpen || delta.text.isEmpty then .error streamProtocolError else .ok o
  | .toolCallStart start => o.startToolCall start
  | .toolCallArgumentsDelta delta => o.appendToolArguments delta
  | .toolCallEnd e => o.endToolCall e
  | .usageDelta delta => o.recordUsage delta
  | .messageEnd _ => o.endMessage
  | .responseStart _ | .responseEnd _ | .streamError _ => .error streamProtocolError

end OpenResponse

namespace CanonicalEventState

variable (s : CanonicalEventState)

/-- The response reached `ResponseEnd` or `StreamError`. -/
def isTerminal : Bool :=
  match s.lifecycle with
  | .completed | .failed _ => true
  | .initial | .opened _ => false

/-- The response reached `ResponseEnd`. -/
def isSuccess : Bool :=
  match s.lifecycle with
  | .completed => true
  | _ => false

/-- One event. An open response ends only outside messages and with every tool call emitted. -/
def apply (event : CanonicalEvent) : Except GatewayError CanonicalEventState :=
  match s.lifecycle with
  | .completed | .failed _ => .error streamProtocolError
  | .initial =>
    match event with
    | .responseStart _ => .ok ⟨.opened {}⟩
    | _ => .error streamProtocolError
  | .opened o =>
    match event with
    | .streamError e => .ok ⟨.failed e.error⟩
    | .responseEnd r =>
      if !o.isReadyToEnd then .error streamTruncatedError
      else if r.stopReason.any (·.isEmpty) || r.stopSequence.any (·.isEmpty) then
        .error streamProtocolError
      else .ok ⟨.completed⟩
    | .responseStart _ => .error streamProtocolError
    | e => (o.apply e).map fun o' => ⟨.opened o'⟩

/-- A source may stop only after a terminal event. -/
def finish : Except GatewayError Unit :=
  if s.isTerminal then .ok () else .error streamTruncatedError

def requireSuccess : Except GatewayError Unit :=
  match s.lifecycle with
  | .completed => .ok ()
  | .failed e => .error e
  | .initial | .opened _ => .error streamTruncatedError

/-- All events of a list in turn, stopping at the first rejected one. -/
def applyAll (events : List CanonicalEvent) : Except GatewayError CanonicalEventState :=
  events.foldlM apply s

@[simp] theorem applyAll_nil : s.applyAll [] = .ok s := rfl

variable {s} {u : CanonicalEventState}

theorem applyAll_append_ok {p q : List CanonicalEvent} :
    s.applyAll (p ++ q) = .ok u ↔ ∃ t, s.applyAll p = .ok t ∧ t.applyAll q = .ok u := by
  simp only [applyAll, List.foldlM_append]
  cases List.foldlM apply s p <;> simp [bind, Except.bind]

theorem applyAll_append_of_ok {t : CanonicalEventState} {p : List CanonicalEvent}
    (h : s.applyAll p = .ok t) (q : List CanonicalEvent) : s.applyAll (p ++ q) = t.applyAll q := by
  rw [applyAll, List.foldlM_append, ← applyAll, h]
  rfl

variable {e : CanonicalEvent}

theorem applyAll_cons_ok {q : List CanonicalEvent} :
    s.applyAll (e :: q) = .ok u ↔ ∃ t, s.apply e = .ok t ∧ t.applyAll q = .ok u := by
  simp only [applyAll, List.foldlM_cons]
  cases s.apply e <;> simp [bind, Except.bind]

theorem applyAll_snoc_ok {p : List CanonicalEvent} :
    s.applyAll (p ++ [e]) = .ok u ↔ ∃ t, s.applyAll p = .ok t ∧ t.apply e = .ok u := by
  simp [applyAll_append_ok, applyAll_cons_ok]

variable {t : CanonicalEventState}

theorem isTerminal_of_apply (h : s.apply e = .ok t) : t.isTerminal = e.isTerminal := by
  rcases s with ⟨_ | o | _ | err⟩
  · cases e <;> cases h
    rfl
  · cases e
    case responseStart => cases h
    case responseEnd r =>
      simp only [apply] at h
      split_ifs at h
      cases h; rfl
    case streamError => cases h; rfl
    all_goals
      obtain ⟨o', -, rfl⟩ := map_ok h
      rfl
  · cases h
  · cases h

theorem not_terminal_of_apply (h : s.apply e = .ok t) : s.isTerminal = false := by
  rcases s with ⟨_ | o | _ | err⟩
  · rfl
  · rfl
  · cases h
  · cases h

theorem isSuccess_of_responseEnd {r : ResponseEnd}
    (h : s.apply (.responseEnd r) = .ok t) : t.isSuccess = true := by
  rcases s with ⟨_ | o | _ | err⟩
  · cases h
  · simp only [apply] at h
    split_ifs at h
    cases h
    rfl
  · cases h
  · cases h

end CanonicalEventState

/-- The check of a finite response: every event is accepted and the last one completes it. -/
def checkResponse (events : List CanonicalEvent) : Except GatewayError Unit := do
  let state ← CanonicalEventState.applyAll {} events
  state.requireSuccess

/-- A finite response that passed the check. -/
structure CanonicalResponse where
  events : List CanonicalEvent
  checked : checkResponse events = .ok ()

/-- The checked constructor of a finite response. -/
def CanonicalResponse.tryNew (events : List CanonicalEvent) :
    Except GatewayError CanonicalResponse :=
  match h : checkResponse events with
  | .ok () => .ok ⟨events, h⟩
  | .error e => .error e

end CpaGateway.Core.Events
