import CpaGateway.Core.Json
import CpaGateway.Kiro.EventStream
import CpaGateway.Lib.Effect

/-! # Semantics of Kiro frames

`KiroEventSemanticMapper` turns verified frames into canonical events: `start` opens the response
and its one message, `pushFrame` maps a frame, `finish` closes both. Text and reasoning map one to
one. A tool call is kept in `openTools` from its first `toolUseEvent` to the one with `stop`, and
its arguments are released only when the collected input is a JSON object without repeated names. -/

namespace CpaGateway.Kiro.EventSemantics

open Core.Events Core.Json Kiro.EventStream Lib.Effect Lib.Fallible

def maxEventPayloadBytes : ℕ := 1024 * 1024

def maxToolArgumentBytes : ℕ := 1024 * 1024

def maxToolCallIdBytes : ℕ := 512

def maxToolNameBytes : ℕ := 256

def enterPlanMode : String := "EnterPlanMode"

def exitPlanMode : String := "ExitPlanMode"

def askUserQuestion : String := "AskUserQuestion"

/-- The mapping failures. -/
inductive KiroEventSemanticError
  | unexpectedFrame
  | unsupportedEvent
  | invalidPayload
  | invalidToolState
  | toolArgumentsTooLarge
  | unfinishedTool
  | invalidLifecycle
  deriving DecidableEq

/-- A tool call whose `stop` has not come. -/
structure OpenTool where
  name : String
  input : String := ""

/-- The mapper of one response. -/
structure KiroEventSemanticMapper where
  responseId : ResponseId
  started : Bool := false
  finished : Bool := false
  openTools : Std.TreeMap String OpenTool := ∅

abbrev Mapping := Method KiroEventSemanticMapper KiroEventSemanticError

/-! ### Reading payloads -/

section Payload

variable (serde : SerdeJson)

def deserializeStrictJson (input : List UInt8) : Except KiroEventSemanticError Value :=
  okOr ((serde.read input).bind strict) .invalidPayload

def strictPayloadObject (bytes : List UInt8) : Except KiroEventSemanticError Map := do
  ensure (bytes.length ≤ maxEventPayloadBytes) .invalidPayload
  let value ← deserializeStrictJson serde bytes
  okOr value.asObject .invalidPayload

variable (payload : Map)

def optionalString (field : String) : Except KiroEventSemanticError (Option String) :=
  match payload.get field with
  | none => .ok none
  | some (.string value) => .ok (some value)
  | some _ => .error .invalidPayload

def requiredString (field : String) : Except KiroEventSemanticError String := do
  let value ← optionalString payload field
  okOr value .invalidToolState

def optionalSameString (first second : String) : Except KiroEventSemanticError (Option String) := do
  let first ← optionalString payload first
  let second ← optionalString payload second
  match first, second with
  | some a, some b => if a ≠ b then .error .invalidPayload else .ok (some a)
  | some a, none => .ok (some a)
  | none, second => .ok second

def textField (field : String) : Except KiroEventSemanticError (List CanonicalEvent) :=
  match payload.get field with
  | none => .ok []
  | some (.string value) => .ok (if value.isEmpty then [] else [.textDelta { text := value }])
  | some _ => .error .invalidPayload

def textEvents : Except KiroEventSemanticError (List CanonicalEvent) := do
  let content ← textField payload "content"
  let code ← textField payload "code"
  return content ++ code

def reasoningEvents : Except KiroEventSemanticError (List CanonicalEvent) := do
  let value ← optionalSameString payload "content" "reasoningContent"
  let content ← okOr value .invalidPayload
  return if content.isEmpty then [] else [.reasoningDelta { text := content }]

def readStop : Except KiroEventSemanticError Bool :=
  match payload.get "stop" with
  | none => .ok false
  | some (.bool value) => .ok value
  | some _ => .error .invalidToolState

def readInput : Except KiroEventSemanticError String :=
  match payload.get "input" with
  | none => .ok ""
  | some (.string value) => .ok value
  | some _ => .error .invalidToolState

end Payload

/-- The control characters of Unicode. -/
def isControl (c : Char) : Bool := c.toNat < 0x20 || (0x7f ≤ c.toNat && c.toNat < 0xa0)

def isValidIdentifier (value : String) (maxBytes : ℕ) : Bool :=
  !value.isEmpty && value.utf8ByteSize ≤ maxBytes && !value.toList.any isControl

/-! ### Tool arguments -/

/-- The text to fill in for an absent `question`. -/
def questionText (question : Map) : Except KiroEventSemanticError (Option String) :=
  match question.get "question", question.get "header" with
  | some (.string value), _ => if value.isEmpty then .error .invalidToolState else .ok none
  | some _, _ => .error .invalidToolState
  | none, some (.string value) =>
    if value.isEmpty then .error .invalidToolState else .ok (some value)
  | none, _ => .error .invalidToolState

/-- One question: an absent `question` is filled from `header`. -/
def normalizeQuestion (question : Value) : Except KiroEventSemanticError Value := do
  let question ← okOr question.asObject .invalidToolState
  let normalized ← questionText question
  ensure ((question.get "options").any (·.asArray.isSome)) .invalidToolState
  ensure ((question.get "multiSelect").any (·.asBool.isSome)) .invalidToolState
  return .object (normalized.elim question fun text => question.insert "question" (.string text))

def normalizeAskUserQuestion (value : Value) : Except KiroEventSemanticError Value := do
  let object ← okOr value.asObject .invalidToolState
  let questions ← okOr ((object.get "questions").bind (·.asArray)) .invalidToolState
  ensure (!questions.isEmpty) .invalidToolState
  let questions ← questions.mapM normalizeQuestion
  return .object (object.insert "questions" (.array questions))

/-- The arguments of a finished tool call. Only the two plan-mode tools may have none. -/
def completedToolArguments (serde : SerdeJson) (tool : OpenTool) :
    Except KiroEventSemanticError RawJson :=
  if tool.input.isEmpty then
    if tool.name = enterPlanMode || tool.name = exitPlanMode then
      okOr (serde.fromJsonString "{}") .invalidToolState
    else .error .invalidToolState
  else do
    let value ← deserializeStrictJson serde tool.input.toUTF8.data.toList
    ensure value.isObject .invalidToolState
    if tool.name = askUserQuestion then
      let value ← normalizeAskUserQuestion value
      let text ← okOr (serde.write value) .invalidToolState
      okOr (serde.fromJsonString text) .invalidToolState
    else okOr (serde.fromJsonString tool.input) .invalidToolState

/-! ### The mapper -/

variable (serde : SerdeJson)

namespace KiroEventSemanticMapper

/-- Opens the response and its message. -/
def start : Mapping (List CanonicalEvent) := do
  let m ← get
  ensure (!m.started && !m.finished) .invalidLifecycle
  modify fun m => { m with started := true }
  return [.responseStart { responseId := m.responseId },
    .messageStart { role := ⟨"assistant"⟩ }]

/-- Opens the tool call unless it is open; says whether it was opened. -/
def declareTool (payload : Map) (callId : String) : Mapping Bool := do
  let m ← get
  match m.openTools[callId]? with
  | none =>
    let name ← requiredString payload "name"
    ensure (isValidIdentifier name maxToolNameBytes) .invalidToolState
    modify fun m => { m with openTools := m.openTools.insert callId { name } }
    return true
  | some tool =>
    ensure ((payload.get "name").all fun value => value.asStr = some tool.name) .invalidToolState
    return false

/-- Adds a fragment to the input of an open tool call. -/
def appendInput (callId input : String) : Mapping OpenTool := do
  let m ← get
  let tool ← okOr m.openTools[callId]? .invalidToolState
  ensure (tool.input.utf8ByteSize + input.utf8ByteSize ≤ maxToolArgumentBytes)
    .toolArgumentsTooLarge
  let tool := { tool with input := tool.input ++ input }
  modify fun m => { m with openTools := m.openTools.insert callId tool }
  return tool

/-- Closes the tool call if this is its last fragment. -/
def closeTool (callId : String) (stop : Bool) : Mapping (List CanonicalEvent) :=
  if stop then do
    let m ← get
    let tool ← okOr m.openTools[callId]? .invalidToolState
    modify fun m => { m with openTools := m.openTools.erase callId }
    let arguments ← completedToolArguments serde tool
    return [.toolCallEnd { callId, arguments }]
  else return []

def toolEvents (payload : Map) : Mapping (List CanonicalEvent) := do
  let callId ← requiredString payload "toolUseId"
  ensure (isValidIdentifier callId maxToolCallIdBytes) .invalidToolState
  let isNew ← declareTool payload callId
  let stop ← readStop payload
  let input ← readInput payload
  let tool ← appendInput callId input
  let ends ← closeTool serde callId stop
  return (if isNew then [.toolCallStart { callId, name := tool.name }] else []) ++
    (if input.isEmpty then [] else [.toolCallArgumentsDelta { callId, delta := input }]) ++ ends

def pushFrame (frame : KiroEventStreamFrame) : Mapping (List CanonicalEvent) := do
  let m ← get
  ensure (m.started && !m.finished) .invalidLifecycle
  ensure (frame.headers.messageType = some "event") .unexpectedFrame
  let eventType ← okOr frame.headers.eventType .unexpectedFrame
  let payload ← strictPayloadObject serde frame.payload
  match eventType with
  | "assistantResponseEvent" | "codeEvent" => textEvents payload
  | "reasoningContentEvent" => reasoningEvents payload
  | "toolUseEvent" => toolEvents serde payload
  | "contextUsageEvent" => return []
  | _ => throw .unsupportedEvent

/-- Closes the message and the response. -/
def finish : Mapping (List CanonicalEvent) := do
  let m ← get
  ensure (m.started && !m.finished) .invalidLifecycle
  ensure m.openTools.isEmpty .unfinishedTool
  modify fun m => { m with finished := true }
  return [.messageEnd {}, .responseEnd {}]

/-- All frames of a response in turn. -/
def pushFrames : List KiroEventStreamFrame → Mapping (List CanonicalEvent)
  | [] => return []
  | frame :: frames => do
    let events ← pushFrame serde frame
    let rest ← pushFrames frames
    return events ++ rest

/-- A whole response: `start`, every frame, `finish`. -/
def mapResponse (frames : List KiroEventStreamFrame) : Mapping (List CanonicalEvent) := do
  let opening ← start
  let body ← pushFrames serde frames
  let closing ← finish
  return opening ++ body ++ closing

end KiroEventSemanticMapper

end CpaGateway.Kiro.EventSemantics
