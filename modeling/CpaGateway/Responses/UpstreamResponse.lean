import CpaGateway.Core.Sse
import CpaGateway.Lib.Feed

/-! # The OpenAI Responses stream decoder

`OpenAiResponsesSseDecoder` reassembles the frames of a streamed body and turns each into canonical
events. A push returns the events of all frames it completed, or an error: the events that were
queued before the error stay in the decoder. `ResponsesMachine` is the part of the decoder that
frames act on.

The slice of a blank argument text panics, so a frame can end in a panic instead of an error. -/

namespace CpaGateway.Responses.UpstreamResponse

open Core.Error Core.Events Core.Json Core.Sse Lib.Effect Lib.Fallible Lib.Feed Lib.Framing

def maxToolArgumentBytes : ℕ := 8 * 1024 * 1024

def maxOutputItems : ℕ := 64

def maxToolCalls : ℕ := 32

def maxIdentifierBytes : ℕ := 256

/-- A call that does not return normally: it returns an error, or panics. -/
inductive Fault
  | rejected (e : GatewayError)
  | panicked
  deriving DecidableEq

def protocolError : Fault := .rejected ⟨.upstreamProtocolError, .stream⟩

def truncatedError : Fault := .rejected ⟨.streamTruncated, .stream⟩

def transientError : GatewayError := ⟨.providerTransient, .provider⟩

/-! ### The state -/

/-- A tool call that was declared. -/
structure OpenTool extends Fragments where
  callId : String
  ended : Bool := false

/-- What is kept between the frames of an open response. -/
structure SseState where
  responseId : String
  messageOpen : Bool := false
  emittedContent : Bool := false
  outputItems : List String := []
  textItems : List String := []
  reasoningItems : List String := []
  tools : Std.TreeMap String OpenTool := ∅
  callIds : List String := []
  retainedArgumentBytes : ℕ := 0

inductive SseLifecycle
  | awaitingStart
  | streaming (s : SseState)
  | finished

def SseLifecycle.isFinished : SseLifecycle → Bool
  | .finished => true
  | _ => false

def SseLifecycle.isAwaiting : SseLifecycle → Bool
  | .awaitingStart => true
  | _ => false

/-- The part of the decoder that frames act on. -/
structure ResponsesMachine where
  state : CanonicalEventState := {}
  lifecycle : SseLifecycle := .awaitingStart
  pending : List CanonicalEvent := []
  progressFreeFrames : ℕ := 0
  progressMarks : ℕ := 0
  suppressReasoning : Bool := false

abbrev OpenAiResponsesSseDecoder := Intake UInt8 ResponsesMachine

/-! ### Reading members -/

/-- A text that is not empty. -/
def nonEmptyStr (value : Option Value) : Option String :=
  (value.bind Value.asStr).filter fun text => !text.isEmpty

section Members

variable (value : Map) (field : String)

def required : Except Fault Value := okOr (value.get field) protocolError

def requiredString : Except Fault String := okOr (nonEmptyStr (value.get field)) protocolError

def identifier : Except Fault String := do
  let text ← requiredString value field
  ensure (text.utf8ByteSize ≤ maxIdentifierBytes) protocolError
  return text

def optionalU64 : Except Fault (Option UInt64) :=
  match value.get field with
  | none => .ok none
  | some count => do
    let count ← okOr count.asU64 protocolError
    return some count

def requireOnlyKeys (allowed : List String) : Except Fault Unit :=
  ensure (value.all fun member => allowed.contains member.1) protocolError

end Members

def object (value : Value) : Except Fault Map := okOr value.asObject protocolError

def requiredStringValue (value : Value) (field : String) : Except Fault String :=
  okOr (nonEmptyStr (value.get field)) protocolError

def stringValue (value : Value) (field : String) : Except Fault String :=
  okOr ((value.get field).bind Value.asStr) protocolError

/-- The object called `field` of a frame. -/
def objectMember (value : Value) (field : String) : Except Fault Map := do
  let inner ← okOr (value.get field) protocolError
  object inner

/-- A counter of an optional object that may hold nothing else. -/
def nestedOptionalU64 (value : Map) (parent child : String) : Except Fault (Option UInt64) :=
  match value.get parent with
  | none | some .null => .ok none
  | some details => do
    let details ← object details
    requireOnlyKeys details [child]
    optionalU64 details child

def decodeInputTokenDetails (value : Map) : Except Fault (Option UInt64) :=
  match value.get "input_tokens_details" with
  | none | some .null => .ok none
  | some details => do
    let details ← object details
    requireOnlyKeys details ["cached_tokens", "cache_write_tokens"]
    ensure ((details.get "cache_write_tokens").all fun count => count.asU64 = some 0) protocolError
    optionalU64 details "cached_tokens"

/-- A reported total must be the sum of both counts. -/
def totalAgrees (input output total : Option UInt64) : Bool :=
  match total with
  | none => true
  | some total =>
    (input.bind fun input => output.bind fun output => checkedAdd input output) = some total

def decodeUsageObject (value : Map) : Except Fault Usage := do
  requireOnlyKeys value ["input_tokens", "input_tokens_details", "output_tokens",
    "output_tokens_details", "total_tokens"]
  let inputTokens ← optionalU64 value "input_tokens"
  let outputTokens ← optionalU64 value "output_tokens"
  let total ← optionalU64 value "total_tokens"
  ensure (totalAgrees inputTokens outputTokens total) protocolError
  let cachedTokens ← decodeInputTokenDetails value
  let reasoningTokens ← nestedOptionalU64 value "output_tokens_details" "reasoning_tokens"
  return { inputTokens, outputTokens, cachedTokens, reasoningTokens }

def decodeUsage (value : Option Value) : Except Fault (Option Usage) :=
  match value with
  | none | some .null => .ok none
  | some value => do
    let value ← object value
    let usage ← decodeUsageObject value
    return some usage

def initialUsage (usage : Usage) : Usage where
  inputTokens := usage.inputTokens
  cachedTokens := usage.cachedTokens

def incompleteReason (response : Option Value) : Except Fault String :=
  match (((response.bind (·.get "incomplete_details")).bind (·.get "reason")).bind Value.asStr) with
  | some "max_output_tokens" => .ok "max_tokens"
  | some "content_filter" => .ok "refusal"
  | _ => .error protocolError

def completedOrAbsent (status : Option Value) : Bool :=
  status.all fun status => status.asStr = some "completed"

/-! ### Tool arguments -/

variable (serde : SerdeJson)

namespace OpenTool

/-- A slice of the argument text. A slice that ends before it starts panics. -/
def sliceOrPanic (call : OpenTool) (start stop : ℕ) : Except Fault String :=
  if start ≤ stop then .ok (call.slice start stop) else .error .panicked

/-- The text of the value; an absent one is the empty object. -/
def value (call : OpenTool) : Except Fault String :=
  if call.valueBounds.1 = call.valueBounds.2 then .ok "\x7b\x7d"
  else call.sliceOrPanic call.valueBounds.1 call.valueBounds.2

def arguments (call : OpenTool) : Except Fault RawJson := do
  let value ← call.value
  okOr (serde.fromJsonString value) protocolError

def reportedText (reported : Option String) : Option String :=
  reported.filter fun value => !(trim value).isEmpty

/-- Takes the reported arguments of a call without any of its own. -/
def settleEmpty (call : OpenTool) (retained : ℕ) (reported : Option String) (authoritative : Bool) :
    Except Fault (Option (OpenTool × ℕ)) :=
  match reportedText reported with
  | some text => do
    ensure (retained + text.utf8ByteSize ≤ maxToolArgumentBytes) protocolError
    return some ({ call with toFragments := call.push text }, retained + text.utf8ByteSize)
  | none => .ok (if authoritative then some (call, retained) else none)

/-- Compares the reported arguments of a call with its own. -/
def settleAssembled (call : OpenTool) (retained : ℕ) (reported : Option String) :
    Except Fault (Option (OpenTool × ℕ)) :=
  match reported with
  | none => .ok (some (call, retained))
  | some text => do
    let value ← call.sliceOrPanic call.valueBounds.1 call.valueBounds.2
    ensure (value = trim text) protocolError
    return some (call, retained)

/-- The call with its reported arguments settled, or nothing if they are still to come. -/
def settle (call : OpenTool) (retained : ℕ) (reported : Option String) (authoritative : Bool) :
    Except Fault (Option (OpenTool × ℕ)) :=
  if call.valueBounds.1 = call.valueBounds.2 then
    call.settleEmpty retained reported authoritative
  else call.settleAssembled retained reported

end OpenTool

/-! ### Frames -/

namespace ResponsesMachine

/-- The methods of the decoder that a frame runs. -/
abbrev Step := Method ResponsesMachine Fault

/-- Queues an event that the canonical lifecycle accepts. -/
def emit (event : CanonicalEvent) : Step Unit := do
  let m ← get
  let state ← liftM ((m.state.apply event).mapError fun _ => protocolError)
  modify fun m => { m with state := state, pending := m.pending ++ [event] }

def streaming : Step SseState := do
  let m ← get
  match m.lifecycle with
  | .streaming s => pure s
  | .awaitingStart | .finished => throw protocolError

def setLifecycle (lifecycle : SseLifecycle) : Step Unit :=
  modify fun m => { m with lifecycle := lifecycle }

def setStreaming (s : SseState) : Step Unit := setLifecycle (.streaming s)

def endWedged : Step Unit := do
  emit (.streamError ⟨transientError⟩)
  setLifecycle .finished

/-- Counts a frame that proves only that the connection is alive. -/
def noteProgressFree : Step Unit := do
  modify fun m => { m with progressFreeFrames := saturatingSucc m.progressFreeFrames }
  let m ← get
  if maxProgressFreeFrames < m.progressFreeFrames then endWedged else pure ()

/-- The usage of a started response is passed on only with an input count. -/
def emitInitialUsage (usage : Option Usage) : Step Unit :=
  match usage.filter fun usage => usage.inputTokens.isSome with
  | some usage => emit (.usageDelta { usage := initialUsage usage, isFinal := false })
  | none => pure ()

def start (value : Value) : Step Unit := do
  let m ← get
  ensure m.lifecycle.isAwaiting protocolError
  let response ← objectMember value "response"
  let id ← identifier response "id"
  let responseId ← okOr (ResponseId.tryNew id) protocolError
  setStreaming { responseId := responseId.asStr }
  emit (.responseStart { responseId })
  let usage ← decodeUsage (response.get "usage")
  emitInitialUsage usage

def openMessage (s : SseState) : Step Unit := do
  emit (.messageStart { role := ⟨"assistant"⟩ })
  setStreaming { s with messageOpen := true }

def ensureMessage : Step Unit := do
  let s ← streaming
  if s.messageOpen then pure () else openMessage s

def startTool (itemId : String) (item : Map) : Step Unit := do
  let callId ← identifier item "call_id"
  let name ← identifier item "name"
  let s ← streaming
  ensure (s.tools.size < maxToolCalls && !s.callIds.contains callId) protocolError
  setStreaming { s with
    callIds := callId :: s.callIds, tools := s.tools.insert itemId { callId } }
  ensureMessage
  emit (.toolCallStart { callId, name })

/-- A reasoning item with encrypted content is private: it is refused unless reasoning is
suppressed. -/
def addReasoning (itemId : String) (item : Map) : Step Unit := do
  let m ← get
  let s ← streaming
  ensure (m.suppressReasoning || (item.get "encrypted_content").all Value.isNull) protocolError
  setStreaming { s with reasoningItems := itemId :: s.reasoningItems }
  if m.suppressReasoning then pure () else ensureMessage

def addMessage (itemId : String) (item : Map) : Step Unit := do
  let s ← streaming
  ensure ((item.get "role").bind Value.asStr = some "assistant") protocolError
  setStreaming { s with textItems := itemId :: s.textItems }
  ensureMessage

def addItem (kind itemId : String) (item : Map) : Step Unit :=
  match kind with
  | "message" => addMessage itemId item
  | "reasoning" => addReasoning itemId item
  | "function_call" => startTool itemId item
  | _ => throw protocolError

def outputItemAdded (value : Value) : Step Unit := do
  let item ← objectMember value "item"
  let kind ← requiredString item "type"
  let itemId ← identifier item "id"
  let s ← streaming
  ensure (s.outputItems.length < maxOutputItems && !s.outputItems.contains itemId) protocolError
  setStreaming { s with outputItems := itemId :: s.outputItems }
  addItem kind itemId item

/-- Queues the event of a content fragment; an empty one has no event. -/
def emitContent (s : SseState) (delta : String) (event : String → CanonicalEvent) : Step Unit :=
  if delta.isEmpty then pure ()
  else do
    setStreaming { s with emittedContent := true }
    emit (event delta)

def textDelta (value : Value) : Step Unit := do
  let itemId ← requiredStringValue value "item_id"
  let delta ← stringValue value "delta"
  let s ← streaming
  ensure (s.textItems.contains itemId) protocolError
  emitContent s delta fun text => .textDelta { text }

def reasoningDelta (value : Value) : Step Unit := do
  let itemId ← requiredStringValue value "item_id"
  let delta ← stringValue value "delta"
  let s ← streaming
  ensure (s.reasoningItems.contains itemId) protocolError
  let m ← get
  if m.suppressReasoning then pure () else emitContent s delta fun text => .reasoningDelta { text }

def emitReleased (callId : String) (released : Option String) : Step Unit :=
  match released with
  | none => pure ()
  | some delta => emit (.toolCallArgumentsDelta { callId, delta })

def toolDelta (value : Value) : Step Unit := do
  let itemId ← requiredStringValue value "item_id"
  let delta ← stringValue value "delta"
  let s ← streaming
  ensure (s.retainedArgumentBytes + delta.utf8ByteSize ≤ maxToolArgumentBytes) protocolError
  let call ← okOr (s.tools[itemId]?.filter fun call => !call.ended) protocolError
  let (released, fragments) := (call.push delta).release
  setStreaming { s with
    tools := s.tools.insert itemId { call with toFragments := fragments }
    retainedArgumentBytes := s.retainedArgumentBytes + delta.utf8ByteSize }
  emitReleased call.callId released

/-- Completes a call whose arguments are settled. -/
def completeTool (itemId : String) (settled : Option (OpenTool × ℕ)) : Step Unit :=
  match settled with
  | none => pure ()
  | some (call, retained) => do
    let s ← streaming
    let (delta, fragments) := call.release
    let released : OpenTool := { call with toFragments := fragments }
    setStreaming { s with
      tools := s.tools.insert itemId released, retainedArgumentBytes := retained }
    let arguments ← released.arguments serde
    setStreaming { s with
      tools := s.tools.insert itemId { released with ended := true }
      retainedArgumentBytes := retained
      emittedContent := true }
    emitReleased call.callId delta
    emit (.toolCallEnd { callId := call.callId, arguments })

def settleTool (itemId : String) (call : OpenTool) (retained : ℕ)
    (reported : Option String) (authoritative : Bool) : Step Unit := do
  let settled ← call.settle retained reported authoritative
  completeTool serde itemId settled

def finishTool (itemId : String) (reported : Option String) (authoritative : Bool) : Step Unit := do
  let s ← streaming
  let call ← okOr s.tools[itemId]? protocolError
  if call.ended then pure ()
  else settleTool serde itemId call s.retainedArgumentBytes reported authoritative

def toolDone (value : Value) : Step Unit := do
  let itemId ← requiredStringValue value "item_id"
  finishTool serde itemId ((value.get "arguments").bind Value.asStr) false

def endItem (s : SseState) (kind itemId : String) (item : Map) : Step Unit :=
  match kind with
  | "function_call" => finishTool serde itemId ((item.get "arguments").bind Value.asStr) true
  | "message" =>
    ensure (s.textItems.contains itemId && completedOrAbsent (item.get "status")) protocolError
  | "reasoning" =>
    ensure (s.reasoningItems.contains itemId && completedOrAbsent (item.get "status")) protocolError
  | _ => throw protocolError

def outputItemDone (value : Value) : Step Unit := do
  let item ← objectMember value "item"
  let itemId ← identifier item "id"
  let s ← streaming
  ensure (s.outputItems.contains itemId) protocolError
  let kind ← requiredString item "type"
  endItem serde s kind itemId item

def closeMessage (s : SseState) : Step Unit :=
  if s.messageOpen then emit (.messageEnd {}) else pure ()

def emitFinalUsage (usage : Option Usage) : Step Unit :=
  match usage with
  | some usage => emit (.usageDelta { usage, isFinal := true })
  | none => pure ()

/-- The stop reason of a response that reported none. -/
def defaultReason (s : SseState) : String := if s.callIds.isEmpty then "end_turn" else "tool_use"

def endResponse (value : Value) (reportedReason : Option String) : Step Unit := do
  let response ← objectMember value "response"
  let s ← streaming
  let id ← identifier response "id"
  ensure (id = s.responseId &&
    (response.get "status").bind Value.asStr =
      some (if reportedReason.isSome then "incomplete" else "completed") &&
    s.emittedContent && s.tools.toList.all fun tool => tool.2.ended) protocolError
  closeMessage s
  let usage ← decodeUsage (response.get "usage")
  emitFinalUsage usage
  emit (.responseEnd { stopReason := some (reportedReason.getD (defaultReason s)) })
  setLifecycle .finished

def endIncomplete (value : Value) : Step Unit := do
  let reason ← incompleteReason (value.get "response")
  endResponse value (some reason)

def failed : Step Unit := do
  let m ← get
  ensure (!m.lifecycle.isAwaiting) protocolError
  emit (.streamError ⟨transientError⟩)
  setLifecycle .finished

/-- What a frame of this type does. -/
def dispatch (kind : String) (value : Value) : Step Unit :=
  match kind with
  | "response.created" => start value
  | "response.output_item.added" => outputItemAdded value
  | "response.output_text.delta" => textDelta value
  | "response.reasoning_summary_text.delta" | "response.reasoning_text.delta" =>
    reasoningDelta value
  | "response.function_call_arguments.delta" => toolDelta value
  | "response.function_call_arguments.done" => toolDone serde value
  | "response.output_item.done" => outputItemDone serde value
  | "response.completed" => endResponse value none
  | "response.incomplete" => endIncomplete value
  | "response.failed" => failed
  | "response.content_part.added" | "response.content_part.done" | "response.output_text.done"
  | "response.reasoning_summary_part.added" | "response.reasoning_summary_part.done"
  | "response.reasoning_summary_text.done" | "response.reasoning_text.done" => pure ()
  | _ => throw protocolError

/-- A frame that makes progress by its type alone. -/
def progress (kind : String) (value : Value) : Step Unit := do
  modify fun m => { m with
    progressFreeFrames := 0, progressMarks := saturatingSucc m.progressMarks }
  dispatch serde kind value

/-- The event name and the data lines of a frame. -/
structure FrameFields where
  event : Option String := none
  data : List String := []

/-- One line of a frame. Blank lines and comments say nothing. -/
def readLine (fields : FrameFields) (line : String) : Except Fault FrameFields :=
  match stripStart "event:" line, stripStart "data:" line with
  | some value, _ =>
    if fields.event.isSome then .error protocolError
    else .ok { fields with event := some (trim value) }
  | none, some value => .ok { fields with data := fields.data ++ [trim value] }
  | none, none =>
    if line.isEmpty || (stripStart ":" line).isSome then .ok fields else .error protocolError

def frameFields (frame : String) : Except Fault FrameFields := (lines frame).foldlM readLine {}

/-- A frame with data. -/
def consumeData (event : Option String) (data : String) : Step Unit := do
  ensure (serde.isDuplicateFree data) protocolError
  let value ← okOr (serde.fromStr data) protocolError
  let kind ← okOr ((value.get "type").bind Value.asStr) protocolError
  ensure (event.all fun name => name = kind) protocolError
  if kind = "response.in_progress" then noteProgressFree else progress serde kind value

def consumeFields (fields : FrameFields) : Step Unit :=
  if fields.data.isEmpty then noteProgressFree
  else consumeData serde fields.event ("\n".intercalate fields.data)

def consumeFrame (frame : List UInt8) : Step Unit := do
  let frame ← okOr (fromUtf8 frame) protocolError
  let fields ← frameFields frame
  consumeFields serde fields

end ResponsesMachine

/-! ### The decoder -/

/-- The events that were not returned yet. -/
def queue : Queue CanonicalEvent ResponsesMachine where
  pending := ResponsesMachine.pending
  put events m := { m with pending := events }

/-- The decoder as a consumer of frames. -/
def consumer : Consumer UInt8 Fault CanonicalEvent ResponsesMachine where
  toQueue := queue
  delimiter := frameDelimiter
  consume := ResponsesMachine.consumeFrame serde
  finished m := m.lifecycle.isFinished

namespace OpenAiResponsesSseDecoder

def new : OpenAiResponsesSseDecoder := { machine := {} }

def newWithReasoningSuppressed : OpenAiResponsesSseDecoder :=
  { machine := { suppressReasoning := true } }

def isFinished (d : OpenAiResponsesSseDecoder) : Bool := d.machine.lifecycle.isFinished

def append (chunk : List UInt8) : Method OpenAiResponsesSseDecoder Fault Unit :=
  .onPart Intake.frames (fun d b => { d with frames := b }) id
    (FrameBuffer.append maxFrameBytes protocolError chunk)

/-- Consumes frames until the response ends or no complete frame remains. -/
def consumeFrames : Method OpenAiResponsesSseDecoder Fault Unit :=
  .of fun d => d.run (consumer serde) fun m => !m.lifecycle.isFinished

def takePending : Method OpenAiResponsesSseDecoder Fault (List CanonicalEvent) := do
  let d ← get
  modify fun d => { d with machine.pending := [] }
  return d.machine.pending

/-- Appends a chunk and returns the events of the frames it completes. Bytes after the terminal
frame must be white space. -/
def push (chunk : List UInt8) : Method OpenAiResponsesSseDecoder Fault (List CanonicalEvent) := do
  let d ← get
  ensure (!d.isFinished || chunk.all isAsciiWhitespace) protocolError
  append chunk
  consumeFrames serde
  takePending

/-- Ends the body: the response must have ended, and only white space may follow it. -/
def finish : Method OpenAiResponsesSseDecoder Fault (List CanonicalEvent) := do
  let events ← push serde []
  let d ← get
  ensure (d.isFinished && d.frames.live.all isAsciiWhitespace) truncatedError
  return events

end OpenAiResponsesSseDecoder

end CpaGateway.Responses.UpstreamResponse
