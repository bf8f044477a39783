import CpaGateway.Core.Sse

/-! # The OpenAI Chat encoder

`ChatSseEncoder` writes canonical events as chunk objects and keeps what the completion object
needs. An event it cannot express leaves it as it was. -/

namespace CpaGateway.Chat.Encoder

open Core.Error Core.Events Core.Json Core.Sse Lib.Effect Lib.Fallible

/-- What the gateway adds to every object it writes. -/
structure ChatResponseMetadata where
  model : String
  createdAt : UInt64
  includeUsage : Bool
  nonempty : model ≠ ""

def ChatResponseMetadata.tryNew (model : String) (createdAt : UInt64) (includeUsage : Bool) :
    Except GatewayError ChatResponseMetadata :=
  if h : model = "" then .error internalError else .ok ⟨model, createdAt, includeUsage, h⟩

/-- One frame; the terminal marker has no data. -/
structure ChatSseFrame where
  data : Option Value
  semantic : Bool

def ChatSseFrame.toWire (serde : SerdeJson) (frame : ChatSseFrame) : Except GatewayError String :=
  match frame.data with
  | some data => do
    let text ← okOr (serde.write data) internalError
    return "data: " ++ text ++ "\n\n"
  | none => .ok "data: [DONE]\n\n"

/-! ### The state -/

structure ChatToolState where
  id : String
  name : String
  arguments : String := ""

structure ChatState where
  id : String
  text : String := ""
  tools : List ChatToolState := []
  usage : Option Usage := none
  finishReason : Option String := none

/-- The encoder of one response. -/
structure ChatSseEncoder where
  metadata : ChatResponseMetadata
  lifecycle : CanonicalEventState := {}
  state : Option ChatState := none

/-! ### Objects -/

def ChatToolState.toValue (tool : ChatToolState) : Value :=
  .ofMembers [("id", .string tool.id), ("type", .string "function"),
    ("function", .ofMembers [("name", .string tool.name), ("arguments", .string tool.arguments)])]

def ChatState.messageValue (s : ChatState) : Value :=
  .ofMembers <|
    [("role", .string "assistant"),
      ("content", if s.text.isEmpty then .null else .string s.text)] ++
    if s.tools.isEmpty then []
    else [("tool_calls", .array (s.tools.map ChatToolState.toValue))]

/-- An object with one counter, if there is one. -/
def detail (name counter : String) (count : Option UInt64) : List (String × Value) :=
  match count with
  | some count => [(name, .ofMembers [(counter, .ofU64 count)])]
  | none => []

def usageValue (usage : Usage) : Except GatewayError Value := do
  ensure (usage.cacheReadTokens.isNone && usage.cacheCreationTokens.isNone) streamProtocolError
  let prompt ← okOr usage.inputTokens streamProtocolError
  let completion ← okOr usage.outputTokens streamProtocolError
  let total ← okOr (checkedAdd prompt completion) streamProtocolError
  return .ofMembers <|
    [("prompt_tokens", .ofU64 prompt), ("completion_tokens", .ofU64 completion),
      ("total_tokens", .ofU64 total)] ++
    detail "prompt_tokens_details" "cached_tokens" usage.cachedTokens ++
    detail "completion_tokens_details" "reasoning_tokens" usage.reasoningTokens

def optionalUsageValue (usage : Option Usage) : Except GatewayError Value :=
  match usage with
  | some usage => usageValue usage
  | none => .ok .null

/-- The finish reason of a response. A response with tool calls does not simply stop. -/
def chatFinishReason (reason : Option String) (hasTools : Bool) : Except GatewayError String :=
  match reason with
  | some "tool_use" | some "tool_calls" => .ok "tool_calls"
  | some "max_tokens" | some "length" => .ok "length"
  | some "refusal" | some "content_filter" => .ok "content_filter"
  | some "end_turn" | some "stop" => if hasTools then .error streamProtocolError else .ok "stop"
  | none => .ok (if hasTools then "tool_calls" else "stop")
  | some _ => .error streamProtocolError

def encodeError (error : GatewayError) : Value :=
  .ofMembers [("error", .ofMembers [("message", .string error.safeMessage),
    ("type", .string "gateway_error"), ("code", .string error.code.asStr), ("param", .null)])]

/-! ### Events -/

namespace ChatSseEncoder

abbrev Encode := Method ChatSseEncoder GatewayError

def new (metadata : ChatResponseMetadata) : ChatSseEncoder := { metadata }

def stateRef : Encode ChatState := do
  let encoder ← get
  okOr encoder.state streamProtocolError

def setState (s : ChatState) : Encode Unit := modify fun encoder => { encoder with state := some s }

/-- The first tool call with this identifier, and where it stands. -/
def findTool (tools : List ChatToolState) (callId : String) : Option (ℕ × ChatToolState) :=
  (tools.findIdx? fun tool => tool.id = callId).bind fun index =>
    tools[index]?.map fun tool => (index, tool)

def chunkObject (metadata : ChatResponseMetadata) (s : ChatState) (choices : List Value)
    (more : List (String × Value)) : Value :=
  .ofMembers <|
    [("id", .string s.id), ("object", .string "chat.completion.chunk"),
      ("created", .ofU64 metadata.createdAt), ("model", .string metadata.model),
      ("choices", .array choices)] ++ more

/-- The one choice of a chunk. -/
def choiceValue (delta finishReason : Value) : Value :=
  .ofMembers [("index", .ofIndex 0), ("delta", delta), ("finish_reason", finishReason)]

def chunk (delta : Value) (semantic : Bool) : Encode ChatSseFrame := do
  let s ← stateRef
  let encoder ← get
  return ⟨some (chunkObject encoder.metadata s [choiceValue delta .null] []), semantic⟩

def chunkWithFinish (reason : String) : Encode ChatSseFrame := do
  let s ← stateRef
  let encoder ← get
  return ⟨some (chunkObject encoder.metadata s
    [choiceValue (.ofMembers []) (.string reason)] []), true⟩

def usageChunk (usage : Usage) : Encode ChatSseFrame := do
  let s ← stateRef
  let encoder ← get
  let usage ← usageValue usage
  return ⟨some (chunkObject encoder.metadata s [] [("usage", usage)]), true⟩

/-- The usage chunk, if the client asked for one and usage was reported. -/
def usageFrames : Encode (List ChatSseFrame) := do
  let s ← stateRef
  let encoder ← get
  match s.usage.filter fun _ => encoder.metadata.includeUsage with
  | none => pure []
  | some usage => do
    let frame ← usageChunk usage
    return [frame]

def doneFrame : ChatSseFrame := ⟨none, false⟩

/-- A fragment of the tool call at `index`. -/
def toolDelta (members : List (String × Value)) : Value :=
  .ofMembers [("tool_calls", .array [.ofMembers members])]

def encodeResponseStart (start : ResponseStart) : Encode (List ChatSseFrame) := do
  let encoder ← get
  ensure encoder.state.isNone streamProtocolError
  setState { id := start.responseId.asStr }
  return []

def encodeMessageStart (start : MessageStart) : Encode (List ChatSseFrame) := do
  ensure (start.role.value = "assistant") streamProtocolError
  let frame ← chunk (.ofMembers [("role", .string "assistant"), ("content", .null)]) true
  return [frame]

def encodeTextDelta (delta : TextDelta) : Encode (List ChatSseFrame) := do
  let s ← stateRef
  setState { s with text := s.text ++ delta.text }
  let frame ← chunk (.ofMembers [("content", .string delta.text)]) true
  return [frame]

def encodeToolCallStart (start : ToolCallStart) : Encode (List ChatSseFrame) := do
  let s ← stateRef
  setState { s with tools := s.tools ++ [{ id := start.callId, name := start.name }] }
  let frame ← chunk (toolDelta [("index", .ofIndex s.tools.length), ("id", .string start.callId),
    ("type", .string "function"), ("function", .ofMembers [("name", .string start.name),
      ("arguments", .string "")])]) true
  return [frame]

def encodeArgumentsDelta (delta : ToolCallArgumentsDelta) : Encode (List ChatSseFrame) := do
  let s ← stateRef
  let (index, tool) ← okOr (findTool s.tools delta.callId) streamProtocolError
  setState { s with
    tools := s.tools.set index { tool with arguments := tool.arguments ++ delta.delta } }
  let frame ← chunk (toolDelta [("index", .ofIndex index),
    ("function", .ofMembers [("arguments", .string delta.delta)])]) true
  return [frame]

/-- The arguments of a completed call must be its fragments. -/
def encodeToolCallEnd (e : ToolCallEnd) : Encode (List ChatSseFrame) := do
  let s ← stateRef
  let (_, tool) ← okOr (findTool s.tools e.callId) streamProtocolError
  ensure (tool.arguments = e.arguments.get) streamProtocolError
  return []

def encodeUsageDelta (delta : UsageDelta) : Encode (List ChatSseFrame) := do
  let _ ← usageValue delta.usage
  let s ← stateRef
  setState { s with usage := some delta.usage }
  return []

def encodeResponseEnd (e : ResponseEnd) : Encode (List ChatSseFrame) := do
  let s ← stateRef
  let reason ← chatFinishReason e.stopReason (!s.tools.isEmpty)
  setState { s with finishReason := some reason }
  let finish ← chunkWithFinish reason
  let usage ← usageFrames
  return finish :: usage ++ [doneFrame]

def encodeValidEvent : CanonicalEvent → Encode (List ChatSseFrame)
  | .responseStart start => encodeResponseStart start
  | .messageStart start => encodeMessageStart start
  | .textDelta delta => encodeTextDelta delta
  | .reasoningDelta _ => throw streamProtocolError
  | .toolCallStart start => encodeToolCallStart start
  | .toolCallArgumentsDelta delta => encodeArgumentsDelta delta
  | .toolCallEnd e => encodeToolCallEnd e
  | .usageDelta delta => encodeUsageDelta delta
  | .messageEnd _ => pure []
  | .responseEnd e => encodeResponseEnd e
  | .streamError e => pure [⟨some (encodeError e.error), true⟩, doneFrame]

/-- One event. A failure leaves the encoder as it was. -/
def encodeEvent (event : CanonicalEvent) : Encode (List ChatSseFrame) := do
  ensure event.extensionsEmpty streamProtocolError
  let encoder ← get
  let lifecycle ← encoder.lifecycle.apply event
  let frames ← (encodeValidEvent event).orRestore fun before after =>
    { after with state := before.state }
  modify fun encoder => { encoder with lifecycle := lifecycle }
  return frames

/-- The completion object of a response that ended. -/
def intoCompletedResponse (encoder : ChatSseEncoder) : Except GatewayError Value := do
  ensure encoder.lifecycle.isSuccess streamTruncatedError
  let s ← okOr encoder.state internalError
  let finishReason ← okOr s.finishReason internalError
  let usage ← optionalUsageValue s.usage
  return .ofMembers [("id", .string s.id), ("object", .string "chat.completion"),
    ("created", .ofU64 encoder.metadata.createdAt), ("model", .string encoder.metadata.model),
    ("choices", .array [.ofMembers [("index", .ofIndex 0), ("message", s.messageValue),
      ("finish_reason", .string finishReason)]]),
    ("usage", usage)]

end ChatSseEncoder

/-- The completion object of a finite response. -/
def encodeResponse (response : CanonicalResponse) (metadata : ChatResponseMetadata) :
    Except GatewayError Value := do
  let (result, encoder) :=
    (Method.collect ChatSseEncoder.encodeEvent response.events).call (.new metadata)
  let _ ← result
  encoder.intoCompletedResponse

end CpaGateway.Chat.Encoder
