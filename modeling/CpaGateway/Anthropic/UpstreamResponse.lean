import CpaGateway.Anthropic.Encoder
import CpaGateway.Lib.Feed

/-! # The Anthropic Messages stream decoder

`AnthropicMessagesSseDecoder` reassembles the frames of a streamed body and turns each into
canonical events. `MessagesMachine` is the part of the decoder that a frame acts on; the frame
buffer is the other part, and no frame touches it. Every event passes the canonical lifecycle before
it is queued. -/

namespace CpaGateway.Anthropic.UpstreamResponse

open Core.Error Core.Events Core.Json Core.Sse Lib.Effect Lib.Fallible Lib.Feed Lib.Framing
open Anthropic.Encoder (mergeUsage)

def maxToolArgumentBytes : ℕ := maxFrameBytes

def maxToolCalls : ℕ := 32

def maxIdentifierBytes : ℕ := 256

/-- The completion reasons that are passed on. -/
def anthropicStopReasons : List String :=
  ["end_turn", "max_tokens", "model_context_window_exceeded", "pause_turn", "refusal",
    "stop_sequence", "tool_use"]

def providerTransientError : GatewayError := ⟨.providerTransient, .provider⟩

/-- The classification of an upstream error type; its message never crosses. -/
def upstreamError (kind : String) : GatewayError :=
  match kind with
  | "invalid_request_error" => ⟨.clientRequestError, .request⟩
  | "authentication_error" => ⟨.credentialUnauthorized, .credential⟩
  | "permission_error" => ⟨.credentialForbidden, .credential⟩
  | "billing_error" => ⟨.credentialQuotaExceeded, .credential⟩
  | "rate_limit_error" => ⟨.providerRateLimited, .provider⟩
  | "not_found_error" | "request_too_large" => ⟨.providerPermanent, .provider⟩
  | _ => providerTransientError

/-! ### The state -/

/-- The arguments of one streamed tool call. -/
structure ToolArguments extends Fragments where
  callId : String

inductive ActiveBlockKind
  | text
  | thinking
  | tool (arguments : ToolArguments)

/-- The one content block that may be open. -/
structure ActiveBlock where
  index : ℕ
  kind : ActiveBlockKind

/-- What is kept between the frames of an open response. `blockCount` is also the next index. -/
structure StreamingState where
  usage : Usage := {}
  active : Option ActiveBlock := none
  blockCount : ℕ := 0
  toolCallIds : List String := []
  emittedContent : Bool := false
  messageEnded : Bool := false
  stopReason : Option String := none
  stopSequence : Option String := none

inductive SseLifecycle
  | awaitingMessageStart
  | streaming (s : StreamingState)
  | finished

def SseLifecycle.isFinished : SseLifecycle → Bool
  | .finished => true
  | _ => false

def SseLifecycle.isAwaiting : SseLifecycle → Bool
  | .awaitingMessageStart => true
  | _ => false

/-- The part of the decoder that frames act on. -/
structure MessagesMachine where
  pending : List CanonicalEvent := []
  lifecycle : SseLifecycle := .awaitingMessageStart
  state : CanonicalEventState := {}
  progressFreeFrames : ℕ := 0
  progressMarks : ℕ := 0

/-- The decoder of one streamed response. -/
abbrev AnthropicMessagesSseDecoder := Intake UInt8 MessagesMachine

/-! ### Reading members -/

section Members

variable (object : Map) (name : String)

def requiredStr : Except GatewayError String :=
  okOr ((object.get name).bind Value.asStr) streamProtocolError

def optionalU64 : Except GatewayError (Option UInt64) :=
  match object.get name with
  | none | some .null => .ok none
  | some value => do
    let count ← okOr value.asU64 streamProtocolError
    return some count

/-- A block that starts must not carry a value its fragments would repeat. -/
def requireEmptyInitialValue : Except GatewayError Unit :=
  match object.get name with
  | none => .ok ()
  | some (.string value) => if value.isEmpty then .ok () else .error streamProtocolError
  | some _ => .error streamProtocolError

def frameIndex : Except GatewayError ℕ := do
  let index ← okOr ((object.get "index").bind Value.asU64) streamProtocolError
  return index.toNat

def requireAssistantMessage : Except GatewayError Unit :=
  ensure ((object.get "type").bind Value.asStr = some "message" &&
    (object.get "role").bind Value.asStr = some "assistant") streamProtocolError

def decodeResponseId : Except GatewayError ResponseId := do
  let id ← requiredStr object "id"
  okOr (ResponseId.tryNew id) streamProtocolError

def decodeStopReason : Except GatewayError String := do
  let reason ← requiredStr object "stop_reason"
  ensure (anthropicStopReasons.contains reason) streamProtocolError
  return reason

def decodeStopSequence : Except GatewayError (Option String) :=
  match object.get "stop_sequence" with
  | none | some .null => .ok none
  | some (.string value) => if value.isEmpty then .error streamProtocolError else .ok (some value)
  | some _ => .error streamProtocolError

/-- The four counters a canonical usage can carry exactly. -/
def decodeUsage (value : Option Value) : Except GatewayError Usage := do
  let usage ← okOr (value.bind Value.asObject) streamProtocolError
  let inputTokens ← optionalU64 usage "input_tokens"
  let outputTokens ← optionalU64 usage "output_tokens"
  let cacheReadTokens ← optionalU64 usage "cache_read_input_tokens"
  let cacheCreationTokens ← optionalU64 usage "cache_creation_input_tokens"
  return { inputTokens, outputTokens, cacheReadTokens, cacheCreationTokens }

end Members

/-- The counts that may precede the first output token. -/
def inputUsageSnapshot (usage : Usage) : Usage where
  inputTokens := usage.inputTokens
  cacheReadTokens := usage.cacheReadTokens
  cacheCreationTokens := usage.cacheCreationTokens

section Arguments

variable (serde : SerdeJson)

/-- The assembled value; an absent one is the empty object. -/
def ToolArguments.value (a : ToolArguments) : String :=
  if a.valueBounds.2 ≤ a.valueBounds.1 then "\x7b\x7d"
  else a.slice a.valueBounds.1 a.valueBounds.2

/-- The complete arguments, which must be an object. -/
def ToolArguments.completed (a : ToolArguments) : Except GatewayError RawJson := do
  let retained ← okOr (serde.fromJsonString a.value) streamProtocolError
  ensure (retained.get = a.value && (serde.fromStr a.value).any Value.isObject) streamProtocolError
  return retained

end Arguments

/-! ### Frames -/

variable (serde : SerdeJson)

namespace MessagesMachine

/-- The methods of the decoder that a frame runs. -/
abbrev Step := Method MessagesMachine GatewayError

/-- Queues an event that the canonical lifecycle accepts. -/
def pushEvent (event : CanonicalEvent) : Step Unit := do
  let m ← get
  let state ← liftM (m.state.apply event)
  modify fun m => { m with state := state, pending := m.pending ++ [event] }

def streamingState : Step StreamingState := do
  let m ← get
  match m.lifecycle with
  | .streaming s => pure s
  | .awaitingMessageStart | .finished => throw streamProtocolError

def setLifecycle (lifecycle : SseLifecycle) : Step Unit :=
  modify fun m => { m with lifecycle := lifecycle }

def setStreaming (s : StreamingState) : Step Unit := setLifecycle (.streaming s)

def noteProgressFrame : Step Unit :=
  modify fun m => { m with
    progressFreeFrames := 0, progressMarks := saturatingSucc m.progressMarks }

/-- Ends a response whose upstream is wedged. -/
def endWedged : Step Unit := do
  let m ← get
  ensure (!m.lifecycle.isAwaiting) providerTransientError
  pushEvent (.streamError ⟨providerTransientError⟩)
  setLifecycle .finished

/-- Counts a frame that proves only that the connection is alive. -/
def noteProgressFreeFrame : Step Unit := do
  modify fun m => { m with progressFreeFrames := saturatingSucc m.progressFreeFrames }
  let m ← get
  if m.progressFreeFrames ≤ maxProgressFreeFrames then pure () else endWedged

/-- The usage of `message_start` is passed on only with an input count. -/
def pushInputUsage (usage : Usage) : Step Unit :=
  if usage.inputTokens.isSome then pushEvent (.usageDelta { usage, isFinal := false }) else pure ()

def consumeMessageStart (frame : Map) : Step Unit := do
  let m ← get
  ensure m.lifecycle.isAwaiting streamProtocolError
  let message ← okOr ((frame.get "message").bind Value.asObject) streamProtocolError
  requireAssistantMessage message
  let responseId ← decodeResponseId message
  let reported ← decodeUsage (message.get "usage")
  let usage := inputUsageSnapshot reported
  pushEvent (.responseStart { responseId })
  pushInputUsage usage
  pushEvent (.messageStart { role := ⟨"assistant"⟩ })
  setStreaming { usage }

/-- A tool block may start with no input or with an empty one. -/
def emptyInput (block : Map) : Bool :=
  match block.get "input" with
  | none => true
  | some (.object input) => input.isEmpty
  | some _ => false

def startTool (block : Map) : Step ActiveBlockKind := do
  let s ← streamingState
  let callId ← requiredStr block "id"
  let name ← requiredStr block "name"
  ensure (!callId.isEmpty && !name.isEmpty && callId.utf8ByteSize ≤ maxIdentifierBytes &&
    name.utf8ByteSize ≤ maxIdentifierBytes && s.toolCallIds.length < maxToolCalls &&
    emptyInput block && !s.toolCallIds.contains callId) streamProtocolError
  setStreaming { s with toolCallIds := callId :: s.toolCallIds }
  pushEvent (.toolCallStart { callId, name })
  setStreaming { s with toolCallIds := callId :: s.toolCallIds, emittedContent := true }
  return .tool { callId }

def startBlock (block : Map) : Step ActiveBlockKind :=
  match (block.get "type").bind Value.asStr with
  | some "text" => do
    requireEmptyInitialValue block "text"
    return .text
  | some "thinking" => do
    requireEmptyInitialValue block "thinking"
    return .thinking
  | some "tool_use" => startTool block
  | _ => throw streamProtocolError

def consumeContentBlockStart (frame : Map) : Step Unit := do
  let s ← streamingState
  let index ← frameIndex frame
  ensure (!s.messageEnded && s.active.isNone && index = s.blockCount) streamProtocolError
  let block ← okOr ((frame.get "content_block").bind Value.asObject) streamProtocolError
  let kind ← startBlock block
  let s ← streamingState
  setStreaming { s with active := some { index, kind } }
  ensure (s.blockCount + 1 < 2 ^ 64) streamProtocolError
  setStreaming { s with active := some { index, kind }, blockCount := s.blockCount + 1 }

def markContent : Step Unit := do
  let s ← streamingState
  setStreaming { s with emittedContent := true }

/-- Queues the event of a content fragment. -/
def pushContent (event : CanonicalEvent) : Step Unit := do
  pushEvent event
  markContent

/-- Queues the event of a text fragment; an empty one has no event. -/
def pushText (delta : Map) (name : String) (event : String → CanonicalEvent) : Step Unit := do
  let text ← requiredStr delta name
  if text.isEmpty then pure () else pushContent (event text)

def pushReleased (callId : String) (released : Option String) : Step Unit :=
  match released with
  | none => pure ()
  | some delta => pushContent (.toolCallArgumentsDelta { callId, delta })

/-- Takes a fragment of tool arguments and releases what the value frames. -/
def pushArguments (active : ActiveBlock) (arguments : ToolArguments) (delta : Map) : Step Unit := do
  let part ← requiredStr delta "partial_json"
  ensure (arguments.assembled.utf8ByteSize + part.utf8ByteSize ≤ maxToolArgumentBytes)
    streamProtocolError
  let s ← streamingState
  let (released, fragments) := (arguments.push part).release
  setStreaming { s with
    active := some { active with kind := .tool { arguments with toFragments := fragments } } }
  pushReleased arguments.callId released

/-- A fragment of the open block. Signatures and citations have no canonical form and are skipped.
-/
def consumeDelta (active : ActiveBlock) (delta : Map) : Step Unit :=
  match active.kind, (delta.get "type").bind Value.asStr with
  | .text, some "text_delta" => pushText delta "text" fun text => .textDelta { text }
  | .thinking, some "thinking_delta" =>
    pushText delta "thinking" fun text => .reasoningDelta { text }
  | .tool arguments, some "input_json_delta" => pushArguments active arguments delta
  | _, some "signature_delta" | _, some "citations_delta" => pure ()
  | _, _ => throw streamProtocolError

def consumeContentBlockDelta (frame : Map) : Step Unit := do
  let s ← streamingState
  let index ← frameIndex frame
  let delta ← okOr ((frame.get "delta").bind Value.asObject) streamProtocolError
  let active ← okOr s.active streamProtocolError
  ensure (active.index = index) streamProtocolError
  consumeDelta active delta

/-- Closes a block; a tool block completes its call. -/
def closeBlock : ActiveBlockKind → Step Unit
  | .text | .thinking => pure ()
  | .tool a => do
    let arguments ← a.completed serde
    pushEvent (.toolCallEnd { callId := a.callId, arguments })

def consumeContentBlockStop (frame : Map) : Step Unit := do
  let s ← streamingState
  let index ← frameIndex frame
  let active ← okOr s.active streamProtocolError
  ensure (active.index = index) streamProtocolError
  setStreaming { s with active := none }
  closeBlock serde active.kind

/-- The one `message_delta` ends the message and reports the output usage. -/
def consumeMessageDelta (frame : Map) : Step Unit := do
  let s ← streamingState
  ensure (s.active.isNone && !s.messageEnded && s.emittedContent) streamProtocolError
  let delta ← okOr ((frame.get "delta").bind Value.asObject) streamProtocolError
  let stopReason ← decodeStopReason delta
  let stopSequence ← decodeStopSequence delta
  let reported ← decodeUsage (frame.get "usage")
  ensure reported.outputTokens.isSome streamProtocolError
  let usage := mergeUsage (some s.usage) reported
  ensure usage.inputTokens.isSome streamProtocolError
  pushEvent (.messageEnd {})
  pushEvent (.usageDelta { usage, isFinal := true })
  setStreaming { s with usage, messageEnded := true, stopReason := some stopReason, stopSequence }

def consumeMessageStop : Step Unit := do
  let s ← streamingState
  ensure s.messageEnded streamProtocolError
  pushEvent (.responseEnd { stopReason := s.stopReason, stopSequence := s.stopSequence })
  setLifecycle .finished

/-- An upstream error before the first event is the error itself, a later one ends the stream. -/
def consumeError (frame : Map) : Step Unit := do
  let m ← get
  ensure (!m.lifecycle.isFinished) streamProtocolError
  let error ← okOr ((frame.get "error").bind Value.asObject) streamProtocolError
  let kind ← okOr ((error.get "type").bind Value.asStr) streamProtocolError
  ensure ((error.get "message").all fun message => message.asStr.isSome) streamProtocolError
  ensure (!m.lifecycle.isAwaiting) (upstreamError kind)
  pushEvent (.streamError ⟨upstreamError kind⟩)
  setLifecycle .finished

/-- What a frame of a known type does; `ping` and types to come do nothing. -/
def handler (kind : String) (payload : Map) : Option (Step Unit) :=
  match kind with
  | "message_start" => some (consumeMessageStart payload)
  | "content_block_start" => some (consumeContentBlockStart payload)
  | "content_block_delta" => some (consumeContentBlockDelta payload)
  | "content_block_stop" => some (consumeContentBlockStop serde payload)
  | "message_delta" => some (consumeMessageDelta payload)
  | "message_stop" => some consumeMessageStop
  | "error" => some (consumeError payload)
  | _ => none

/-- Runs a handler. It made progress iff it queued an event. -/
def runHandler (outcome : Step Unit) : Step Unit := do
  let before ← get
  outcome
  let after ← get
  if before.pending.length < after.pending.length then noteProgressFrame
  else noteProgressFreeFrame

/-- A frame with data. -/
def consumeData (data : String) : Step Unit := do
  let value ← okOr (serde.fromStr data) streamProtocolError
  let payload ← okOr value.asObject streamProtocolError
  let kind ← okOr ((payload.get "type").bind Value.asStr) streamProtocolError
  match handler serde kind payload with
  | some outcome => runHandler outcome
  | none => noteProgressFreeFrame

def frameData (frame : String) : String :=
  "\n".intercalate (((lines frame).filterMap (stripStart "data:")).map trim)

def consumeFrame (frame : List UInt8) : Step Unit := do
  let frame ← okOr (fromUtf8 frame) streamProtocolError
  if (frameData frame).isEmpty then noteProgressFreeFrame
  else consumeData serde (frameData frame)

end MessagesMachine

/-! ### The decoder -/

/-- The decoder as a consumer of frames. -/
def consumer : Consumer UInt8 GatewayError CanonicalEvent MessagesMachine where
  delimiter := frameDelimiter
  consume := MessagesMachine.consumeFrame serde
  finished m := m.lifecycle.isFinished
  pending := MessagesMachine.pending
  put events m := { m with pending := events }

namespace AnthropicMessagesSseDecoder

def new : AnthropicMessagesSseDecoder := { machine := {} }

def isFinished (d : AnthropicMessagesSseDecoder) : Bool := d.machine.lifecycle.isFinished

def pushChunk (chunk : List UInt8) : Method AnthropicMessagesSseDecoder GatewayError Unit :=
  .onPart Intake.frames (fun d b => { d with frames := b }) id
    (FrameBuffer.append maxFrameBytes streamProtocolError chunk)

/-- Decodes frames until an event is queued, the response ends, or no complete frame remains. -/
def drainBufferedFrames (d : AnthropicMessagesSseDecoder) :
    Except GatewayError Unit × AnthropicMessagesSseDecoder :=
  d.run (consumer serde) fun m => m.pending.isEmpty && !m.lifecycle.isFinished

def takeEvent (d : AnthropicMessagesSseDecoder) :
    Option CanonicalEvent × AnthropicMessagesSseDecoder :=
  (d.machine.pending.head?, { d with machine.pending := d.machine.pending.tail })

def finish (d : AnthropicMessagesSseDecoder) : Except GatewayError Unit := d.machine.state.finish

end AnthropicMessagesSseDecoder

end CpaGateway.Anthropic.UpstreamResponse
