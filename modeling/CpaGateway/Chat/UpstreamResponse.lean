import CpaGateway.Core.Sse

/-! # The OpenAI Chat stream decoder

`OpenAiChatSseDecoder` cuts a streamed body into frames and turns each chunk object into canonical
events. A line feed pair anywhere in the buffer closes a frame before any carriage return pair does.
`ChatMachine` is the part of the decoder that frames act on. -/

namespace CpaGateway.Chat.UpstreamResponse

open Core.Error Core.Events Core.Json Core.Sse Lib.Effect Lib.Fallible

def maxToolCalls : ℕ := 32

def maxIdentifierBytes : ℕ := 256

def protocolError : GatewayError := ⟨.upstreamProtocolError, .stream⟩

def truncatedError : GatewayError := ⟨.streamTruncated, .stream⟩

/-! ### The state -/

/-- A tool call that was declared, with its argument text so far. -/
structure OpenTool where
  id : String
  name : String
  arguments : String

inductive StreamUsageState
  | notReported
  | final
  deriving DecidableEq

/-- What is kept between the chunks of an open response. -/
structure StreamState where
  responseId : Option String := none
  contentSeen : Bool := false
  content : String := ""
  tools : Std.TreeMap ℕ OpenTool := ∅
  finishReason : Option String := none
  messageClosed : Bool := false
  usage : StreamUsageState := .notReported

inductive StreamLifecycle
  | awaitingStart
  | streaming (s : StreamState)
  | finished

def StreamLifecycle.isFinished : StreamLifecycle → Bool
  | .finished => true
  | _ => false

/-- The part of the decoder that frames act on. -/
structure ChatMachine where
  state : CanonicalEventState := {}
  lifecycle : StreamLifecycle := .awaitingStart
  pending : List CanonicalEvent := []

/-- The decoder of one streamed response. -/
structure OpenAiChatSseDecoder where
  buffer : List UInt8 := []
  machine : ChatMachine := {}

/-! ### Reading members -/

section Members

variable (object : Map) (name : String)

def requireOnlyKeys (allowed : List String) : Except GatewayError Unit :=
  ensure (object.all fun member => allowed.contains member.1) protocolError

def nonempty : Except GatewayError String := do
  let value ← okOr ((object.get name).bind Value.asStr) protocolError
  ensure (!value.isEmpty) protocolError
  return value

def objectMember : Except GatewayError Map := do
  let value ← okOr (object.get name) protocolError
  okOr value.asObject protocolError

/-- A member that is present and not null. -/
def reported : Option Value := (object.get name).filter fun value => !value.isNull

/-- A member that, if present, is the empty text. -/
def absentOrEmpty : Bool := (object.get name).all fun value => value.asStr = some ""

def zeroOrAbsent : Bool := ((object.get name).bind Value.asU64).all fun count => count = 0

end Members

def validateIdentifier (value : String) : Except GatewayError Unit :=
  ensure (!value.isEmpty && value.utf8ByteSize ≤ maxIdentifierBytes) protocolError

def decodeCachedTokens (usage : Map) : Except GatewayError (Option UInt64) :=
  match usage.get "prompt_tokens_details" with
  | none | some .null => .ok none
  | some details => do
    let details ← okOr details.asObject protocolError
    requireOnlyKeys details ["cached_tokens", "audio_tokens"]
    ensure (zeroOrAbsent details "audio_tokens") protocolError
    return (details.get "cached_tokens").bind Value.asU64

def decodeReasoningTokens (usage : Map) : Except GatewayError (Option UInt64) :=
  match usage.get "completion_tokens_details" with
  | none | some .null => .ok none
  | some details => do
    let details ← okOr details.asObject protocolError
    requireOnlyKeys details ["reasoning_tokens", "audio_tokens", "accepted_prediction_tokens",
      "rejected_prediction_tokens"]
    ensure (zeroOrAbsent details "audio_tokens" &&
      zeroOrAbsent details "accepted_prediction_tokens" &&
      zeroOrAbsent details "rejected_prediction_tokens") protocolError
    return (details.get "reasoning_tokens").bind Value.asU64

def decodeUsage (value : Value) : Except GatewayError Usage := do
  let usage ← okOr value.asObject protocolError
  requireOnlyKeys usage ["prompt_tokens", "completion_tokens", "total_tokens",
    "prompt_tokens_details", "completion_tokens_details"]
  let inputTokens ← okOr ((usage.get "prompt_tokens").bind Value.asU64) protocolError
  let outputTokens ← okOr ((usage.get "completion_tokens").bind Value.asU64) protocolError
  let expectedTotal ← okOr (checkedAdd inputTokens outputTokens) protocolError
  ensure (((usage.get "total_tokens").bind Value.asU64).all fun total => total = expectedTotal)
    protocolError
  let cachedTokens ← decodeCachedTokens usage
  let reasoningTokens ← decodeReasoningTokens usage
  return {
    inputTokens := some inputTokens
    outputTokens := some outputTokens
    cachedTokens
    reasoningTokens }

def decodeFinishReason (choice : Map) : Except GatewayError String :=
  match (choice.get "finish_reason").bind Value.asStr with
  | some "stop" => .ok "end_turn"
  | some "length" => .ok "max_tokens"
  | some "tool_calls" => .ok "tool_use"
  | _ => .error protocolError

def optionalFinishReason (choice : Map) : Except GatewayError (Option String) :=
  match reported choice "finish_reason" with
  | none => .ok none
  | some _ => do
    let reason ← decodeFinishReason choice
    return some reason

/-- A chunk object, or the summary object some upstreams send last. -/
def isFinalSummary (root : Map) : Except GatewayError Bool :=
  match (root.get "object").bind Value.asStr with
  | some "chat.completion.chunk" => .ok false
  | some "chat.completion" => .ok true
  | _ => .error protocolError

def assistantOrAbsent (role : Option Value) : Bool :=
  match role with
  | none | some .null => true
  | some (.string role) => role = "assistant"
  | some _ => false

/-- The text of a fragment; an empty or redundant one has none. -/
def deltaText (content : Option Value) (suppressRedundantContent : Bool) :
    Except GatewayError (Option String) :=
  match content with
  | none | some .null => .ok none
  | some (.string text) =>
    .ok (if text.isEmpty || suppressRedundantContent then none else some text)
  | some _ => .error protocolError

def deltaCalls (calls : Option Value) : Except GatewayError (List Value) :=
  match calls with
  | none | some .null => .ok []
  | some (.array calls) => .ok calls
  | some _ => .error protocolError

/-- Neither a refusal nor reasoning is passed on. -/
def withoutPrivateText (message : Map) : Bool :=
  (message.get "refusal").all Value.isNull &&
    (message.get "reasoning_content").all fun value => value.isNull || value.asStr = some ""

/-! ### Redundant content -/

/-- The fragment and the message of a summary both repeat the whole text. -/
def StreamLifecycle.isRedundantFinalTextDelta (lifecycle : StreamLifecycle) (delta : Map)
    (message : Value) : Bool :=
  match lifecycle with
  | .streaming s =>
    !s.content.isEmpty && s.tools.isEmpty &&
      (delta.get "content").bind Value.asStr = some s.content &&
      (message.get "content").bind Value.asStr = some s.content
  | .awaitingStart | .finished => false

/-- One call of a redundant message, against the call that was streamed. -/
def validateRedundantCall (index : ℕ) (expected : OpenTool) (call : Value) :
    Except GatewayError Unit := do
  let call ← okOr call.asObject protocolError
  requireOnlyKeys call ["index", "id", "type", "function"]
  ensure (((call.get "index").all fun value => value.asU64.map UInt64.toNat = some index) &&
    (call.get "type").bind Value.asStr = some "function") protocolError
  let id ← nonempty call "id"
  validateIdentifier id
  let function ← objectMember call "function"
  requireOnlyKeys function ["name", "arguments"]
  ensure ((function.get "name").bind Value.asStr = some expected.name &&
    (function.get "arguments").bind Value.asStr = some expected.arguments) protocolError

def validateRedundantCalls : List (ℕ × OpenTool) → List Value → Except GatewayError Unit
  | (index, expected) :: tools, call :: calls => do
    validateRedundantCall index expected call
    validateRedundantCalls tools calls
  | _, _ => .ok ()

def StreamState.hasContent (s : StreamState) (content : Option Value) : Bool :=
  match content with
  | some (.string content) => content = s.content
  | some .null | none => s.content.isEmpty
  | some _ => false

def StreamState.validateToolCalls (s : StreamState) (calls : Option Value) :
    Except GatewayError Unit :=
  match calls with
  | none | some .null => ensure s.tools.isEmpty protocolError
  | some (.array calls) => do
    ensure (calls.length = s.tools.size) protocolError
    validateRedundantCalls s.tools.toList calls
  | some _ => .error protocolError

/-- A message beside the fragments must say what they said. -/
def StreamState.validateRedundantMessage (s : StreamState) (value : Value) :
    Except GatewayError Unit := do
  let message ← okOr value.asObject protocolError
  requireOnlyKeys message ["role", "content", "tool_calls", "refusal", "reasoning_content"]
  ensure ((message.get "role").bind Value.asStr = some "assistant" && withoutPrivateText message)
    protocolError
  ensure (s.hasContent (message.get "content")) protocolError
  s.validateToolCalls (message.get "tool_calls")

/-! ### Frames -/

variable (serde : SerdeJson)

namespace ChatMachine

/-- The methods of the decoder that a frame runs. -/
abbrev Step := Method ChatMachine GatewayError

/-- Queues an event that the canonical lifecycle accepts. -/
def emit (event : CanonicalEvent) : Step Unit := do
  let m ← get
  let state ← liftM ((m.state.apply event).mapError fun _ => protocolError)
  modify fun m => { m with state := state, pending := m.pending ++ [event] }

def streaming : Step StreamState := do
  let m ← get
  match m.lifecycle with
  | .streaming s => pure s
  | .awaitingStart | .finished => throw protocolError

def setLifecycle (lifecycle : StreamLifecycle) : Step Unit :=
  modify fun m => { m with lifecycle := lifecycle }

def setStreaming (s : StreamState) : Step Unit := setLifecycle (.streaming s)

/-- The first chunk starts the response and its only message. -/
def beginStream (id : String) (finalSummary : Bool) : Step Unit := do
  ensure (!finalSummary) protocolError
  let responseId ← okOr (ResponseId.tryNew id) protocolError
  emit (.responseStart { responseId })
  emit (.messageStart { role := ⟨"assistant"⟩ })
  setStreaming { responseId := some id }

/-- A chunk must belong to the response; a summary may carry another identifier. -/
def enterChunk (id : String) (finalSummary : Bool) : Step Unit := do
  let m ← get
  match m.lifecycle with
  | .awaitingStart => beginStream id finalSummary
  | .streaming s => ensure (s.responseId = some id || finalSummary) protocolError
  | .finished => throw protocolError

def emitText (text : Option String) : Step Unit :=
  match text with
  | none => pure ()
  | some text => do
    let s ← streaming
    setStreaming { s with contentSeen := true, content := s.content ++ text }
    emit (.textDelta { text })

/-- Queues the event of an argument fragment; an empty one has no event. -/
def emitFragment (callId delta : String) : Step Unit :=
  if delta.isEmpty then pure () else emit (.toolCallArgumentsDelta { callId, delta })

/-- The first fragment of a call declares it. -/
def openTool (s : StreamState) (index : ℕ) (call : Map) : Step Unit := do
  ensure (s.tools.size < maxToolCalls && (call.get "type").bind Value.asStr = some "function")
    protocolError
  let id ← nonempty call "id"
  let function ← objectMember call "function"
  requireOnlyKeys function ["name", "arguments"]
  let name ← nonempty function "name"
  validateIdentifier id
  validateIdentifier name
  let arguments := ((function.get "arguments").bind Value.asStr).getD ""
  emit (.toolCallStart { callId := id, name })
  emitFragment id arguments
  let s ← streaming
  setStreaming { s with
    tools := s.tools.insert index { id, name, arguments }, contentSeen := true }

/-- A later fragment of a call carries argument text only. -/
def appendTool (s : StreamState) (index : ℕ) (call : Map) : Step Unit := do
  ensure (absentOrEmpty call "id" && absentOrEmpty call "type") protocolError
  let function ← objectMember call "function"
  requireOnlyKeys function ["name", "arguments"]
  ensure (absentOrEmpty function "name") protocolError
  let fragment ← okOr ((function.get "arguments").bind Value.asStr) protocolError
  let tool ← okOr s.tools[index]? protocolError
  setStreaming { s with
    tools := s.tools.insert index { tool with arguments := tool.arguments ++ fragment } }
  ensure ((tool.arguments ++ fragment).utf8ByteSize ≤ maxFrameBytes) protocolError
  emitFragment tool.id fragment

def decodeToolDelta (value : Value) : Step Unit := do
  let call ← okOr value.asObject protocolError
  requireOnlyKeys call ["index", "id", "type", "function"]
  let index ← okOr ((call.get "index").bind Value.asU64) protocolError
  let s ← streaming
  if s.tools.contains index.toNat then appendTool s index.toNat call
  else openTool s index.toNat call

def decodeToolDeltas : List Value → Step Unit
  | [] => pure ()
  | call :: calls => do
    decodeToolDelta call
    decodeToolDeltas calls

def decodeDelta (delta : Map) (suppressRedundantContent : Bool) : Step Unit := do
  requireOnlyKeys delta ["role", "content", "tool_calls", "refusal", "reasoning_content"]
  ensure (withoutPrivateText delta) protocolError
  let _ ← streaming
  ensure (assistantOrAbsent (delta.get "role")) protocolError
  let text ← deltaText (delta.get "content") suppressRedundantContent
  let calls ← deltaCalls (delta.get "tool_calls")
  emitText text
  decodeToolDeltas calls

/-- The fragment of a choice. Only a summary may lack one. -/
def decodeChoiceDelta (choice : Map) (finalSummary : Bool) : Step Unit := do
  let m ← get
  match choice.get "delta" with
  | some delta => do
    let delta ← okOr delta.asObject protocolError
    decodeDelta delta (finalSummary && (choice.get "message").any fun message =>
      m.lifecycle.isRedundantFinalTextDelta delta message)
  | none => ensure finalSummary protocolError

def validateMessage (choice : Map) (finishReason : Option String) : Step Unit :=
  match choice.get "message" with
  | none => pure ()
  | some message => do
    ensure finishReason.isSome protocolError
    let s ← streaming
    liftM (s.validateRedundantMessage message)

/-- Completes the calls in the order of their indices. -/
def endTools : List (ℕ × OpenTool) → Step Unit
  | [] => pure ()
  | (_, tool) :: tools => do
    let arguments ← okOr (serde.fromJsonString tool.arguments) protocolError
    emit (.toolCallEnd { callId := tool.id, arguments })
    endTools tools

def closeMessage (finishReason : String) : Step Unit := do
  let s ← streaming
  ensure (!s.messageClosed && s.contentSeen) protocolError
  setStreaming { s with tools := ∅ }
  endTools serde s.tools.toList
  emit (.messageEnd {})
  let s ← streaming
  setStreaming { s with finishReason := some finishReason, messageClosed := true }

def closeFinished (finishReason : Option String) : Step Unit :=
  match finishReason with
  | none => pure ()
  | some reason => closeMessage serde reason

def emitFinalUsage (value : Value) : Step Unit := do
  let usage ← decodeUsage value
  let s ← streaming
  ensure (s.messageClosed && s.usage ≠ .final) protocolError
  emit (.usageDelta { usage, isFinal := true })
  let s ← streaming
  setStreaming { s with usage := .final }

def emitReportedUsage (usage : Option Value) : Step Unit :=
  match usage with
  | none => pure ()
  | some usage => emitFinalUsage usage

def decodeChoice (root choice : Map) (finalSummary : Bool) : Step Unit := do
  requireOnlyKeys choice ["index", "delta", "finish_reason", "logprobs", "message"]
  ensure ((choice.get "logprobs").all Value.isNull) protocolError
  ensure ((choice.get "index").bind Value.asU64 = some 0) protocolError
  decodeChoiceDelta choice finalSummary
  let finishReason ← optionalFinishReason choice
  validateMessage choice finishReason
  ensure (!finalSummary || (finishReason.isSome && choice.containsKey "message")) protocolError
  closeFinished serde finishReason
  emitReportedUsage (reported root "usage")

/-- A chunk has one choice, or none and a usage. -/
def decodeChoices (root : Map) (finalSummary : Bool) : List Value → Step Unit
  | [] => do
    let usage ← okOr (reported root "usage") protocolError
    emitFinalUsage usage
  | [choice] => do
    let choice ← okOr choice.asObject protocolError
    decodeChoice serde root choice finalSummary
  | _ => throw protocolError

def decodeChunk (value : Value) : Step Unit := do
  let root ← okOr value.asObject protocolError
  requireOnlyKeys root ["id", "object", "created", "model", "choices", "usage",
    "system_fingerprint", "service_tier"]
  let finalSummary ← isFinalSummary root
  let id ← nonempty root "id"
  enterChunk id finalSummary
  let choices ← okOr ((root.get "choices").bind Value.asArray) protocolError
  decodeChoices serde root finalSummary choices

/-- The terminal marker. -/
def complete : Step Unit := do
  let s ← streaming
  ensure s.messageClosed truncatedError
  setStreaming { s with finishReason := none }
  let reason ← okOr s.finishReason protocolError
  emit (.responseEnd { stopReason := some reason })
  setLifecycle .finished

/-- One line of a frame. Blank lines and comments say nothing, and every other line is data. -/
def readLine (data : List String) (line : String) : Except GatewayError (List String) :=
  if line.isEmpty || (stripStart ":" line).isSome then .ok data
  else do
    let value ← okOr (stripStart "data:" line) protocolError
    return data ++ [(stripStart " " value).getD value]

def frameData (frame : String) : Except GatewayError (List String) :=
  (lines frame).foldlM readLine []

/-- The data of a frame. -/
def decodeData (data : String) : Step Unit :=
  if data = "[DONE]" then complete
  else do
    ensure (serde.isDuplicateFree data) protocolError
    let value ← okOr (serde.fromStr data) protocolError
    decodeChunk serde value

def decodeFrame (frame : List UInt8) : Step Unit := do
  let frame ← okOr (fromUtf8 frame) protocolError
  let data ← frameData frame
  if data.isEmpty then pure () else decodeData serde ("\n".intercalate data)

end ChatMachine

/-! ### The decoder -/

/-- Where a text first holds `pattern`. -/
def position (pattern : List UInt8) : List UInt8 → Option ℕ
  | [] => none
  | b :: rest =>
    if pattern.isPrefixOf (b :: rest) then some 0 else (position pattern rest).map (· + 1)

/-- Where the first frame of a buffer ends, and the width of its delimiter. -/
def findFrame (buffer : List UInt8) : Option (ℕ × ℕ) :=
  match position [0x0a, 0x0a] buffer with
  | some stop => some (stop, 2)
  | none => (position [0x0d, 0x0a, 0x0d, 0x0a] buffer).map fun stop => (stop, 4)

theorem position_length {pattern buffer : List UInt8} {n : ℕ}
    (h : position pattern buffer = some n) : n < buffer.length := by
  induction buffer generalizing n with
  | nil => cases h
  | cons b rest ih =>
    rw [position] at h
    split_ifs at h
    · cases h
      simp
    · obtain ⟨k, hk, rfl⟩ := Option.map_eq_some_iff.mp h
      have := ih hk
      simp only [List.length_cons]
      omega

theorem findFrame_length {buffer : List UInt8} {stop width : ℕ}
    (h : findFrame buffer = some (stop, width)) :
    (buffer.drop (stop + width)).length < buffer.length := by
  have hlt : stop < buffer.length ∧ 0 < width := by
    rw [findFrame] at h
    split at h
    · rename_i hpos
      cases h
      exact ⟨position_length hpos, by decide⟩
    · obtain ⟨n, hpos, heq⟩ := Option.map_eq_some_iff.mp h
      cases heq
      exact ⟨position_length hpos, by decide⟩
  rw [List.length_drop]
  omega

namespace OpenAiChatSseDecoder

def new : OpenAiChatSseDecoder := {}

def isFinished (d : OpenAiChatSseDecoder) : Bool := d.machine.lifecycle.isFinished

/-- Decodes the complete frames of the buffer; the result says whether there was one. -/
def drainFrames (d : OpenAiChatSseDecoder) (drained : Bool) :
    Except GatewayError Bool × OpenAiChatSseDecoder :=
  match _h : findFrame d.buffer with
  | none => (.ok drained, d)
  | some (stop, width) =>
    if maxFrameBytes < stop then (.error protocolError, d)
    else
      match (ChatMachine.decodeFrame serde (d.buffer.take stop)).call d.machine with
      | (.error e, machine) => (.error e, ⟨d.buffer.drop (stop + width), machine⟩)
      | (.ok (), machine) => drainFrames ⟨d.buffer.drop (stop + width), machine⟩ true
termination_by d.buffer.length
decreasing_by exact findFrame_length _h

/-- Takes as many bytes as the buffer has room for, decodes, and goes on with the rest. -/
def feed (d : OpenAiChatSseDecoder) (remaining : List UInt8) :
    Except GatewayError Unit × OpenAiChatSseDecoder :=
  if _hr : remaining = [] then (.ok (), d)
  else
    let available := maxFrameBytes + 4 - d.buffer.length
    if _ha : available = 0 then (.error protocolError, d)
    else
      match drainFrames serde { d with buffer := d.buffer ++ remaining.take available } false with
      | (.error e, d') => (.error e, d')
      | (.ok drained, d') =>
        if remaining.drop available ≠ [] && !drained then (.error protocolError, d')
        else feed d' (remaining.drop available)
termination_by remaining.length
decreasing_by
  have := List.length_pos_of_ne_nil _hr
  rw [List.length_drop]
  omega

def takePending : Method OpenAiChatSseDecoder GatewayError (List CanonicalEvent) := do
  let d ← get
  modify fun d => { d with machine.pending := [] }
  return d.machine.pending

/-- Appends a chunk and returns the events of the frames it completes. -/
def push (chunk : List UInt8) : Method OpenAiChatSseDecoder GatewayError (List CanonicalEvent) := do
  let d ← get
  ensure (!d.isFinished) protocolError
  Method.of fun d => feed serde d chunk
  takePending

/-- Ends the body: the response must have ended, and only white space may be left. -/
def finish : Method OpenAiChatSseDecoder GatewayError (List CanonicalEvent) := do
  let d ← get
  ensure (d.buffer.all isAsciiWhitespace) truncatedError
  modify fun d => { d with buffer := [] }
  liftM (d.machine.state.finish.mapError fun _ => truncatedError)
  ensure d.isFinished truncatedError
  takePending

end OpenAiChatSseDecoder

end CpaGateway.Chat.UpstreamResponse
