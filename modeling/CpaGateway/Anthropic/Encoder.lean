import CpaGateway.Core.Sse

/-! # The Anthropic Messages encoder

`AnthropicMessagesSseEncoder` writes canonical events as frames in which no two content blocks
overlap. `Assembly` keeps the blocks in canonical order with the fragments that were not written
yet, and `flushSerializedBlocks` writes as far as the blocks are closed. -/

namespace CpaGateway.Anthropic.Encoder

open Core.Error Core.Events Core.Json Core.Sse Lib.Effect Lib.Fallible

/-- What the gateway adds to the message object. -/
structure AnthropicResponseMetadata where
  model : String
  nonempty : model ≠ ""

def AnthropicResponseMetadata.tryNew (model : String) :
    Except GatewayError AnthropicResponseMetadata :=
  if h : model = "" then .error internalError else .ok ⟨model, h⟩

structure SseFrame where
  event : String
  data : Value
  semantic : Bool

def SseFrame.toWire (serde : SerdeJson) (frame : SseFrame) : Except GatewayError String := do
  let data ← okOr (serde.write frame.data) internalError
  return "event: " ++ frame.event ++ "\ndata: " ++ data ++ "\n\n"

def frame (event : String) (data : Value) : SseFrame := ⟨event, data, true⟩

def anthropicErrorType (error : GatewayError) : String :=
  match error.code with
  | .clientRequestError | .tokenCountUnsupported => "invalid_request_error"
  | .clientUnauthorized | .credentialUnauthorized | .credentialForbidden => "authentication_error"
  | .routeNotFound => "not_found_error"
  | .providerRateLimited | .credentialQuotaExceeded => "rate_limit_error"
  | .providerPermanent => "api_error"
  | .credentialUnavailable | .egressRejected | .egressUnavailable | .providerTransient
  | .upstreamProtocolError | .streamTruncated | .internalError | .cancelled => "overloaded_error"

def encodeError (error : GatewayError) : Value :=
  .ofMembers [("type", .string "error"), ("error", .ofMembers
    [("type", .string (anthropicErrorType error)), ("message", .string error.safeMessage)])]

/-! ### The state -/

inductive ContentKind
  | text
  | thinking
  deriving DecidableEq

/-- The name of the kind and of the member that holds its text. -/
def ContentKind.asStr : ContentKind → String
  | .text => "text"
  | .thinking => "thinking"

/-- A text or thinking block: the whole text, its fragments, and how many of them were written. -/
structure ContentState where
  value : String := ""
  deltas : List String := []
  emittedDeltas : ℕ := 0
  closed : Bool := false

inductive ContentBlock
  | content (kind : ContentKind) (s : ContentState)
  | tool (callId name : String) (input : Option Value)

def ContentBlock.kind? : ContentBlock → Option ContentKind
  | .content kind _ => some kind
  | .tool .. => none

def ContentBlock.completedValue : ContentBlock → Except GatewayError Value
  | .content kind s =>
    .ok (.ofMembers [("type", .string kind.asStr), (kind.asStr, .string s.value)])
  | .tool callId name (some input) =>
    .ok (.ofMembers [("type", .string "tool_use"), ("id", .string callId), ("name", .string name),
      ("input", input)])
  | .tool _ _ none => .error streamProtocolError

structure ToolState where
  contentIndex : ℕ
  partialJson : String := ""
  argumentDeltas : List String := []
  emittedDeltas : ℕ := 0
  sawArgumentsDelta : Bool := false
  completed : Bool := false

inductive MessagePhase
  | notStarted
  | started
  | content
  | ended
  deriving DecidableEq

inductive TerminalPhase
  | opened
  | completed
  | failed
  deriving DecidableEq

/-- The message in the making. `nextSseIndex` is the first block that was not written to its end,
and `activeSseIndex` says whether its start was written. -/
structure Assembly where
  responseId : Option String := none
  message : MessagePhase := .notStarted
  content : List ContentBlock := []
  activeContentIndex : Option ℕ := none
  nextSseIndex : ℕ := 0
  activeSseIndex : Option ℕ := none
  tools : Std.TreeMap String ToolState := ∅
  usage : Option Usage := none
  deferredInputUsage : Bool := false
  stopReason : Option String := none
  stopSequence : Option String := none
  terminal : TerminalPhase := .opened

/-- The encoder of one response. -/
structure AnthropicMessagesSseEncoder where
  metadata : AnthropicResponseMetadata
  lifecycle : CanonicalEventState := {}
  assembly : Assembly := {}

/-! ### Usage and arguments -/

/-- An update of a usage: what it reports replaces what was known. -/
def mergeUsage (previous : Option Usage) (update : Usage) : Usage :=
  let merged := previous.getD {}
  { inputTokens := update.inputTokens <|> merged.inputTokens
    outputTokens := update.outputTokens <|> merged.outputTokens
    reasoningTokens := update.reasoningTokens <|> merged.reasoningTokens
    cacheReadTokens := update.cacheReadTokens <|> merged.cacheReadTokens
    cacheCreationTokens := update.cacheCreationTokens <|> merged.cacheCreationTokens
    cachedTokens := update.cachedTokens <|> merged.cachedTokens
    extensions := if update.extensions.isEmpty then merged.extensions else update.extensions }

def optionalNumber (name : String) (count : Option UInt64) : List (String × Value) :=
  match count with
  | some count => [(name, .ofU64 count)]
  | none => []

def anthropicCacheUsage (usage : Usage) : List (String × Value) :=
  optionalNumber "cache_read_input_tokens" usage.cacheReadTokens ++
    optionalNumber "cache_creation_input_tokens" usage.cacheCreationTokens

/-- The usage of `message_start`. A count that is not known yet is left out. -/
def initialUsageValue (usage : Option Usage) : Value :=
  .ofMembers <|
    optionalNumber "input_tokens" (usage.bind (·.inputTokens)) ++ [("output_tokens", .ofU64 0)] ++
    (usage.map anthropicCacheUsage).getD []

/-- Both counts and the cache counts. -/
def completedUsageValue (usage : Usage) : Except GatewayError Value := do
  let inputTokens ← okOr usage.inputTokens streamProtocolError
  let outputTokens ← okOr usage.outputTokens streamProtocolError
  return .ofMembers <|
    [("input_tokens", .ofU64 inputTokens), ("output_tokens", .ofU64 outputTokens)] ++
    anthropicCacheUsage usage

/-- The usage of `message_delta`, with the input counts if `message_start` lacked them. -/
def outputUsageValue (usage : Usage) (deferredInput : Bool) : Except GatewayError Value := do
  let outputTokens ← okOr usage.outputTokens streamProtocolError
  if deferredInput then completedUsageValue usage
  else return .ofMembers [("output_tokens", .ofU64 outputTokens)]

/-- Blank arguments and every empty object are the empty object. -/
def normalizeToolArguments (serde : SerdeJson) (arguments : String) : String :=
  if (trim arguments).isEmpty then "\x7b\x7d"
  else
    match serde.fromStr arguments with
    | some (.object []) => "\x7b\x7d"
    | _ => arguments

/-- The event has a form in the Messages vocabulary. -/
def representable (event : CanonicalEvent) : Bool :=
  event.extensionsEmpty &&
    match event with
    | .usageDelta delta => delta.usage.reasoningTokens.isNone && delta.usage.cachedTokens.isNone
    | .responseEnd e =>
      (e.stopReason.any fun reason => !reason.isEmpty) &&
        e.stopSequence.all fun sequence => !sequence.isEmpty
    | _ => true

/-! ### Writing blocks -/

namespace Assembly

/-- The methods of the message in the making. -/
abbrev Build := Method Assembly GatewayError

def startValue : ContentBlock → Value
  | .content kind _ => .ofMembers [("type", .string kind.asStr), (kind.asStr, .string "")]
  | .tool callId name _ =>
    .ofMembers [("type", .string "tool_use"), ("id", .string callId), ("name", .string name),
      ("input", .ofMembers [])]

section Block

variable (index : ℕ)

def startFrame (block : ContentBlock) : SseFrame :=
  frame "content_block_start" (.ofMembers [("type", .string "content_block_start"),
    ("index", .ofIndex index), ("content_block", startValue block)])

/-- A fragment of the block at `index`; `member` holds it. -/
def deltaFrame (kind member delta : String) : SseFrame :=
  frame "content_block_delta" (.ofMembers [("type", .string "content_block_delta"),
    ("index", .ofIndex index),
    ("delta", .ofMembers [("type", .string kind), (member, .string delta)])])

def contentDeltaFrame (kind : ContentKind) (delta : String) : SseFrame :=
  deltaFrame index (kind.asStr ++ "_delta") kind.asStr delta

def inputDeltaFrame (delta : String) : SseFrame :=
  deltaFrame index "input_json_delta" "partial_json" delta

def stopFrame : SseFrame :=
  frame "content_block_stop" (.ofMembers [("type", .string "content_block_stop"),
    ("index", .ofIndex index)])

def startNextSseBlock : Build SseFrame := do
  let a ← get
  let block ← okOr a.content[a.nextSseIndex]? streamProtocolError
  modify fun a => { a with activeSseIndex := some a.nextSseIndex }
  return startFrame a.nextSseIndex block

/-- Writes the fragments of a text or thinking block; the result says whether it is closed. -/
def flushActiveContentBlock (kind : ContentKind) (s : ContentState) :
    Build (List SseFrame × Bool) := do
  let pending := s.deltas.drop s.emittedDeltas
  modify fun a => { a with
    content := a.content.set index
      (.content kind { s with emittedDeltas := s.emittedDeltas + pending.length }) }
  return (pending.map (contentDeltaFrame index kind), s.closed)

/-- Writes the fragments of a tool block; the result says whether the call is complete. -/
def flushActiveToolBlock (callId : String) (input : Option Value) :
    Build (List SseFrame × Bool) := do
  let a ← get
  let tool ← okOr a.tools[callId]? streamProtocolError
  let pending := tool.argumentDeltas.drop tool.emittedDeltas
  modify fun a => { a with
    tools := a.tools.insert callId
      { tool with emittedDeltas := tool.emittedDeltas + pending.length } }
  ensure (!tool.completed || input.isSome) streamProtocolError
  return (pending.map (inputDeltaFrame index), tool.completed)

def flushActiveBlock : Build (List SseFrame × Bool) := do
  let a ← get
  match a.content[index]? with
  | some (.content kind s) => flushActiveContentBlock index kind s
  | some (.tool callId _ input) => flushActiveToolBlock index callId input
  | none => throw streamProtocolError

def stopActiveSseBlock : Build SseFrame := do
  modify fun a => { a with activeSseIndex := none, nextSseIndex := a.nextSseIndex + 1 }
  return stopFrame index

/-- Writes the active block, and stops it if it is closed; the result says whether to go on. -/
def flushBlock : Build (List SseFrame × Bool) := do
  let (frames, ready) ← flushActiveBlock index
  if ready then do
    let stop ← stopActiveSseBlock index
    return (frames ++ [stop], true)
  else return (frames, false)

end Block

/-- Starts the next block, if there is one. -/
def startBlock : Build (List SseFrame × Bool) := do
  let a ← get
  if a.nextSseIndex = a.content.length then return ([], false)
  else do
    let start ← startNextSseBlock
    return ([start], true)

/-- One round of a flush; the result says whether there is another one. -/
def flushRound : Build (List SseFrame × Bool) := do
  let a ← get
  match a.activeSseIndex with
  | none => startBlock
  | some index => do
    ensure (index = a.nextSseIndex) streamProtocolError
    flushBlock index

/-- What is left to write: two rounds for each block that was not started, one for the active one.
-/
def unwritten (a : Assembly) : ℕ :=
  2 * (a.content.length - a.nextSseIndex) + if a.activeSseIndex.isSome then 0 else 1

/-- Writing the fragments of a block does not move the blocks. -/
structure SamePlace (a a' : Assembly) : Prop where
  length : a'.content.length = a.content.length
  next : a'.nextSseIndex = a.nextSseIndex
  active : a'.activeSseIndex = a.activeSseIndex

theorem flushActiveBlock_place {a a' : Assembly} {index : ℕ} {r : List SseFrame × Bool}
    (h : (flushActiveBlock index).call a = (.ok r, a')) :
    index < a.content.length ∧ SamePlace a a' := by
  simp only [flushActiveBlock, call_ok] at h
  rcases hb : a.content[index]? with _ | ⟨kind, s⟩ | ⟨callId, name, input⟩
  · simp [hb] at h
  · simp only [hb, flushActiveContentBlock, call_ok] at h
    obtain ⟨_, -, rfl⟩ := h
    exact ⟨(List.getElem?_eq_some_iff.mp hb).1, ⟨by simp, rfl, rfl⟩⟩
  · simp only [hb, flushActiveToolBlock, call_ok] at h
    obtain ⟨_, -, _, _, -, -, rfl⟩ := h
    exact ⟨(List.getElem?_eq_some_iff.mp hb).1, ⟨rfl, rfl, rfl⟩⟩

theorem flushRound_lt {a a' : Assembly} {frames : List SseFrame}
    (h : flushRound.call a = (.ok (frames, true), a')) : a'.unwritten < a.unwritten := by
  simp only [flushRound] at h
  rcases hactive : a.activeSseIndex with _ | index
  · simp only [hactive, startBlock, call_ok] at h
    split_ifs at h with hend
    · simp at h
    · simp only [startNextSseBlock, call_ok] at h
      obtain ⟨_, _, ⟨_, -, _, -, rfl⟩, -, rfl⟩ := h
      simp [unwritten, hactive]
  · simp only [hactive, flushBlock, call_ok, decide_eq_true_eq] at h
    obtain ⟨_, rfl, ⟨written, ready⟩, a₁, hflush, h⟩ := h
    obtain ⟨hlt, hplace⟩ := flushActiveBlock_place hflush
    cases ready
    · simp at h
    · obtain ⟨_, _, ⟨_, -, rfl⟩, -, rfl⟩ := h
      simp only [unwritten, hplace.length, hplace.next, hactive, Option.isSome_none,
        Option.isSome_some, Bool.false_eq_true, if_false]
      omega

/-- Writes blocks in their order, each to its end before the next one starts. -/
def flushSerializedBlocks (a : Assembly) : Except GatewayError (List SseFrame) × Assembly :=
  match _h : flushRound.call a with
  | (.error e, a') => (.error e, a')
  | (.ok (frames, false), a') => (.ok frames, a')
  | (.ok (frames, true), a') =>
    match flushSerializedBlocks a' with
    | (.error e, a'') => (.error e, a'')
    | (.ok rest, a'') => (.ok (frames ++ rest), a'')
termination_by a.unwritten
decreasing_by exact flushRound_lt _h

def flush : Build (List SseFrame) := .of flushSerializedBlocks

/-! ### Events -/

/-- A content block may be added or extended. -/
def acceptsContent (a : Assembly) : Bool := a.message = .started || a.message = .content

def messageStartFrame (id : String) (metadata : AnthropicResponseMetadata) (usage : Option Usage) :
    SseFrame :=
  frame "message_start" (.ofMembers [("type", .string "message_start"),
    ("message", .ofMembers [("id", .string id), ("type", .string "message"),
      ("role", .string "assistant"), ("content", .array []), ("model", .string metadata.model),
      ("stop_reason", .null), ("stop_sequence", .null), ("usage", initialUsageValue usage)])])

/-- Starts the one message. An input count that is not known yet is owed to the end. -/
def startMessage (role : String) (metadata : AnthropicResponseMetadata) :
    Build (List SseFrame) := do
  let a ← get
  ensure (role = "assistant" && a.message = .notStarted) streamProtocolError
  let id ← okOr a.responseId streamProtocolError
  modify fun a => { a with
    deferredInputUsage := (a.usage.bind (·.inputTokens)).isNone, message := .started }
  return [messageStartFrame id metadata a.usage]

/-- The block with its end marked; only text and thinking blocks end this way. -/
def closed : ContentBlock → Option ContentBlock
  | .content kind s => some (.content kind { s with closed := true })
  | .tool .. => none

def closeActiveContentBlock : Build Unit := do
  let a ← get
  modify fun a => { a with activeContentIndex := none }
  match a.activeContentIndex with
  | none => pure ()
  | some index => do
    let block ← okOr (a.content[index]?.bind closed) streamProtocolError
    modify fun a => { a with content := a.content.set index block }

def openNewBlock (kind : ContentKind) : Build ℕ := do
  closeActiveContentBlock
  let a ← get
  modify fun a => { a with
    content := a.content ++ [.content kind {}]
    activeContentIndex := some a.content.length
    message := .content }
  return a.content.length

def openContentBlock (kind : ContentKind) : Build ℕ := do
  let a ← get
  match a.activeContentIndex.filter fun index =>
      (a.content[index]?.bind ContentBlock.kind?) = some kind with
  | some index => pure index
  | none => openNewBlock kind

/-- The block with a fragment more. -/
def appended (kind : ContentKind) (value : String) : ContentBlock → Option ContentBlock
  | .content kind' s =>
    if kind' = kind then
      some (.content kind { s with value := s.value ++ value, deltas := s.deltas ++ [value] })
    else none
  | .tool .. => none

def appendContentDelta (value : String) (kind : ContentKind) : Build (List SseFrame) := do
  let a ← get
  ensure a.acceptsContent streamProtocolError
  let index ← openContentBlock kind
  let a ← get
  let block ← okOr (a.content[index]?.bind (appended kind value)) streamProtocolError
  modify fun a => { a with content := a.content.set index block }
  flush

def startTool (callId name : String) : Build (List SseFrame) := do
  let a ← get
  ensure (a.acceptsContent && !a.tools.contains callId) streamProtocolError
  closeActiveContentBlock
  modify fun a => { a with
    content := a.content ++ [.tool callId name none]
    tools := a.tools.insert callId { contentIndex := a.content.length }
    message := .content }
  flush

/-- Takes a fragment that is not empty. -/
def appendFragment (callId delta : String) : Build (List SseFrame) := do
  let a ← get
  let tool ← okOr a.tools[callId]? streamProtocolError
  ensure (!tool.completed) streamProtocolError
  modify fun a => { a with
    tools := a.tools.insert callId { tool with
      sawArgumentsDelta := true
      partialJson := tool.partialJson ++ delta
      argumentDeltas := tool.argumentDeltas ++ [delta] } }
  flush

def appendToolArguments (callId delta : String) : Build (List SseFrame) :=
  if delta.isEmpty then pure [] else appendFragment callId delta

def withInput (callId : String) (input : Value) : ContentBlock → Option ContentBlock
  | .tool mappedCallId name _ =>
    if mappedCallId = callId then some (.tool mappedCallId name (some input)) else none
  | .content .. => none

/-- The call as it is completed. Arguments that came without fragments are one fragment, unless they
are the empty object. -/
def finishedTool (tool : ToolState) (arguments : String) : ToolState :=
  { tool with
    completed := true
    argumentDeltas := if !tool.sawArgumentsDelta && arguments ≠ "\x7b\x7d"
      then tool.argumentDeltas ++ [arguments] else tool.argumentDeltas }

def finishTool (serde : SerdeJson) (callId arguments : String) : Build (List SseFrame) := do
  let a ← get
  let tool ← okOr a.tools[callId]? streamProtocolError
  ensure (!tool.completed) streamProtocolError
  let arguments := normalizeToolArguments serde arguments
  ensure (!tool.sawArgumentsDelta || normalizeToolArguments serde tool.partialJson = arguments)
    streamProtocolError
  let input ← okOr (serde.fromStr arguments) streamProtocolError
  ensure input.isObject streamProtocolError
  let block ← okOr (a.content[tool.contentIndex]?.bind (withInput callId input)) streamProtocolError
  modify fun a => { a with
    content := a.content.set tool.contentIndex block
    tools := a.tools.insert callId (finishedTool tool arguments) }
  flush

def endMessage : Build (List SseFrame) := do
  let a ← get
  ensure (a.message = .content) streamProtocolError
  ensure (a.tools.toList.all fun tool => tool.2.completed) streamProtocolError
  closeActiveContentBlock
  let frames ← flush
  let a ← get
  ensure (a.activeSseIndex.isNone && a.nextSseIndex = a.content.length) streamProtocolError
  modify fun a => { a with message := .ended }
  return frames

def messageDeltaFrame (stopReason : String) (stopSequence : Option String) (usage : Value) :
    SseFrame :=
  frame "message_delta" (.ofMembers [("type", .string "message_delta"),
    ("delta", .ofMembers [("stop_reason", .string stopReason),
      ("stop_sequence", .ofOption stopSequence)]),
    ("usage", usage)])

def messageStopFrame : SseFrame :=
  frame "message_stop" (.ofMembers [("type", .string "message_stop")])

def endResponse (e : ResponseEnd) : Build (List SseFrame) := do
  let a ← get
  ensure (a.message = .ended && a.terminal = .opened) streamProtocolError
  let usage ← okOr a.usage streamProtocolError
  let outputUsage ← outputUsageValue usage a.deferredInputUsage
  let stopReason ← okOr e.stopReason streamProtocolError
  modify fun a => { a with
    stopReason := some stopReason, stopSequence := e.stopSequence, terminal := .completed }
  return [messageDeltaFrame stopReason e.stopSequence outputUsage, messageStopFrame]

def apply (serde : SerdeJson) (metadata : AnthropicResponseMetadata) :
    CanonicalEvent → Build (List SseFrame)
  | .responseStart start => do
    modify fun a => { a with responseId := some start.responseId.asStr }
    return []
  | .usageDelta delta => do
    modify fun a => { a with usage := some (mergeUsage a.usage delta.usage) }
    return []
  | .messageStart start => startMessage start.role.value metadata
  | .textDelta delta => appendContentDelta delta.text .text
  | .reasoningDelta delta => appendContentDelta delta.text .thinking
  | .toolCallStart start => startTool start.callId start.name
  | .toolCallArgumentsDelta delta => appendToolArguments delta.callId delta.delta
  | .toolCallEnd e => finishTool serde e.callId e.arguments.get
  | .messageEnd _ => endMessage
  | .responseEnd e => endResponse e
  | .streamError e => do
    modify fun a => { a with terminal := .failed }
    return [frame "error" (encodeError e.error)]

def completedContent : List ContentBlock → Except GatewayError (List Value)
  | [] => .ok []
  | block :: blocks => do
    let value ← block.completedValue
    let values ← completedContent blocks
    return value :: values

def completedValue (a : Assembly) (metadata : AnthropicResponseMetadata) :
    Except GatewayError Value := do
  let id ← okOr a.responseId streamProtocolError
  let usage ← okOr a.usage streamProtocolError
  let content ← completedContent a.content
  let stopReason ← okOr a.stopReason streamProtocolError
  let usage ← completedUsageValue usage
  return .ofMembers [("id", .string id), ("type", .string "message"), ("role", .string "assistant"),
    ("content", .array content), ("model", .string metadata.model),
    ("stop_reason", .string stopReason), ("stop_sequence", .ofOption a.stopSequence),
    ("usage", usage)]

end Assembly

namespace AnthropicMessagesSseEncoder

abbrev Encode := Method AnthropicMessagesSseEncoder GatewayError

def new (metadata : AnthropicResponseMetadata) : AnthropicMessagesSseEncoder := { metadata }

/-- One event. A failure keeps the lifecycle, but not what the assembly had already taken. -/
def encodeEvent (serde : SerdeJson) (event : CanonicalEvent) : Encode (List SseFrame) := do
  ensure (representable event) streamProtocolError
  let encoder ← get
  let lifecycle ← encoder.lifecycle.apply event
  let frames ← (Assembly.apply serde encoder.metadata event).onPart assembly
    (fun encoder assembly => { encoder with assembly := assembly }) id
  modify fun encoder => { encoder with lifecycle := lifecycle }
  return frames

/-- The message object of a response that ended. -/
def intoCompletedResponse (encoder : AnthropicMessagesSseEncoder) : Except GatewayError Value := do
  ensure (encoder.lifecycle.isSuccess && encoder.assembly.terminal = .completed)
    streamProtocolError
  encoder.assembly.completedValue encoder.metadata

end AnthropicMessagesSseEncoder

/-- The message object of a finite response. -/
def encodeResponse (serde : SerdeJson) (response : CanonicalResponse)
    (metadata : AnthropicResponseMetadata) : Except GatewayError Value := do
  let (result, encoder) :=
    (Method.collect (AnthropicMessagesSseEncoder.encodeEvent serde) response.events).call
      (.new metadata)
  let _ ← result
  encoder.intoCompletedResponse

end CpaGateway.Anthropic.Encoder
