import CpaGateway.Core.Sse

/-! # The OpenAI Responses encoder

`OpenAiResponsesSseEncoder` writes canonical events as numbered frames. `ResponseState` is the
response object in the making: output items are added on first use and completed at the end of their
call or message. An event that cannot be expressed leaves the encoder as it was. -/

namespace CpaGateway.Responses.Encoder

open Core.Error Core.Events Core.Json Core.Sse Lib.Effect Lib.Fallible

/-- What the gateway adds to every response object. -/
structure OpenAiResponseMetadata where
  model : String
  createdAt : UInt64
  nonempty : model ≠ ""

/-- A model has to be named. -/
def OpenAiResponseMetadata.tryNew (model : String) (createdAt : UInt64) :
    Except GatewayError OpenAiResponseMetadata :=
  if h : model = "" then .error internalError else .ok ⟨model, createdAt, h⟩

/-- A frame before it is written. -/
structure SseFrame where
  event : String
  data : Value
  semantic : Bool

/-- The text of a frame. -/
def SseFrame.toWire (serde : SerdeJson) (frame : SseFrame) : Except GatewayError String := do
  let data ← okOr (serde.write frame.data) internalError
  return "event: " ++ frame.event ++ "\ndata: " ++ data ++ "\n\n"

/-! ### Output items -/

/-- Whether an item is finished. -/
inductive OutputStatus
  | inProgress
  | completed
  deriving DecidableEq

/-- The status as it is written. -/
def OutputStatus.asStr : OutputStatus → String
  | .inProgress => "in_progress"
  | .completed => "completed"

/-- A text of a message. -/
structure OutputTextPart where
  text : String := ""

/-- The part as it is written. -/
def OutputTextPart.toValue (part : OutputTextPart) : Value :=
  .ofMembers
    [("type", .string "output_text"), ("text", .string part.text), ("annotations", .array [])]

/-- An item of the output. -/
inductive OutputItem
  | message (id role : String) (status : OutputStatus) (content : List OutputTextPart)
  | functionCall (id callId name arguments : String) (status : OutputStatus)
  | reasoning (id : String) (status : OutputStatus) (content : List String)

namespace OutputItem

/-- The identifier of an item. -/
def id : OutputItem → String
  | message id .. | functionCall id .. | reasoning id .. => id

/-- The item as it is written. -/
def toValue : OutputItem → Value
  | message id role status content =>
    .ofMembers [("id", .string id), ("type", .string "message"), ("status", .string status.asStr),
      ("role", .string role), ("content", .array (content.map OutputTextPart.toValue))]
  | functionCall id callId name arguments status =>
    .ofMembers [("id", .string id), ("type", .string "function_call"),
      ("status", .string status.asStr), ("call_id", .string callId), ("name", .string name),
      ("arguments", .string arguments)]
  | reasoning id status content =>
    .ofMembers [("id", .string id), ("type", .string "reasoning"), ("status", .string status.asStr),
      ("content", .array (content.map fun text =>
        .ofMembers [("type", .string "reasoning_text"), ("text", .string text)]))]

/-- The message with one more part, and the index of the part. -/
def addPart : OutputItem → Option (OutputItem × ℕ)
  | message id role status content =>
    some (message id role status (content ++ [{}]), content.length)
  | _ => none

/-- A part of a message grows. -/
def appendText (contentIndex : ℕ) (delta : String) : OutputItem → Option OutputItem
  | message id role status content =>
    content[contentIndex]?.map fun part =>
      message id role status (content.set contentIndex ⟨part.text ++ delta⟩)
  | _ => none

/-- The first text of a reasoning item grows. -/
def appendReasoning (delta : String) : OutputItem → Option OutputItem
  | reasoning id status (text :: content) => some (reasoning id status ((text ++ delta) :: content))
  | _ => none

/-- The arguments of a call grow. -/
def appendArguments (delta : String) : OutputItem → Option OutputItem
  | functionCall id callId name arguments status =>
    some (functionCall id callId name (arguments ++ delta) status)
  | _ => none

/-- The completed call and its name. Arguments that were sent in fragments must be the fragments. -/
def completeCall (sawArgumentsDelta : Bool) (arguments : String) :
    OutputItem → Except GatewayError (OutputItem × String)
  | functionCall id callId name accumulated _ =>
    if sawArgumentsDelta && accumulated ≠ arguments then .error streamProtocolError
    else .ok (functionCall id callId name arguments .completed, name)
  | _ => .error internalError

/-- The text of a part. -/
def partText (contentIndex : ℕ) : OutputItem → Option String
  | message _ _ _ content => content[contentIndex]?.map (·.text)
  | _ => none

/-- A message is finished. -/
def completeMessage : OutputItem → Option OutputItem
  | message id role _ content => some (message id role .completed content)
  | _ => none

/-- A reasoning item is finished, with this text. -/
def completeReasoning : OutputItem → Option (OutputItem × String)
  | reasoning id _ content => content.head?.map fun text => (reasoning id .completed content, text)
  | _ => none

end OutputItem

/-! ### The response in the making -/

/-- The open message, and where its items are. -/
structure MessageState where
  role : String
  outputIndex : Option ℕ := none
  itemId : Option String := none
  textContentIndex : Option ℕ := none
  reasoningOutputIndex : Option ℕ := none

/-- An open call, and where its item is. -/
structure ToolState where
  outputIndex : ℕ
  itemId : String
  sawArgumentsDelta : Bool := false

/-- The items so far, and what is open. -/
structure ResponseState where
  responseId : String
  output : List OutputItem := []
  usage : Option Value := none
  message : Option MessageState := none
  tools : Std.TreeMap String ToolState := ∅

/-- Where a text went, and what it added. -/
structure TextAppended where
  outputIndex : ℕ
  itemId : String
  contentIndex : ℕ
  itemAdded : Bool
  partAdded : Bool
  item : Option Value

/-- The same for a reasoning text. -/
structure ReasoningAppended where
  outputIndex : ℕ
  itemId : String
  itemAdded : Bool
  item : Option Value

/-- A call that has ended. -/
structure ToolCompleted where
  outputIndex : ℕ
  itemId : String
  name : String
  item : Value

/-- The whole text of a part. -/
structure CompletedText where
  contentIndex : ℕ
  text : String

/-- A message item that has ended. -/
structure CompletedMessage where
  outputIndex : ℕ
  itemId : String
  item : Value
  text : Option CompletedText

/-- A reasoning item that has ended. -/
structure CompletedReasoning where
  outputIndex : ℕ
  itemId : String
  text : String
  item : Value

/-- The items that end with a message. -/
structure MessageCompleted where
  message : Option CompletedMessage
  reasoning : Option CompletedReasoning

/-- A count that is known. -/
def optionalNumber (name : String) (count : Option UInt64) : List (String × Value) :=
  match count with
  | some count => [(name, .ofU64 count)]
  | none => []

/-- The sum of both counts, if both are known. -/
def totalTokens (usage : Usage) : Except GatewayError (Option UInt64) :=
  match usage.inputTokens, usage.outputTokens with
  | some input, some output => do
    let total ← okOr (checkedAdd input output) streamProtocolError
    return some total
  | _, _ => .ok none

/-- A count of its own object. -/
def details (name counter : String) (count : Option UInt64) : List (String × Value) :=
  match count with
  | some count => [(name, .ofMembers [(counter, .ofU64 count)])]
  | none => []

/-- The usage as it is written. -/
def usageValue (usage : Usage) : Except GatewayError Value := do
  let total ← totalTokens usage
  return .ofMembers <|
    optionalNumber "input_tokens" usage.inputTokens ++
    optionalNumber "output_tokens" usage.outputTokens ++
    optionalNumber "total_tokens" total ++
    details "input_tokens_details" "cached_tokens" usage.cachedTokens ++
    details "output_tokens_details" "reasoning_tokens" usage.reasoningTokens

namespace ResponseState

/-- The members of the response object. -/
def responseMembers (s : ResponseState) (metadata : OpenAiResponseMetadata) (status : String)
    (incompleteReason : Option String) : List (String × Value) :=
  [("id", .string s.responseId), ("object", .string "response"),
    ("created_at", .ofU64 metadata.createdAt), ("status", .string status),
    ("model", .string metadata.model), ("error", .null),
    ("incomplete_details", match incompleteReason with
      | some reason => .ofMembers [("reason", .string reason)]
      | none => .null),
    ("output", .array (s.output.map OutputItem.toValue)), ("usage", s.usage.getD .null)]

/-- The response object. -/
def responseValue (s : ResponseState) (metadata : OpenAiResponseMetadata) (status : String)
    (incompleteReason : Option String) : Value :=
  .ofMembers (s.responseMembers metadata status incompleteReason)

/-- The response object of a failure; its error comes last and wins. -/
def failedValue (s : ResponseState) (metadata : OpenAiResponseMetadata) (error : GatewayError) :
    Value :=
  .ofMembers (s.responseMembers metadata "failed" none ++
    [("error", .ofMembers [("code", .string error.code.asStr),
      ("message", .string error.safeMessage)])])

/-- A change of the response. -/
abbrev Update := Method ResponseState GatewayError

/-- The open message. -/
def messageMut (e : GatewayError) : Update MessageState := do
  let s ← get
  okOr s.message e

/-- Replaces the open message. -/
def setMessage (message : MessageState) : Update Unit :=
  modify fun s => { s with message := some message }

/-- Replaces an item. -/
def setItem (index : ℕ) (item : OutputItem) : Update Unit :=
  modify fun s => { s with output := s.output.set index item }

/-- Reads an item that has to be there. -/
def readItem {β : Type} (index : ℕ) (f : OutputItem → Option β) : Update β := do
  let s ← get
  okOr (s.output[index]?.bind f) internalError

/-- The open message, if the assistant has it. -/
def assistantMessage : Update MessageState := do
  let message ← messageMut streamProtocolError
  ensure (message.role = "assistant") streamProtocolError
  return message

/-- An item as it is written now. -/
def outputItemValue (index : ℕ) : Update Value := readItem index fun item => some item.toValue

/-- The item, if it was just added. -/
def addedItem (added : Bool) (index : ℕ) : Update (Option Value) :=
  if added then do
    let value ← outputItemValue index
    return some value
  else pure none

/-- One message at a time. -/
def beginMessage (role : String) : Update Unit := do
  let s ← get
  ensure s.message.isNone streamProtocolError
  setMessage { role }

/-- The identifier of an item that is added now. -/
def nextItemId (s : ResponseState) (kind : String) : String :=
  kind ++ "_" ++ s.responseId ++ "_" ++ toString s.output.length

/-- Adds an item behind the others. -/
def pushItem (item : OutputItem) : Update Unit :=
  modify fun s => { s with output := s.output ++ [item] }

/-- The output item of the message, which is added with its first text. -/
def messageItem (message : MessageState) : Update (ℕ × String × Bool) :=
  match message.outputIndex, message.itemId with
  | some outputIndex, some itemId => pure (outputIndex, itemId, false)
  | none, none => do
    let s ← get
    let itemId := s.nextItemId "msg"
    pushItem (.message itemId message.role .inProgress [])
    let message ← messageMut internalError
    setMessage { message with outputIndex := some s.output.length, itemId := some itemId }
    return (s.output.length, itemId, true)
  | _, _ => throw internalError

/-- The text part of the message, which is added with its first text. -/
def textPart (message : MessageState) (outputIndex : ℕ) : Update (ℕ × Bool) :=
  match message.textContentIndex with
  | some contentIndex => pure (contentIndex, false)
  | none => do
    let (item, contentIndex) ← readItem outputIndex OutputItem.addPart
    setItem outputIndex item
    let message ← messageMut internalError
    setMessage { message with textContentIndex := some contentIndex }
    return (contentIndex, true)

/-- The item is shown as it was before the text. -/
def appendText (delta : String) : Update TextAppended := do
  let message ← assistantMessage
  let (outputIndex, itemId, itemAdded) ← messageItem message
  let (contentIndex, partAdded) ← textPart message outputIndex
  let item ← addedItem itemAdded outputIndex
  let updated ← readItem outputIndex (OutputItem.appendText contentIndex delta)
  setItem outputIndex updated
  return { outputIndex, itemId, contentIndex, itemAdded, partAdded, item }

/-- The reasoning item of the message, which is added with its first text. -/
def reasoningItem (message : MessageState) : Update (ℕ × String × Bool) :=
  match message.reasoningOutputIndex with
  | some outputIndex => do
    let itemId ← readItem outputIndex fun item => some item.id
    return (outputIndex, itemId, false)
  | none => do
    let s ← get
    let itemId := s.nextItemId "rsn"
    pushItem (.reasoning itemId .inProgress [""])
    let message ← messageMut internalError
    setMessage { message with reasoningOutputIndex := some s.output.length }
    return (s.output.length, itemId, true)

/-- The same for a reasoning text. -/
def appendReasoning (delta : String) : Update ReasoningAppended := do
  let message ← assistantMessage
  let (outputIndex, itemId, itemAdded) ← reasoningItem message
  let item ← addedItem itemAdded outputIndex
  let updated ← readItem outputIndex (OutputItem.appendReasoning delta)
  setItem outputIndex updated
  return { outputIndex, itemId, itemAdded, item }

/-- A call gets its item at once. -/
def beginTool (callId name : String) : Update (ℕ × Value) := do
  let _ ← assistantMessage
  let s ← get
  ensure (!s.tools.contains callId) streamProtocolError
  let outputIndex := s.output.length
  let itemId := s.nextItemId "fc"
  pushItem (.functionCall itemId callId name "" .inProgress)
  modify fun s => { s with tools := s.tools.insert callId { outputIndex, itemId } }
  let item ← outputItemValue outputIndex
  return (outputIndex, item)

/-- A fragment of an open call. -/
def appendToolArguments (callId delta : String) : Update ToolState := do
  let s ← get
  let tool ← okOr s.tools[callId]? streamProtocolError
  modify fun s => { s with tools := s.tools.insert callId { tool with sawArgumentsDelta := true } }
  let item ← readItem tool.outputIndex (OutputItem.appendArguments delta)
  setItem tool.outputIndex item
  return { tool with sawArgumentsDelta := true }

/-- The call ends, with these arguments. -/
def finishTool (callId arguments : String) : Update ToolCompleted := do
  let s ← get
  let tool ← okOr s.tools[callId]? streamProtocolError
  modify fun s => { s with tools := s.tools.erase callId }
  let item ← readItem tool.outputIndex some
  let (completed, name) ← item.completeCall tool.sawArgumentsDelta arguments
  setItem tool.outputIndex completed
  let value ← outputItemValue tool.outputIndex
  return { outputIndex := tool.outputIndex, itemId := tool.itemId, name, item := value }

/-- The last usage counts. -/
def recordUsage (usage : Usage) : Update Unit := do
  let value ← usageValue usage
  modify fun s => { s with usage := some value }

/-- The text of the message that ends, if it had any. -/
def completedText (message : MessageState) (outputIndex : ℕ) : Update (Option CompletedText) :=
  match message.textContentIndex with
  | none => pure none
  | some contentIndex => do
    let text ← readItem outputIndex (OutputItem.partText contentIndex)
    return some { contentIndex, text }

/-- Completes the message item of the message that ends. -/
def completedMessage (message : MessageState) : Update (Option CompletedMessage) :=
  match message.outputIndex, message.itemId with
  | some outputIndex, some itemId => do
    let text ← completedText message outputIndex
    let completed ← readItem outputIndex OutputItem.completeMessage
    setItem outputIndex completed
    let item ← outputItemValue outputIndex
    return some { outputIndex, itemId, item, text }
  | none, none => pure none
  | _, _ => throw internalError

/-- Completes the reasoning item of the message that ends. -/
def completedReasoning (message : MessageState) : Update (Option CompletedReasoning) :=
  match message.reasoningOutputIndex with
  | none => pure none
  | some outputIndex => do
    let (completed, text) ← readItem outputIndex OutputItem.completeReasoning
    setItem outputIndex completed
    let item ← outputItemValue outputIndex
    return some { outputIndex, itemId := completed.id, text, item }

/-- The message is closed, with both of its items. -/
def finishMessage : Update MessageCompleted := do
  let message ← messageMut streamProtocolError
  modify fun s => { s with message := none }
  let completed ← completedMessage message
  let reasoning ← completedReasoning message
  return { message := completed, reasoning }

end ResponseState

/-! ### Frames -/

/-- How a response ends. -/
structure ResponsesTerminal where
  event : String
  status : String
  incompleteReason : Option String

/-- The stop reasons that can be expressed. -/
def ResponsesTerminal.tryFromEnd (e : ResponseEnd) : Except GatewayError ResponsesTerminal :=
  if e.stopSequence.isSome then .error streamProtocolError
  else
    match e.stopReason with
    | none | some "end_turn" | some "stop" | some "tool_use" | some "tool_calls" =>
      .ok ⟨"response.completed", "completed", none⟩
    | some "max_tokens" | some "length" =>
      .ok ⟨"response.incomplete", "incomplete", some "max_output_tokens"⟩
    | some "refusal" | some "content_filter" =>
      .ok ⟨"response.incomplete", "incomplete", some "content_filter"⟩
    | some _ => .error streamProtocolError

/-- The encoder: the response, and the next number. -/
structure OpenAiResponsesSseEncoder where
  metadata : OpenAiResponseMetadata
  lifecycle : CanonicalEventState := {}
  response : Option ResponseState := none
  nextSequenceNumber : UInt64 := 1
  terminal : Option ResponsesTerminal := none

/-- The event has a form in the Responses vocabulary. -/
def representable (event : CanonicalEvent) : Bool :=
  event.extensionsEmpty &&
    match event with
    | .usageDelta delta =>
      delta.usage.cacheReadTokens.isNone && delta.usage.cacheCreationTokens.isNone
    | _ => true

namespace OpenAiResponsesSseEncoder

/-- A call on the encoder. -/
abbrev Encode := Method OpenAiResponsesSseEncoder GatewayError

/-- An encoder without a response. -/
def new (metadata : OpenAiResponseMetadata) : OpenAiResponsesSseEncoder := { metadata }

/-- A numbered frame. -/
def frame (event : String) (data : List (String × Value)) : Encode SseFrame := do
  let encoder ← get
  let next ← okOr (checkedAdd encoder.nextSequenceNumber 1) internalError
  modify fun encoder => { encoder with nextSequenceNumber := next }
  return {
    event
    data := .ofMembers (data ++ [("type", .string event),
      ("sequence_number", .ofU64 encoder.nextSequenceNumber)])
    semantic := true }

/-- The event and the members of a frame that has no number yet. -/
abbrev FrameData := String × List (String × Value)

/-- The numbered frames of a list, in turn. -/
def framesOf : List FrameData → Encode (List SseFrame)
  | [] => pure []
  | (event, data) :: rest => do
    let first ← frame event data
    let rest ← framesOf rest
    return first :: rest

/-- A frame with the response object. -/
def responseFrame (event : String) (response : Value) : FrameData :=
  (event, [("response", response)])

section Frames

variable (outputIndex : ℕ) (itemId : String) (contentIndex : ℕ)

/-- The place of an item, and the item. -/
def indexedItemData (item : Value) : List (String × Value) :=
  [("output_index", .ofIndex outputIndex), ("item", item)]

/-- An item begins. -/
def outputItemAddedFrame (item : Value) : FrameData :=
  ("response.output_item.added", indexedItemData outputIndex item)

/-- An item ends. -/
def outputItemDoneFrame (item : Value) : FrameData :=
  ("response.output_item.done", indexedItemData outputIndex item)

/-- The place of a part. -/
def contentData : List (String × Value) :=
  [("output_index", .ofIndex outputIndex), ("item_id", .string itemId),
    ("content_index", .ofIndex contentIndex)]

/-- A part begins, without text. -/
def contentPartAddedFrame : FrameData :=
  ("response.content_part.added", contentData outputIndex itemId contentIndex ++
    [("part", OutputTextPart.toValue {})])

/-- A part ends. -/
def contentPartDoneFrame (text : String) : FrameData :=
  ("response.content_part.done", contentData outputIndex itemId contentIndex ++
    [("part", OutputTextPart.toValue ⟨text⟩)])

/-- A text goes on. -/
def textDeltaFrame (delta : String) : FrameData :=
  ("response.output_text.delta", contentData outputIndex itemId contentIndex ++
    [("delta", .string delta), ("logprobs", .array [])])

/-- A text ends. -/
def textDoneFrame (text : String) : FrameData :=
  ("response.output_text.done", contentData outputIndex itemId contentIndex ++
    [("text", .string text), ("logprobs", .array [])])

/-- The place of a reasoning text. -/
def reasoningData : List (String × Value) :=
  contentData outputIndex itemId 0

/-- A reasoning text goes on. -/
def reasoningDeltaFrame (delta : String) : FrameData :=
  ("response.reasoning_text.delta", reasoningData outputIndex itemId ++ [("delta", .string delta)])

/-- A reasoning text ends. -/
def reasoningDoneFrame (text : String) : FrameData :=
  ("response.reasoning_text.done", reasoningData outputIndex itemId ++ [("text", .string text)])

/-- The place of a call. -/
def functionData : List (String × Value) :=
  [("output_index", .ofIndex outputIndex), ("item_id", .string itemId)]

/-- Arguments go on. -/
def functionArgumentsDeltaFrame (delta : String) : FrameData :=
  ("response.function_call_arguments.delta", functionData outputIndex itemId ++
    [("delta", .string delta)])

/-- Arguments end. -/
def functionArgumentsDoneFrame (name arguments : String) : FrameData :=
  ("response.function_call_arguments.done", functionData outputIndex itemId ++
    [("arguments", .string arguments), ("name", .string name)])

end Frames

/-- The frames that end a message item. -/
def messageDoneFrames (completed : Option CompletedMessage) : List FrameData :=
  match completed with
  | none => []
  | some message =>
    (match message.text with
      | none => []
      | some text =>
        [textDoneFrame message.outputIndex message.itemId text.contentIndex text.text,
          contentPartDoneFrame message.outputIndex message.itemId text.contentIndex text.text]) ++
      [outputItemDoneFrame message.outputIndex message.item]

/-- The frames that end a reasoning item. -/
def reasoningDoneFrames (completed : Option CompletedReasoning) : List FrameData :=
  match completed with
  | none => []
  | some reasoning =>
    [reasoningDoneFrame reasoning.outputIndex reasoning.itemId reasoning.text,
      outputItemDoneFrame reasoning.outputIndex reasoning.item]

/-! ### Events -/

/-- A method of the response that was started. -/
def onResponse {α : Type} (update : ResponseState.Update α) : Encode α := do
  let encoder ← get
  let response ← okOr encoder.response streamProtocolError
  modify fun encoder => { encoder with response := some (update.call response).2 }
  liftM (update.call response).1

/-- The frame of an item that was added. -/
def addedFrames (added : Bool) (outputIndex : ℕ) (item : Option Value) : Encode (List SseFrame) :=
  if added then do
    let item ← okOr item internalError
    framesOf [outputItemAddedFrame outputIndex item]
  else pure []

/-- Two frames begin the response. -/
def encodeResponseStart (responseId : String) : Encode (List SseFrame) := do
  let encoder ← get
  ensure encoder.response.isNone streamProtocolError
  let response : ResponseState := { responseId }
  let payload := response.responseValue encoder.metadata "in_progress" none
  modify fun encoder => { encoder with response := some response }
  framesOf [responseFrame "response.created" payload, responseFrame "response.in_progress" payload]

/-- Output messages are always assistant messages. -/
def encodeMessageStart (role : String) : Encode (List SseFrame) := do
  ensure (role = "assistant") streamProtocolError
  onResponse (ResponseState.beginMessage role)
  return []

/-- A text, after what it added. -/
def encodeTextDelta (delta : String) : Encode (List SseFrame) := do
  let appended ← onResponse (ResponseState.appendText delta)
  let added ← addedFrames appended.itemAdded appended.outputIndex appended.item
  let part ← framesOf <| if appended.partAdded then
    [contentPartAddedFrame appended.outputIndex appended.itemId appended.contentIndex] else []
  let text ← framesOf
    [textDeltaFrame appended.outputIndex appended.itemId appended.contentIndex delta]
  return added ++ part ++ text

/-- The same for a reasoning text. -/
def encodeReasoningDelta (delta : String) : Encode (List SseFrame) := do
  let appended ← onResponse (ResponseState.appendReasoning delta)
  let added ← addedFrames appended.itemAdded appended.outputIndex appended.item
  let text ← framesOf [reasoningDeltaFrame appended.outputIndex appended.itemId delta]
  return added ++ text

/-- A call begins. -/
def encodeToolStart (callId name : String) : Encode (List SseFrame) := do
  let (outputIndex, item) ← onResponse (ResponseState.beginTool callId name)
  framesOf [outputItemAddedFrame outputIndex item]

/-- A fragment of its arguments. -/
def encodeToolArgumentsDelta (callId delta : String) : Encode (List SseFrame) := do
  let appended ← onResponse (ResponseState.appendToolArguments callId delta)
  framesOf [functionArgumentsDeltaFrame appended.outputIndex appended.itemId delta]

/-- Its arguments and its item end. -/
def encodeToolEnd (callId arguments : String) : Encode (List SseFrame) := do
  let completed ← onResponse (ResponseState.finishTool callId arguments)
  framesOf [functionArgumentsDoneFrame completed.outputIndex completed.itemId completed.name
    arguments, outputItemDoneFrame completed.outputIndex completed.item]

/-- A usage writes nothing. -/
def encodeUsage (usage : Usage) : Encode (List SseFrame) := do
  onResponse (ResponseState.recordUsage usage)
  return []

/-- The reasoning ends before the message. -/
def encodeMessageEnd : Encode (List SseFrame) := do
  let completed ← onResponse ResponseState.finishMessage
  framesOf (reasoningDoneFrames completed.reasoning ++ messageDoneFrames completed.message)

/-- The response ends. -/
def encodeResponseEnd (e : ResponseEnd) : Encode (List SseFrame) := do
  let terminal ← ResponsesTerminal.tryFromEnd e
  let encoder ← get
  let response ← okOr encoder.response streamProtocolError
  modify fun encoder => { encoder with terminal := some terminal }
  framesOf [responseFrame terminal.event
    (response.responseValue encoder.metadata terminal.status terminal.incompleteReason)]

/-- The response fails. -/
def encodeStreamError (error : GatewayError) : Encode (List SseFrame) := do
  let encoder ← get
  let response ← okOr encoder.response streamProtocolError
  framesOf [responseFrame "response.failed" (response.failedValue encoder.metadata error)]

/-- An event that the lifecycle accepts. -/
def encodeValidEvent : CanonicalEvent → Encode (List SseFrame)
  | .responseStart start => encodeResponseStart start.responseId.asStr
  | .messageStart start => encodeMessageStart start.role.value
  | .textDelta delta => encodeTextDelta delta.text
  | .reasoningDelta delta => encodeReasoningDelta delta.text
  | .toolCallStart start => encodeToolStart start.callId start.name
  | .toolCallArgumentsDelta delta => encodeToolArgumentsDelta delta.callId delta.delta
  | .toolCallEnd e => encodeToolEnd e.callId e.arguments.get
  | .usageDelta delta => encodeUsage delta.usage
  | .messageEnd _ => encodeMessageEnd
  | .responseEnd e => encodeResponseEnd e
  | .streamError e => encodeStreamError e.error

/-- One event. A failure leaves the encoder as it was. -/
def encodeEvent (event : CanonicalEvent) : Encode (List SseFrame) := do
  ensure (representable event) streamProtocolError
  let encoder ← get
  let lifecycle ← encoder.lifecycle.apply event
  let frames ← (encodeValidEvent event).orRestore fun before after => { after with
    response := before.response
    nextSequenceNumber := before.nextSequenceNumber
    terminal := before.terminal }
  modify fun encoder => { encoder with lifecycle := lifecycle }
  return frames

/-- The response object of a response that ended. -/
def intoCompletedResponse (encoder : OpenAiResponsesSseEncoder) : Except GatewayError Value := do
  ensure encoder.lifecycle.isSuccess streamTruncatedError
  let response ← okOr encoder.response internalError
  let terminal ← okOr encoder.terminal internalError
  return response.responseValue encoder.metadata terminal.status terminal.incompleteReason

end OpenAiResponsesSseEncoder

/-- The response object of a finite response. -/
def encodeResponse (response : CanonicalResponse) (metadata : OpenAiResponseMetadata) :
    Except GatewayError Value := do
  let (result, encoder) :=
    (Method.collect OpenAiResponsesSseEncoder.encodeEvent response.events).call (.new metadata)
  let _ ← result
  encoder.intoCompletedResponse

end CpaGateway.Responses.Encoder
