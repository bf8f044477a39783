import CpaGateway.Core.JsonLaws
import CpaGateway.Core.Request

/-! # The OpenAI Responses request decoder

`decodeRequest` reads one request body into canonical request data. Every field without a canonical
meaning is kept as a raw extension, an ambiguous or unsupported field is a client error. -/

namespace CpaGateway.Responses.Request

open Core.Error Core.Events Core.Json Core.Request Lib.Fallible

/-- A decoded request and the mode that the client asked for. -/
structure DecodedResponsesRequest where
  request : CanonicalRequest
  mode : ResponseMode

/-! ### Reading members -/

/-- A member that has to be a text. -/
def string (value : Value) : Except GatewayError String := okOr value.asStr clientRequestError

/-- A member that has to be an object. -/
def object (value : Value) : Except GatewayError Map := okOr value.asObject clientRequestError

/-- A member that has to be an array. -/
def array (value : Value) : Except GatewayError (List Value) :=
  okOr value.asArray clientRequestError

/-- A member that has to be there. -/
def requiredValue (m : Map) (name : String) : Except GatewayError Value :=
  okOr (m.get name) clientRequestError

/-- A text that has to be there. -/
def requiredString (m : Map) (name : String) : Except GatewayError String := do
  let value ← requiredValue m name
  string value

/-- A text, if the member is there. -/
def optionalString (m : Map) (name : String) : Except GatewayError (Option String) :=
  match m.get name with
  | none => return none
  | some value => do
    let text ← string value
    return some text

section Decoding

variable (serde : SerdeJson)

/-- A value as it would be written again. -/
def rawJson (value : Value) : Except GatewayError RawJson := do
  let serialized ← okOr (serde.write value) internalError
  okOr (serde.fromJsonString serialized) internalError

/-- The members that are not known, under their names after `namespacePrefix`. -/
def extensionsExceptWithPrefix (m : Map) (known : List String) (namespacePrefix : String) :
    Except GatewayError RawExtensions :=
  m.foldlM (fun extensions member =>
    if known.contains member.1 then return extensions
    else do
      let raw ← rawJson serde member.2
      okOr (extensions.tryInsert (namespacePrefix ++ member.1) raw) clientRequestError) {}

/-- The members that are not known, under their own names. -/
def extensionsExcept (m : Map) (known : List String) : Except GatewayError RawExtensions :=
  extensionsExceptWithPrefix serde m known ""

/-- No object of the text has a name twice. -/
def rejectDuplicateJsonNames (input : String) : Except GatewayError Unit :=
  ensure (serde.isDuplicateFree input) clientRequestError

/-- Controls that would change what is executed are refused. -/
def rejectUnimplementedExecutionControls (root : Map) : Except GatewayError Unit := do
  ensure (["background", "store", "conversation", "previous_response_id", "text", "top_logprobs",
    "stream_options"].all fun name => !root.containsKey name) clientRequestError
  ensure ((root.get "tool_choice").all fun choice =>
    choice.asStr = some "auto" || choice.asStr = some "required") clientRequestError
  ensure ((root.get "parallel_tool_calls").all fun parallel => parallel.asBool = some true)
    clientRequestError

/-! ### Messages -/

/-- A message with one text and no raw fields. -/
def textMessage (role text : String) : CanonicalMessage where
  role := ⟨role⟩
  content := [.text { text }]

/-- Instructions are a message of the developer. -/
def decodeInstructions (root : Map) : Except GatewayError (List CanonicalMessage) :=
  match root.get "instructions" with
  | none => return []
  | some value => do
    let instructions ← string value
    return [textMessage "developer" instructions]

/-- A part that is not a text is kept raw. -/
def decodeContentPart (part : Value) : Except GatewayError MessageContent := do
  let fields ← object part
  match (fields.get "type").bind Value.asStr with
  | some "input_text" | some "output_text" =>
    let text ← requiredString fields "text"
    let extensions ← extensionsExcept serde fields ["type", "text"]
    return .text { text, extensions }
  | some _ =>
    let raw ← rawJson serde part
    return .opaqueBlock { raw }
  | none => throw clientRequestError

/-- A text stands for a list of one part. -/
def decodeMessageContent : Value → Except GatewayError (List MessageContent)
  | .string text => return [.text { text }]
  | .array parts => parts.mapM (decodeContentPart serde)
  | _ => throw clientRequestError

/-- A message of one of the four roles. -/
def decodeMessageItem (item : Map) : Except GatewayError CanonicalMessage := do
  let role ← requiredString item "role"
  ensure (["user", "developer", "system", "assistant"].contains role) clientRequestError
  let content ← requiredValue item "content"
  let content ← decodeMessageContent serde content
  let extensions ← extensionsExcept serde item ["type", "role", "content"]
  return { role := ⟨role⟩, content, extensions }

/-- A tool call is a message of the assistant. -/
def decodeFunctionCall (item : Map) : Except GatewayError CanonicalMessage := do
  let id ← requiredString item "call_id"
  let name ← requiredString item "name"
  let arguments ← requiredString item "arguments"
  ensure (!(id.isEmpty || name.isEmpty)) clientRequestError
  -- the arguments are a second JSON document that the reading of the whole body cannot see
  rejectDuplicateJsonNames serde arguments
  let arguments ← okOr (serde.fromJsonString arguments) clientRequestError
  let extensions ← extensionsExcept serde item ["type", "call_id", "name", "arguments"]
  return { role := ⟨"assistant"⟩, content := [.toolCall { id, name, arguments, extensions }] }

/-- Its result is a message of the tool. -/
def decodeFunctionCallOutput (item : Map) : Except GatewayError CanonicalMessage := do
  let callId ← requiredString item "call_id"
  ensure (!callId.isEmpty) clientRequestError
  let value ← requiredValue item "output"
  let output ← rawJson serde value
  ensure (!item.containsKey "status") clientRequestError
  let extensions ← extensionsExcept serde item ["type", "call_id", "output"]
  return {
    role := ⟨"tool"⟩
    content := [.toolResult { callId, output, isError := false, extensions }] }

/-- An item without a type is a message. -/
def decodeInputItem (item : Value) : Except GatewayError CanonicalMessage := do
  let item ← object item
  match (item.get "type").bind Value.asStr with
  | some "function_call" => decodeFunctionCall serde item
  | some "function_call_output" => decodeFunctionCallOutput serde item
  | some "message" | none =>
    if item.containsKey "role" then decodeMessageItem serde item else throw clientRequestError
  | some _ => throw clientRequestError

/-- A text stands for a message of the user. -/
def decodeInput : Value → Except GatewayError (List CanonicalMessage)
  | .string text => return [textMessage "user" text]
  | .array items => items.mapM (decodeInputItem serde)
  | _ => throw clientRequestError

/-! ### Tools and reasoning -/

/-- A tool without parameters takes the empty object. -/
def decodeInputSchema (tool : Map) : Except GatewayError RawJson :=
  match tool.get "parameters" with
  | none => okOr (serde.fromJsonString "\x7b\x7d") internalError
  | some (.object parameters) => rawJson serde (.object parameters)
  | some _ => throw clientRequestError

/-- Only functions are supported. -/
def decodeTool (tool : Value) : Except GatewayError ToolDefinition := do
  let tool ← object tool
  ensure ((tool.get "type").bind Value.asStr = some "function") clientRequestError
  let name ← requiredString tool "name"
  ensure (!name.isEmpty) clientRequestError
  let description ← match tool.get "description" with
    | none | some .null => pure none
    | some value => do
      let text ← string value
      pure (some text)
  let inputSchema ← decodeInputSchema serde tool
  let extensions ← extensionsExcept serde tool ["type", "name", "description", "parameters"]
  return { name, description, inputSchema, extensions }

/-- All tools, or the first error. -/
def decodeTools (value : Value) : Except GatewayError (List ToolDefinition) := do
  let tools ← array value
  tools.mapM (decodeTool serde)

/-- The effort, and the other members raw. -/
def decodeReasoning (value : Value) : Except GatewayError Thinking := do
  let reasoning ← object value
  let effort ← requiredString reasoning "effort"
  let effort ← okOr (ThinkingEffort.tryNew effort) clientRequestError
  let extensions ← extensionsExcept serde reasoning ["effort"]
  return { effort, extensions }

/-! ### The request -/

/-- A stream has to be asked for. -/
def decodeMode (root : Map) : Except GatewayError ResponseMode :=
  match root.get "stream" with
  | some (.bool true) => return .streaming
  | none | some (.bool false) => return .nonStreaming
  | some _ => throw clientRequestError

/-- The instructions come first. -/
def decodeMessages (root : Map) : Except GatewayError (List CanonicalMessage) := do
  let instructions ← decodeInstructions root
  match root.get "input" with
  | none => return instructions
  | some input =>
    let messages ← decodeInput serde input
    return instructions ++ messages

/-- An optional member of the request, decoded by `decode`. -/
def decodeOptional {α : Type} (root : Map) (name : String)
    (decode : Value → Except GatewayError α) : Except GatewayError (Option α) :=
  match root.get name with
  | none => return none
  | some value => do
    let decoded ← decode value
    return some decoded

/-- The request of the members of a body. -/
def decodeRoot (root : Map) : Except GatewayError DecodedResponsesRequest := do
  rejectUnimplementedExecutionControls root
  let requestedModel ← requiredString root "model"
  ensure (!requestedModel.isEmpty) clientRequestError
  let mode ← decodeMode root
  let messages ← decodeMessages serde root
  let tools ← decodeOptional root "tools" (decodeTools serde)
  let tools := tools.getD []
  ensure (!((root.get "tool_choice").bind Value.asStr = some "required" && tools.isEmpty))
    clientRequestError
  let thinking ← decodeOptional root "reasoning" (decodeReasoning serde)
  let promptCacheKey ← optionalString root "prompt_cache_key"
  let promptCacheRetention ← optionalString root "prompt_cache_retention"
  let extensions ← extensionsExceptWithPrefix serde root
    ["model", "stream", "input", "instructions", "tools", "reasoning", "prompt_cache_key",
      "prompt_cache_retention"] "openai.responses."
  return {
    request :=
      { requestedModel, messages, tools, thinking, promptCacheKey, promptCacheRetention,
        extensions }
    mode }

/-- The request of a body. -/
def decodeRequest (input : String) : Except GatewayError DecodedResponsesRequest := do
  rejectDuplicateJsonNames serde input
  let value ← okOr (serde.fromStr input) clientRequestError
  let root ← object value
  decodeRoot serde root

end Decoding

end CpaGateway.Responses.Request
