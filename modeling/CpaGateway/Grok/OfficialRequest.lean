import CpaGateway.Core.JsonLaws
import CpaGateway.Core.Request

/-! # The Grok Official request body

`encodeResponsesBody` writes a canonical request as the body of a Responses request. A message that
mixes text and tool calls becomes several items: text is gathered until the next call or result,
which flushes it as an item of its own. Everything without a place in the body is refused. -/

namespace CpaGateway.Grok.OfficialRequest

open Core.Error Core.Events Core.Json Core.Request Lib.Fallible

def maxModelBytes : ℕ := 512

def maxToolArgumentBytes : ℕ := 64 * 1024

def officialReasoningEfforts : List String := ["low", "medium", "high"]

section Encoding

variable (serde : SerdeJson)

def rawValue (raw : RawJson) : Except GatewayError Value :=
  okOr (serde.parseStrictJson raw.get.toUTF8.data.toList maxToolArgumentBytes) clientRequestError

/-- The arguments as they are, if they are an object. -/
def normalizeOutboundToolArguments (arguments : String) : Except GatewayError String := do
  let value ← okOr (serde.parseStrictJson arguments.toUTF8.data.toList maxToolArgumentBytes)
    clientRequestError
  ensure value.isObject clientRequestError
  return arguments

/-- The type of a text part in a message of this role. -/
def contentType : String → Option String
  | "assistant" => some "output_text"
  | "developer" | "system" | "user" => some "input_text"
  | _ => none

def encodeTextPart (role : String) (text : TextContent) : Except GatewayError Value := do
  ensure text.extensions.isEmpty clientRequestError
  let contentType ← okOr (contentType role) clientRequestError
  return .ofMembers [("type", .string contentType), ("text", .string text.text)]

def encodeToolCall (call : ToolCall) : Except GatewayError Value := do
  ensure (!(call.id.isEmpty || call.name.isEmpty || !call.extensions.isEmpty)) clientRequestError
  let arguments ← normalizeOutboundToolArguments serde call.arguments.get
  return .ofMembers [("type", .string "function_call"), ("call_id", .string call.id),
    ("name", .string call.name), ("arguments", .string arguments)]

def encodeToolResult (result : ToolResult) : Except GatewayError Value := do
  ensure (!(result.callId.isEmpty || !result.extensions.isEmpty)) clientRequestError
  let output ← rawValue serde result.output
  ensure output.asStr.isSome clientRequestError
  return .ofMembers [("type", .string "function_call_output"), ("call_id", .string result.callId),
    ("output", output)]

/-- The items with the gathered text as one more. -/
def flushMessageContent (input : List Value) (role : String) (content : List Value) :
    Except GatewayError (List Value) := do
  if content.isEmpty then return input
  ensure (role ≠ "tool") clientRequestError
  return input ++ [.ofMembers [("type", .string "message"), ("role", .string role),
    ("content", .array content)]]

/-- The items so far and the text gathered since. -/
def encodePart (role : String) (acc : List Value × List Value) :
    MessageContent → Except GatewayError (List Value × List Value)
  | .text text => do
    let part ← encodeTextPart role text
    return (acc.1, acc.2 ++ [part])
  | .toolCall call => do
    let input ← flushMessageContent acc.1 role acc.2
    ensure (role = "assistant") clientRequestError
    let item ← encodeToolCall serde call
    return (input ++ [item], [])
  | .toolResult result => do
    let input ← flushMessageContent acc.1 role acc.2
    ensure (role = "tool" && !result.isError) clientRequestError
    let item ← encodeToolResult serde result
    return (input ++ [item], [])
  | .opaqueBlock _ => throw clientRequestError

def encodeMessage (input : List Value) (message : CanonicalMessage) :
    Except GatewayError (List Value) := do
  let role := message.role.value
  ensure (["assistant", "developer", "system", "tool", "user"].contains role &&
    !message.content.isEmpty &&
    message.extensions.isEmpty) clientRequestError
  let acc ← message.content.foldlM (encodePart serde role) (input, [])
  flushMessageContent acc.1 role acc.2

def encodeInput (messages : List CanonicalMessage) : Except GatewayError (List Value) :=
  messages.foldlM (encodeMessage serde) []

def encodeTool (tool : ToolDefinition) : Except GatewayError Value := do
  ensure (!tool.name.isEmpty && tool.extensions.isEmpty) clientRequestError
  let parameters ← rawValue serde tool.inputSchema
  ensure parameters.isObject clientRequestError
  let description := tool.description.toList.map fun text => ("description", Value.string text)
  return .ofMembers ([("type", .string "function"), ("name", .string tool.name)] ++ description ++
    [("parameters", parameters)])

def encodeTools (tools : List ToolDefinition) : Except GatewayError Value := do
  let values ← tools.mapM (encodeTool serde)
  return .array values

def encodeReasoning (supportedEfforts : List String) (thinking : Thinking) :
    Except GatewayError Value := do
  ensure (thinking.extensions.isEmpty && supportedEfforts.contains thinking.effort.asStr)
    clientRequestError
  return .ofMembers [("effort", .string thinking.effort.asStr)]

/-- A member that is left out if there is nothing to encode. -/
def encodeOptional {α : Type} (name : String) (encode : α → Except GatewayError Value) :
    Option α → Except GatewayError (List (String × Value))
  | none => return []
  | some a => do
    let value ← encode a
    return [(name, value)]

def encodeBodyValue (upstreamModel : String) (request : CanonicalRequest) (mode : ResponseMode)
    (reasoningEfforts : List String) : Except GatewayError Value := do
  ensure (request.promptCacheKey.isNone && request.promptCacheRetention.isNone &&
    request.extensions.isEmpty) clientRequestError
  let input ← encodeInput serde request.messages
  let tools ← encodeOptional "tools" (encodeTools serde)
    (if request.tools.isEmpty then none else some request.tools)
  let reasoning ← encodeOptional "reasoning" (encodeReasoning reasoningEfforts) request.thinking
  return .ofMembers ([("model", .string upstreamModel), ("stream", .bool (mode = .streaming)),
    ("input", .array input)] ++ tools ++ reasoning)

def encodeResponsesBody (upstreamModel : String) (request : CanonicalRequest) (mode : ResponseMode)
    (reasoningEfforts : List String) : Except GatewayError String := do
  let root ← encodeBodyValue serde upstreamModel request mode reasoningEfforts
  okOr (serde.write root) internalError

/-- A byte of a visible ASCII character. -/
def isAsciiGraphic (byte : UInt8) : Bool := 0x21 ≤ byte && byte ≤ 0x7e

/-- The body of the Official request. The target, the authorization and the accepted type are fixed
by the key and the mode. -/
def build (upstreamModel : String) (request : CanonicalRequest) (mode : ResponseMode) :
    Except GatewayError String := do
  ensure (!upstreamModel.isEmpty && upstreamModel.utf8ByteSize ≤ maxModelBytes &&
    upstreamModel.toUTF8.data.toList.all isAsciiGraphic) clientRequestError
  encodeResponsesBody serde upstreamModel request mode officialReasoningEfforts

end Encoding

end CpaGateway.Grok.OfficialRequest
