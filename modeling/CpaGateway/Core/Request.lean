import CpaGateway.Core.Events

/-! # Canonical requests

The protocol-neutral request that the client decoders produce and the provider encoders read:
messages of ordered content parts, tool declarations and the thinking configuration, each with the
raw fields that the core does not interpret. -/

namespace CpaGateway.Core.Events

/-- Inserts one raw field if its name is not present yet. -/
def RawExtensions.tryInsert (x : RawExtensions) (name : String) (value : RawJson) :
    Option RawExtensions :=
  if x.entries.any fun entry => entry.1 = name then none
  else some {
    entries := x.entries.filter (·.1 < name) ++ (name, value) :: x.entries.filter (name < ·.1)
    sorted := by
      refine List.pairwise_append.mpr
        ⟨x.sorted.filter _, List.pairwise_cons.mpr ⟨?_, x.sorted.filter _⟩, ?_⟩
      · intro entry hentry
        simpa using (List.mem_filter.mp hentry).2
      · intro a ha b hb
        have hlow : a.1 < name := by simpa using (List.mem_filter.mp ha).2
        rcases List.mem_cons.mp hb with rfl | hb
        · exact hlow
        · have hhigh : name < b.1 := by simpa using (List.mem_filter.mp hb).2
          exact String.lt_trans hlow hhigh }

end CpaGateway.Core.Events

namespace CpaGateway.Core.Request

open Core.Error Core.Events

/-- Text of a message. -/
structure TextContent where
  text : String
  extensions : RawExtensions := {}
  deriving DecidableEq

/-- A completed tool call of the history. -/
structure ToolCall where
  id : String
  name : String
  arguments : RawJson
  extensions : RawExtensions := {}
  deriving DecidableEq

/-- The result of a preceding tool call. -/
structure ToolResult where
  callId : String
  output : RawJson
  isError : Bool
  extensions : RawExtensions := {}
  deriving DecidableEq

/-- A content block that is kept as it was written. -/
structure OpaqueContent where
  raw : RawJson
  extensions : RawExtensions := {}
  deriving DecidableEq

/-- One part of a message. -/
inductive MessageContent
  | text (c : TextContent)
  | toolCall (c : ToolCall)
  | toolResult (c : ToolResult)
  | opaqueBlock (c : OpaqueContent)
  deriving DecidableEq

/-- One message of a request. -/
structure CanonicalMessage where
  role : MessageRole
  content : List MessageContent
  extensions : RawExtensions := {}
  deriving DecidableEq

/-- A tool that the client permits. -/
structure ToolDefinition where
  name : String
  description : Option String
  inputSchema : RawJson
  extensions : RawExtensions := {}
  deriving DecidableEq

/-- An effort label: any non-empty text. -/
@[ext]
structure ThinkingEffort where
  asStr : String
  nonempty : asStr ≠ ""

instance : DecidableEq ThinkingEffort := fun _ _ => decidable_of_iff _ ThinkingEffort.ext_iff.symm

/-- The checked constructor of an effort label; the only error is an empty text. -/
def ThinkingEffort.tryNew (value : String) : Option ThinkingEffort :=
  if h : value = "" then none else some ⟨value, h⟩

/-- The thinking that the client asked for. -/
structure Thinking where
  effort : ThinkingEffort
  extensions : RawExtensions := {}
  deriving DecidableEq

/-- A request before its model is resolved. -/
structure CanonicalRequest where
  requestedModel : String
  messages : List CanonicalMessage
  tools : List ToolDefinition := []
  thinking : Option Thinking := none
  promptCacheKey : Option String := none
  promptCacheRetention : Option String := none
  extensions : RawExtensions := {}
  deriving DecidableEq

/-- Whether the client asked for a stream. -/
inductive ResponseMode
  | nonStreaming
  | streaming
  deriving DecidableEq

def clientRequestError : GatewayError := ⟨.clientRequestError, .request⟩

/-- The parts of a conversation in order, each with the role of its message. -/
def flattened (messages : List CanonicalMessage) : List (MessageRole × MessageContent) :=
  messages.flatMap fun message => message.content.map fun part => (message.role, part)

end CpaGateway.Core.Request
