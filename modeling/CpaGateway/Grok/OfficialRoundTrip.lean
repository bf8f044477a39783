import CpaGateway.Grok.OfficialRequest
import CpaGateway.Responses.Request

/-! # An Official body is the request it was made of

The body that the Official encoder writes, read again by the Responses decoder, is the conversation
part by part, with the same tools, effort and mode. Raw JSON is compared as the value it holds. The
one thing a body can lose is a tool schema that nests too deep: the schema alone is read up to
`maxDepth`, inside the body it stands three levels further down. -/

namespace CpaGateway.Grok.OfficialRoundTrip

open Core.Error Core.Events Core.Json Core.Request Grok.OfficialRequest Lib.Fallible
open Responses.Request hiding string object array
open SerdeJson (ofEntries)

/-! ### Requests with their raw JSON read -/

/-- A part of a message whose raw JSON is the value it holds. -/
inductive Part
  | text (c : TextContent)
  | toolCall (id name : String) (arguments : Option Value) (extensions : RawExtensions)
  | toolResult (callId : String) (output : Option Value) (isError : Bool)
    (extensions : RawExtensions)
  | opaqueBlock (raw : Option Value) (extensions : RawExtensions)

/-- A tool whose schema is the value it holds. -/
structure Tool where
  name : String
  description : Option String
  inputSchema : Option Value
  extensions : RawExtensions

section Views

variable (serde : SerdeJson)

def part : MessageContent → Part
  | .text c => .text c
  | .toolCall c => .toolCall c.id c.name (serde.fromStr c.arguments.get) c.extensions
  | .toolResult c => .toolResult c.callId (serde.fromStr c.output.get) c.isError c.extensions
  | .opaqueBlock c => .opaqueBlock (serde.fromStr c.raw.get) c.extensions

def conversation (messages : List CanonicalMessage) : List (MessageRole × Part) :=
  (flattened messages).map fun p => (p.1, part serde p.2)

def tool (definition : ToolDefinition) : Tool where
  name := definition.name
  description := definition.description
  inputSchema := serde.fromStr definition.inputSchema.get
  extensions := definition.extensions

end Views

variable {serde : SerdeJson} {exact : Number → Bool}

theorem conversation_append (a b : List CanonicalMessage) :
    conversation serde (a ++ b) = conversation serde a ++ conversation serde b := by
  simp [conversation, flattened]

theorem conversation_singleton (message : CanonicalMessage) :
    conversation serde [message] = message.content.map fun c => (message.role, part serde c) := by
  simp [conversation, flattened]

theorem isEmpty_iff {x : RawExtensions} : x.isEmpty = true ↔ x = {} := by
  obtain ⟨entries, hsorted⟩ := x
  simp [RawExtensions.isEmpty]

/-! ### Reading what was built -/

theorem mapM_concat_ok {α β : Type} {f : α → Except GatewayError β} {l : List α}
    {l' : List β} {a : α} {b : β} (hl : l.mapM f = .ok l') (ha : f a = .ok b) :
    (l ++ [a]).mapM f = .ok (l' ++ [b]) := by
  rw [List.mapM_append, hl, List.mapM_cons, ha]
  rfl

theorem extensions_of_known {members : List (String × Value)} {known : List String}
    {namespacePrefix : String} (h : ∀ member ∈ members, member.1 ∈ known) :
    extensionsExceptWithPrefix serde (Map.ofList members) known namespacePrefix =
      .ok {} := by
  have hall : ∀ member ∈ Map.ofList members, known.contains member.1 = true :=
    fun member hmember => by
    simpa using h member (Map.mem_ofList hmember)
  rw [extensionsExceptWithPrefix]
  generalize Map.ofList members = m at hall
  induction m with
  | nil => rfl
  | cons member rest ih =>
    obtain ⟨hmember, hrest⟩ := List.forall_mem_cons.mp hall
    rw [List.foldlM_cons, if_pos hmember]
    exact ih hrest

variable {v : Value}

theorem rawJson_ok (hlaw : serde.Lawful exact) (hreadable : Readable exact v)
    (hdepth : depth v ≤ maxDepth) : ∃ raw, rawJson serde v = .ok raw ∧
      serde.fromStr raw.get = some v := by
  obtain ⟨text, hwrite⟩ := hlaw.write_total v
  refine ⟨⟨text⟩, ?_, (hlaw.fromStr_write hwrite hreadable hdepth).1⟩
  simp [rawJson, SerdeJson.fromJsonString, hwrite, hlaw.isJson_write v text hwrite,
    hlaw.trim_write v text hwrite]

/-- A value of texts: it has no numbers and nests at most `n` deep. -/
structure Wordy (n : ℕ) (v : Value) : Prop where
  readable : ∀ exact, Readable exact v
  depth : depth v ≤ n

theorem wordy_string (n : ℕ) (s : String) : Wordy n (.string s) :=
  ⟨fun exact => readable_string exact s, Nat.zero_le n⟩

variable {n : ℕ}

theorem wordy_array {vs : List Value} (h : ∀ v ∈ vs, Wordy n v) : Wordy (n + 1) (.array vs) :=
  ⟨fun exact => readable_array fun v hv => (h v hv).readable exact,
    depth_array_le.mpr fun v hv => (h v hv).depth⟩

theorem wordy_ofMembers {members : List (String × Value)} (hnames : (members.map (·.1)).Nodup)
    (h : ∀ member ∈ members, Wordy n member.2) : Wordy (n + 1) (.ofMembers members) :=
  ⟨fun exact => readable_ofMembers hnames fun member hm => (h member hm).readable exact,
    Value.depth_ofMembers_le fun member hm => (h member hm).depth⟩

/-! ### The items -/

variable {role : String}

theorem encodeTextPart_ok {text : TextContent} (h : encodeTextPart role text = .ok v) :
    decodeContentPart serde v = .ok (.text text) ∧ (contentType role).isSome = true ∧
      Wordy 1 v := by
  simp only [encodeTextPart, except_ok] at h
  obtain ⟨_, hextensions, type, htype, rfl⟩ := h
  obtain ⟨text, extensions⟩ := text
  obtain rfl := isEmpty_iff.mp hextensions
  refine ⟨?_, by simp [htype], wordy_ofMembers (by simp) ?_⟩
  · have hknown : type = "output_text" ∨ type = "input_text" := by
      unfold contentType at htype
      split at htype <;> simp_all
    rw [Value.ofMembers_eq]
    rcases hknown with rfl | rfl <;>
      simp [decodeContentPart, Responses.Request.object, Value.asObject, requiredString,
        requiredValue, Responses.Request.string, Map.get_ofList, Value.asStr, extensionsExcept,
        extensions_of_known]
  · simp [wordy_string]

variable {content : List Value}

theorem decode_message {parts : List MessageContent}
    (hrole : (contentType role).isSome = true)
    (hparts : content.mapM (decodeContentPart serde) = .ok parts) :
    decodeInputItem serde (.ofMembers [("type", .string "message"), ("role", .string role),
      ("content", .array content)]) = .ok { role := ⟨role⟩, content := parts } := by
  have hknown : role = "user" ∨ role = "developer" ∨ role = "system" ∨ role = "assistant" := by
    unfold contentType at hrole
    split at hrole <;> simp_all
  rw [Value.ofMembers_eq]
  simp [decodeInputItem, Responses.Request.object, Value.asObject, Map.containsKey_eq,
    Map.get_ofList, Value.asStr, decodeMessageItem, requiredString, requiredValue,
    Responses.Request.string, okOr, hknown, decodeMessageContent, hparts, extensionsExcept,
    extensions_of_known]

theorem encodeToolCall_ok (hlaw : serde.Lawful exact) {call : ToolCall}
    (h : encodeToolCall serde call = .ok v) :
    (∃ message, decodeInputItem serde v = .ok message ∧
      conversation serde [message] = [(⟨"assistant"⟩, part serde (.toolCall call))]) ∧
      Wordy 1 v := by
  obtain ⟨id, name, ⟨arguments⟩, extensions⟩ := call
  simp only [encodeToolCall, normalizeOutboundToolArguments, except_ok, Bool.not_eq_true',
    Bool.or_eq_false_iff, Bool.not_eq_false'] at h
  obtain ⟨_, ⟨⟨hid, hname⟩, hextensions⟩, _, ⟨value, hparse, _, -, rfl⟩, rfl⟩ := h
  obtain rfl := isEmpty_iff.mp hextensions
  obtain ⟨-, hfree, hjson, -⟩ := hlaw.parseStrictJson_some hparse
  rw [String.isEmpty_eq_false_iff] at hid hname
  have htrim : serde.fromStr (trimJson arguments) = serde.fromStr arguments := by
    rw [SerdeJson.fromStr, SerdeJson.fromStr, hlaw.read_trim]
  refine ⟨⟨{
    role := ⟨"assistant"⟩
    content := [.toolCall { id, name, arguments := ⟨trimJson arguments⟩ }] }, ?_, ?_⟩,
    wordy_ofMembers (by simp) ?_⟩
  · rw [Value.ofMembers_eq]
    simp [decodeInputItem, Responses.Request.object, Value.asObject, Map.get_ofList, Value.asStr,
      decodeFunctionCall, requiredString, requiredValue, Responses.Request.string, okOr, hid, hname,
      rejectDuplicateJsonNames, hfree, SerdeJson.fromJsonString, hjson, extensionsExcept,
      extensions_of_known]
  · rw [conversation_singleton]
    simp [part, htrim]
  · simp [wordy_string]

theorem encodeToolResult_ok (hlaw : serde.Lawful exact) {result : ToolResult}
    (herror : result.isError = false) (h : encodeToolResult serde result = .ok v) :
    (∃ message, decodeInputItem serde v = .ok message ∧
      conversation serde [message] = [(⟨"tool"⟩, part serde (.toolResult result))]) ∧
      Wordy 1 v := by
  obtain ⟨callId, ⟨output⟩, isError, extensions⟩ := result
  obtain rfl : isError = false := herror
  simp only [encodeToolResult, rawValue, except_ok, Bool.not_eq_true', Bool.or_eq_false_iff,
    Bool.not_eq_false'] at h
  obtain ⟨_, ⟨hid, hextensions⟩, value, hparse, _, hstring, rfl⟩ := h
  obtain rfl := isEmpty_iff.mp hextensions
  rw [String.isEmpty_eq_false_iff] at hid
  obtain ⟨s, rfl⟩ : ∃ s, value = .string s := by
    cases value with
    | string s => exact ⟨s, rfl⟩
    | _ => simp [Value.asStr] at hstring
  obtain ⟨raw, hraw, hread⟩ := rawJson_ok hlaw (readable_string exact s) (Nat.zero_le _)
  refine ⟨⟨{
    role := ⟨"tool"⟩
    content := [.toolResult { callId, output := raw, isError := false }] }, ?_, ?_⟩,
    wordy_ofMembers (by simp) ?_⟩
  · rw [Value.ofMembers_eq]
    simp [decodeInputItem, Responses.Request.object, Value.asObject, Map.get_ofList,
      Map.containsKey_eq, Value.asStr, decodeFunctionCallOutput, requiredString, requiredValue,
      Responses.Request.string, okOr, hid, hraw, extensionsExcept, extensions_of_known]
  · rw [conversation_singleton]
    simp [part, hread, (hlaw.parseStrictJson_some hparse).1]
  · simp [wordy_string]

/-! ### The flushing loop -/

/-- The items are read as the conversation so far. -/
structure Items (serde : SerdeJson) (input : List Value) (past : List (MessageRole × Part)) :
    Prop where
  read : ∃ messages, input.mapM (decodeInputItem serde) = .ok messages ∧
    conversation serde messages = past
  wordy : ∀ v ∈ input, Wordy 3 v

/-- The gathered parts are read as the texts of the message so far. -/
structure Gathered (serde : SerdeJson) (role : String) (content : List Value)
    (texts : List MessageContent) : Prop where
  read : content.mapM (decodeContentPart serde) = .ok texts
  role : content ≠ [] → (contentType role).isSome = true
  wordy : ∀ v ∈ content, Wordy 1 v

theorem gathered_nil (role : String) : Gathered serde role [] [] := ⟨rfl, by simp, by simp⟩

variable {input : List Value} {past : List (MessageRole × Part)} {message : CanonicalMessage}

theorem Items.concat (h : Items serde input past) (hv : decodeInputItem serde v = .ok message)
    (hwordy : Wordy 3 v) : Items serde (input ++ [v]) (past ++ conversation serde [message]) := by
  obtain ⟨messages, hread, rfl⟩ := h.read
  refine ⟨⟨messages ++ [message], mapM_concat_ok hread hv, conversation_append _ _⟩, ?_⟩
  intro w hw
  rcases List.mem_append.mp hw with hw | hw
  · exact h.wordy w hw
  · rwa [List.mem_singleton.mp hw]

theorem Wordy.mono {n' : ℕ} (h : Wordy n v) (hle : n ≤ n') : Wordy n' v :=
  ⟨h.readable, h.depth.trans hle⟩

variable {texts : List MessageContent} {input' : List Value}

theorem flush_ok (hitems : Items serde input past)
    (hgathered : Gathered serde role content texts)
    (h : flushMessageContent input role content = .ok input') :
    Items serde input' (past ++ texts.map fun c => (⟨role⟩, part serde c)) := by
  rw [flushMessageContent] at h
  by_cases hempty : content = []
  · subst hempty
    obtain rfl : [] = texts := pure_ok_iff.mp hgathered.read
    obtain rfl : input = input' := by simpa using h
    simpa using hitems
  · rw [if_neg (by simpa using hempty)] at h
    simp only [except_ok] at h
    obtain ⟨_, -, rfl⟩ := h
    have hmessage := decode_message (hgathered.role hempty) hgathered.read
    have hwordy : Wordy 3 (.ofMembers [("type", .string "message"), ("role", .string role),
        ("content", .array content)]) := by
      refine wordy_ofMembers (by simp) ?_
      simp only [List.forall_mem_cons, List.not_mem_nil, false_imp_iff, implies_true, and_true]
      exact ⟨wordy_string _ _, wordy_string _ _, wordy_array hgathered.wordy⟩
    have hnext := hitems.concat hmessage hwordy
    rwa [conversation_singleton] at hnext

section

variable (hlaw : serde.Lawful exact)

include hlaw

theorem encodePart_ok
    {acc' : List Value × List Value} {c : MessageContent} (hitems : Items serde input past)
    (hgathered : Gathered serde role content texts)
    (h : encodePart serde role (input, content) c = .ok acc') :
    ∃ past' texts', Items serde acc'.1 past' ∧ Gathered serde role acc'.2 texts' ∧
      past' ++ texts'.map (fun c => (⟨role⟩, part serde c)) =
        past ++ texts.map (fun c => (⟨role⟩, part serde c)) ++ [(⟨role⟩, part serde c)] := by
  cases c with
  | text text =>
    simp only [encodePart, except_ok] at h
    obtain ⟨v, hv, rfl⟩ := h
    obtain ⟨hread, hrole, hwordy⟩ := @encodeTextPart_ok serde _ _ _ hv
    refine ⟨past, texts ++ [.text text], hitems,
      ⟨mapM_concat_ok hgathered.read hread, fun _ => hrole, ?_⟩, by simp⟩
    intro w hw
    rcases List.mem_append.mp hw with hw | hw
    · exact hgathered.wordy w hw
    · rwa [List.mem_singleton.mp hw]
  | toolCall call =>
    simp only [encodePart, except_ok, decide_eq_true_eq] at h
    obtain ⟨flushed, hflush, _, rfl, v, hv, rfl⟩ := h
    obtain ⟨⟨message, hread, hmessage⟩, hwordy⟩ := encodeToolCall_ok hlaw hv
    have hnext := (flush_ok hitems hgathered hflush).concat hread (hwordy.mono (by omega))
    rw [hmessage] at hnext
    exact ⟨_, [], hnext, gathered_nil _, by simp⟩
  | toolResult result =>
    simp only [encodePart, except_ok, Bool.and_eq_true, decide_eq_true_eq, Bool.not_eq_true'] at h
    obtain ⟨flushed, hflush, _, ⟨rfl, herror⟩, v, hv, rfl⟩ := h
    obtain ⟨⟨message, hread, hmessage⟩, hwordy⟩ := encodeToolResult_ok hlaw herror hv
    have hnext := (flush_ok hitems hgathered hflush).concat hread (hwordy.mono (by omega))
    rw [hmessage] at hnext
    exact ⟨_, [], hnext, gathered_nil _, by simp⟩
  | opaqueBlock block => cases h

theorem encodeMessage_ok (hitems : Items serde input past)
    (h : encodeMessage serde input message = .ok input') :
    Items serde input' (past ++ conversation serde [message]) := by
  simp only [encodeMessage, except_ok] at h
  obtain ⟨_, -, acc, hloop, hflush⟩ := h
  -- the items and the gathered texts together are the parts that the loop went through
  have hparts := foldlM_ok (fun done acc => ∃ past' texts, Items serde acc.1 past' ∧
      Gathered serde message.role.value acc.2 texts ∧
      past' ++ texts.map (fun c => (⟨message.role.value⟩, part serde c)) =
        past ++ done.map fun c => (⟨message.role.value⟩, part serde c))
    hloop [] ⟨past, [], hitems, gathered_nil _, rfl⟩ (by
      rintro done c ⟨input, content⟩ acc' ⟨past', texts, hitems, hgathered, heq⟩ hstep
      obtain ⟨past'', texts', hitems', hgathered', heq'⟩ :=
        encodePart_ok hlaw hitems hgathered hstep
      exact ⟨past'', texts', hitems', hgathered', by
        rw [heq', heq, List.map_append, List.append_assoc]; rfl⟩)
  obtain ⟨past', texts, hitems', hgathered, heq⟩ := hparts
  have hend := flush_ok hitems' hgathered hflush
  rw [heq] at hend
  rwa [conversation_singleton]

theorem encodeInput_ok {messages : List CanonicalMessage}
    (h : encodeInput serde messages = .ok input) :
    Items serde input (conversation serde messages) := by
  have hend := foldlM_ok (fun done input => Items serde input (conversation serde done)) h []
    ⟨⟨[], rfl, rfl⟩, by simp⟩ fun done message input input' hitems hstep => by
      rw [conversation_append]
      exact encodeMessage_ok hlaw hitems hstep
  simpa using hend

/-! ### The tools -/

/-- The schema of a tool, as the encoder reads it. -/
def schema (serde : SerdeJson) (definition : ToolDefinition) : Option Value :=
  serde.fromStr definition.inputSchema.get

/-- The schema nests so deep at most that the body holds it. -/
def fits (serde : SerdeJson) (definition : ToolDefinition) : Prop :=
  ∀ v, schema serde definition = some v → depth v + 3 ≤ maxDepth

/-- The numbers of the schema are read back exactly. -/
def exactly (serde : SerdeJson) (exact : Number → Bool) (definition : ToolDefinition) : Prop :=
  ∀ v, schema serde definition = some v → numbers exact v = true

theorem encodeTool_ok {definition : ToolDefinition}
    (h : encodeTool serde definition = .ok v) (hexact : exactly serde exact definition) :
    Readable exact v ∧
      (∀ n, depth v ≤ n + 1 ↔ ∀ w, schema serde definition = some w → depth w ≤ n) ∧
      (fits serde definition →
        ∃ definition', decodeTool serde v = .ok definition' ∧
        tool serde definition' = tool serde definition) := by
  obtain ⟨name, description, ⟨inputSchema⟩, extensions⟩ := definition
  simp only [encodeTool, rawValue, except_ok, Bool.and_eq_true, Bool.not_eq_true'] at h
  obtain ⟨_, ⟨hname, hextensions⟩, value, hparse, _, hobject, rfl⟩ := h
  obtain rfl := isEmpty_iff.mp hextensions
  rw [String.isEmpty_eq_false_iff] at hname
  obtain ⟨hread, -, -, hheld⟩ := hlaw.parseStrictJson_some hparse
  have hschema : ∀ w, schema serde ⟨name, description, ⟨inputSchema⟩, {}⟩ = some w ↔
      value = w := fun w => by
    simp [schema, hread]
  have hreadable : Readable exact value := ⟨hheld, hexact value ((hschema value).mpr rfl)⟩
  -- every member but the schema is a text
  have hmembers : ∀ P : Value → Prop, (∀ text, P (.string text)) → P value →
      ∀ member ∈ [("type", Value.string "function"), ("name", .string name)] ++
        description.toList.map (fun text => ("description", Value.string text)) ++
          [("parameters", value)], P member.2 := by
    intro P htext hvalue
    cases description <;> simp [htext, hvalue]
  refine ⟨?_, fun n => ?_, fun hfits => ?_⟩
  · refine readable_ofMembers ?_ (hmembers (Readable exact) (readable_string exact) hreadable)
    cases description <;> simp
  · simp only [hschema, forall_eq']
    constructor
    · intro hdepth
      rw [Value.ofMembers_eq] at hdepth
      refine Nat.le_of_lt_succ
        (lt_of_lt_of_le (@Value.depth_lt_of_get value _ "parameters" ?_) hdepth)
      cases description <;> simp [Map.get_ofList]
    · intro hdepth
      exact Value.depth_ofMembers_le (hmembers (depth · ≤ n) (fun _ => Nat.zero_le n) hdepth)
  · obtain ⟨m, rfl⟩ : ∃ m, value = .object m := by
      cases value with
      | object m => exact ⟨m, rfl⟩
      | _ => cases hobject
    have hdepth := hfits _ ((hschema _).mpr rfl)
    obtain ⟨raw, hraw, hreadRaw⟩ := rawJson_ok hlaw hreadable ((Nat.le_add_right _ 3).trans hdepth)
    refine ⟨{ name, description, inputSchema := raw }, ?_, by simp [tool, hreadRaw, hread]⟩
    rw [Value.ofMembers_eq]
    cases description <;>
      simp [decodeTool, Responses.Request.object, Value.asObject, Map.get_ofList, Value.asStr,
        requiredString, requiredValue, Responses.Request.string, okOr, hname,
        decodeInputSchema, hraw, extensionsExcept, extensions_of_known]

/-- What the tools of a body are read as. -/
structure Declared (serde : SerdeJson) (exact : Number → Bool) (tools : List ToolDefinition)
    (values : List Value) : Prop where
  readable : ∀ v ∈ values, Readable exact v
  nests : ∀ n, (∀ v ∈ values, depth v ≤ n + 1) ↔
    ∀ definition ∈ tools, ∀ w, schema serde definition = some w → depth w ≤ n
  reads : (∀ definition ∈ tools, fits serde definition) →
    ∃ tools', values.mapM (decodeTool serde) = .ok tools' ∧
      tools'.map (tool serde) = tools.map (tool serde)

theorem encodeTools_ok {tools : List ToolDefinition} {values : List Value}
    (h : tools.mapM (encodeTool serde) = .ok values)
    (hexact : ∀ definition ∈ tools, exactly serde exact definition) :
    Declared serde exact tools values := by
  have hall := mapM_ok h
  clear h
  induction hall with
  | nil => exact ⟨by simp, by simp, fun _ => ⟨[], rfl, rfl⟩⟩
  | cons hfirst _ ih =>
    obtain ⟨hexact, hexacts⟩ := List.forall_mem_cons.mp hexact
    obtain ⟨hreadable, hdepth, hread⟩ := encodeTool_ok hlaw hfirst hexact
    have ih := ih hexacts
    refine ⟨List.forall_mem_cons.mpr ⟨hreadable, ih.readable⟩, fun n => ?_, fun hfits => ?_⟩
    · rw [List.forall_mem_cons, List.forall_mem_cons, hdepth, ih.nests]
    · obtain ⟨hfit, hfits⟩ := List.forall_mem_cons.mp hfits
      obtain ⟨definition', hdecode, hsame⟩ := hread hfit
      obtain ⟨tools', hrest, hsames⟩ := ih.reads hfits
      refine ⟨definition' :: tools', ?_, by rw [List.map_cons, List.map_cons, hsame, hsames]⟩
      rw [List.mapM_cons, hdecode, hrest]
      rfl

end

/-! ### The body -/

variable {efforts : List String}

theorem encodeReasoning_ok {thinking : Thinking} (h : encodeReasoning efforts thinking = .ok v) :
    decodeReasoning serde v = .ok thinking ∧ Wordy 1 v := by
  simp only [encodeReasoning, except_ok, Bool.and_eq_true] at h
  obtain ⟨_, ⟨hextensions, -⟩, rfl⟩ := h
  obtain ⟨⟨effort, hnonempty⟩, extensions⟩ := thinking
  obtain rfl := isEmpty_iff.mp hextensions
  refine ⟨?_, wordy_ofMembers (by simp) (by simp [wordy_string])⟩
  rw [Value.ofMembers_eq]
  simp [decodeReasoning, Responses.Request.object, Value.asObject, Map.get_ofList, Value.asStr,
    requiredString, requiredValue, Responses.Request.string, okOr, ThinkingEffort.tryNew, hnonempty,
    extensionsExcept, extensions_of_known]

/-- The body's members: the tools and the reasoning are left out if the request has none. -/
structure Body (serde : SerdeJson) (exact : Number → Bool) (request : CanonicalRequest)
    (input : List Value) (tools reasoning : List (String × Value)) : Prop where
  input : Items serde input (conversation serde request.messages)
  tools : request.tools = [] ∧ tools = [] ∨
    ∃ values, Declared serde exact request.tools values ∧ tools = [("tools", .array values)]
  reasoning : request.thinking = none ∧ reasoning = [] ∨
    ∃ thinking v, request.thinking = some thinking ∧ decodeReasoning serde v = .ok thinking ∧
      Wordy 1 v ∧
      reasoning = [("reasoning", v)]

/-- The members of the body of a request. -/
def members (upstreamModel : String) (mode : ResponseMode) (input : List Value)
    (tools reasoning : List (String × Value)) : List (String × Value) :=
  [("model", .string upstreamModel), ("stream", .bool (mode = .streaming)),
    ("input", .array input)] ++
    tools ++ reasoning

theorem encodeBodyValue_ok (hlaw : serde.Lawful exact) {upstreamModel : String}
    {request : CanonicalRequest} {mode : ResponseMode}
    (h : encodeBodyValue serde upstreamModel request mode efforts = .ok v)
    (hexact : ∀ definition ∈ request.tools, exactly serde exact definition) :
    ∃ input tools reasoning, Body serde exact request input tools reasoning ∧
      v = .ofMembers (members upstreamModel mode input tools reasoning) := by
  simp only [encodeBodyValue, except_ok] at h
  obtain ⟨_, -, input, hinput, tools, htools, reasoning, hreasoning, rfl⟩ := h
  refine ⟨input, tools, reasoning, ⟨encodeInput_ok hlaw hinput, ?_, ?_⟩, rfl⟩
  · by_cases hempty : request.tools = []
    · refine .inl ⟨hempty, ?_⟩
      rw [if_pos (by simp [hempty])] at htools
      exact (pure_ok_iff.mp htools).symm
    · rw [if_neg (by simpa using hempty)] at htools
      simp only [encodeOptional, encodeTools, except_ok] at htools
      obtain ⟨_, ⟨values, hvalues, rfl⟩, rfl⟩ := htools
      exact .inr ⟨values, encodeTools_ok hlaw hvalues hexact, rfl⟩
  · rcases hthinking : request.thinking with _ | thinking
    · rw [hthinking] at hreasoning
      exact .inl ⟨rfl, (pure_ok_iff.mp hreasoning).symm⟩
    · rw [hthinking] at hreasoning
      simp only [encodeOptional, except_ok] at hreasoning
      obtain ⟨value, hvalue, rfl⟩ := hreasoning
      obtain ⟨hread, hwordy⟩ := @encodeReasoning_ok serde _ _ _ hvalue
      exact .inr ⟨thinking, value, rfl, hread, hwordy, rfl⟩

variable {request : CanonicalRequest}

section Body

variable {tools reasoning : List (String × Value)} (upstreamModel : String) (mode : ResponseMode)
  (h : Body serde exact request input tools reasoning)

include h

/-- What the members of a body have in common: all but the tools are texts of at most four levels.
-/
theorem Body.forall_members {P : Value → Prop}
    (hleaf : ∀ v, Wordy 4 v → P v) (htools : ∀ values, Declared serde exact request.tools values →
      P (.array values)) :
    ∀ member ∈ members upstreamModel mode input tools reasoning, P member.2 := by
  have hbase : ∀ member ∈ [("model", Value.string upstreamModel),
      ("stream", .bool (mode = .streaming)), ("input", .array input)], P member.2 := by
    simp only [List.forall_mem_cons, List.not_mem_nil, false_imp_iff, implies_true, and_true]
    exact ⟨hleaf _ (wordy_string _ _), hleaf _ ⟨fun _ => ⟨⟨.bool _, rfl⟩, rfl⟩, Nat.zero_le 4⟩,
      hleaf _ (wordy_array h.input.wordy)⟩
  simp only [members, List.forall_mem_append]
  refine ⟨⟨hbase, ?_⟩, ?_⟩
  · rcases h.tools with ⟨-, rfl⟩ | ⟨values, hdeclared, rfl⟩
    · simp
    · simpa using htools values hdeclared
  · rcases h.reasoning with ⟨-, rfl⟩ | ⟨_, v, -, -, hwordy, rfl⟩
    · simp
    · simpa using hleaf v (hwordy.mono (by omega))

theorem Body.readable :
    Readable exact (.ofMembers (members upstreamModel mode input tools reasoning)) := by
  refine readable_ofMembers ?_ (h.forall_members upstreamModel mode (fun _ hv => hv.readable exact)
    fun _ hdeclared => readable_array hdeclared.readable)
  rcases h.tools with ⟨-, rfl⟩ | ⟨_, -, rfl⟩ <;>
    rcases h.reasoning with ⟨-, rfl⟩ | ⟨_, _, -, -, -, rfl⟩ <;> simp [members]

theorem Body.names :
    ∀ member ∈ members upstreamModel mode input tools reasoning,
      member.1 ∈ ["model", "stream", "input", "tools", "reasoning"] := by
  rcases h.tools with ⟨-, rfl⟩ | ⟨values, -, rfl⟩ <;>
    rcases h.reasoning with ⟨-, rfl⟩ | ⟨_, v, -, -, -, rfl⟩ <;> simp [members]

/-- The members of a body by name. -/
structure Root (upstreamModel : String) (mode : ResponseMode) (input : List Value)
    (tools reasoning : List (String × Value)) (root : Map) : Prop where
  model : root.get "model" = some (.string upstreamModel)
  stream : root.get "stream" = some (.bool (mode = .streaming))
  input : root.get "input" = some (.array input)
  tools : root.get "tools" = tools.head?.map (·.2)
  reasoning : root.get "reasoning" = reasoning.head?.map (·.2)
  other : ∀ name, name ∉ ["model", "stream", "input", "tools", "reasoning"] → root.get name = none

theorem Body.root :
    Root upstreamModel mode input tools reasoning
      (Map.ofList (members upstreamModel mode input tools reasoning)) := by
  have hother : ∀ name, name ∉ ["model", "stream", "input", "tools", "reasoning"] →
      (Map.ofList (members upstreamModel mode input tools reasoning)).get name = none :=
    fun name hname => Map.get_ofList_eq_none fun member hm heq =>
      hname (heq ▸ h.names _ _ member hm)
  rcases h.tools with ⟨-, rfl⟩ | ⟨values, -, rfl⟩ <;>
    rcases h.reasoning with ⟨-, rfl⟩ | ⟨_, v, -, -, -, rfl⟩ <;>
    exact ⟨by simp [members, Map.get_ofList], by simp [members, Map.get_ofList],
      by simp [members, Map.get_ofList], by simp [members, Map.get_ofList],
      by simp [members, Map.get_ofList], hother⟩

theorem Body.nests :
    depth (.ofMembers (members upstreamModel mode input tools reasoning)) ≤ maxDepth ↔
      ∀ definition ∈ request.tools, fits serde definition := by
  have hfits : ∀ values, Declared serde exact request.tools values →
      (depth (.array values) ≤ 126 ↔ ∀ definition ∈ request.tools, fits serde definition) := by
    intro values hdeclared
    rw [depth_array_le, hdeclared.nests 124]
    exact forall₂_congr fun definition _ => forall₂_congr fun w _ => by rw [maxDepth]; omega
  constructor
  · intro hdepth
    rcases h.tools with ⟨hnil, -⟩ | ⟨values, hdeclared, rfl⟩
    · simp [hnil]
    · have hlt := Value.depth_lt_of_get (h.root upstreamModel mode).tools
      exact (hfits values hdeclared).mp (Nat.le_of_lt_succ (hlt.trans_le hdepth))
  · intro hall
    exact Value.depth_ofMembers_le (h.forall_members upstreamModel mode
      (fun v hv => hv.depth.trans (by omega)) fun values hdeclared =>
      (hfits values hdeclared).mpr hall)

/-- A body that is read as a whole is read as the request. -/
theorem Body.decode (hmodel : upstreamModel ≠ "")
    (hfits : ∀ definition ∈ request.tools, fits serde definition) :
    ∃ decoded, decodeRoot serde (Map.ofList (members upstreamModel mode input tools reasoning)) =
        .ok decoded ∧
      conversation serde decoded.request.messages = conversation serde request.messages ∧
      decoded.request.tools.map (tool serde) = request.tools.map (tool serde) ∧
      decoded.request.thinking = request.thinking ∧ decoded.mode = mode := by
  obtain ⟨messages, hmessages, hconversation⟩ := h.input.read
  have hroot := h.root upstreamModel mode
  have htools : ∃ tools', decodeOptional
      (Map.ofList (members upstreamModel mode input tools reasoning))
      "tools" (decodeTools serde) = .ok tools' ∧
        (tools'.getD []).map (tool serde) = request.tools.map (tool serde) := by
    rw [decodeOptional, hroot.tools]
    rcases h.tools with ⟨hnil, rfl⟩ | ⟨values, hdeclared, rfl⟩
    · exact ⟨none, rfl, by simp [hnil]⟩
    · obtain ⟨tools', hread, hsame⟩ := hdeclared.reads hfits
      refine ⟨some tools', ?_, hsame⟩
      simp [decodeTools, Responses.Request.array, Value.asArray, hread]
  have hthinking : decodeOptional (Map.ofList (members upstreamModel mode input tools reasoning))
      "reasoning" (decodeReasoning serde) = .ok request.thinking := by
    rw [decodeOptional, hroot.reasoning]
    rcases h.reasoning with ⟨hnone, rfl⟩ | ⟨thinking, v, hsome, hread, -, rfl⟩
    · simp [hnone]
    · simp [hsome, hread]
  obtain ⟨tools', htools, hsame⟩ := htools
  let decoded : CanonicalRequest :=
    { requestedModel := upstreamModel, messages, tools := tools'.getD [],
      thinking := request.thinking }
  refine ⟨⟨decoded, mode⟩, ?_, hconversation, hsame, rfl, rfl⟩
  have hextensions := @extensions_of_known serde (members upstreamModel mode input tools reasoning)
    ["model", "stream", "input", "instructions", "tools", "reasoning", "prompt_cache_key",
      "prompt_cache_retention"] "openai.responses." fun member hm => by
        have hname := h.names upstreamModel mode member hm
        simp only [List.mem_cons, List.not_mem_nil] at hname ⊢
        tauto
  have hmode : decodeMode (Map.ofList (members upstreamModel mode input tools reasoning)) =
      .ok mode := by
    rw [decodeMode, hroot.stream]
    cases mode <;> rfl
  have hmessages : decodeMessages serde
      (Map.ofList (members upstreamModel mode input tools reasoning)) =
      .ok messages := by
    rw [decodeMessages, decodeInstructions, hroot.other _ (by simp), hroot.input]
    simp [decodeInput, hmessages]
  generalize Map.ofList (members upstreamModel mode input tools reasoning) = root at *
  simp [decodeRoot, rejectUnimplementedExecutionControls, Map.containsKey_eq, hroot.other, ensure,
    requiredString, requiredValue, hroot.model, okOr, Responses.Request.string, Value.asStr,
    hmodel, hmode, hmessages, htools, hthinking, optionalString, hextensions, decoded]

end Body

/-- The decoded body says what the request says. -/
structure Same (serde : SerdeJson) (request : CanonicalRequest) (mode : ResponseMode)
    (decoded : DecodedResponsesRequest) : Prop where
  messages : conversation serde decoded.request.messages = conversation serde request.messages
  tools : decoded.request.tools.map (tool serde) = request.tools.map (tool serde)
  thinking : decoded.request.thinking = request.thinking
  mode : decoded.mode = mode

section RoundTrip

variable {upstreamModel : String} {mode : ResponseMode} {body : String}

theorem build_reads (hlaw : serde.Lawful exact)
    (h : build serde upstreamModel request mode = .ok body)
    (hexact : ∀ definition ∈ request.tools, exactly serde exact definition) :
    ((∀ definition ∈ request.tools, fits serde definition) ∧
        ∃ decoded, decodeRequest serde body = .ok decoded ∧ Same serde request mode decoded) ∨
      (¬ ∀ definition ∈ request.tools, fits serde definition) ∧
        ∀ decoded, decodeRequest serde body ≠ .ok decoded := by
  simp only [build, encodeResponsesBody, except_ok, Bool.and_eq_true, Bool.not_eq_true',
    String.isEmpty_eq_false_iff] at h
  obtain ⟨_, ⟨⟨hmodel, -⟩, -⟩, v, hv, hwrite⟩ := h
  obtain ⟨input, tools, reasoning, hbody, rfl⟩ := encodeBodyValue_ok hlaw hv hexact
  have hreadable := hbody.readable upstreamModel mode
  have hnests := hbody.nests upstreamModel mode
  by_cases hfits : ∀ definition ∈ request.tools, fits serde definition
  · obtain ⟨hread, hfree⟩ := hlaw.fromStr_write hwrite hreadable (hnests.mpr hfits)
    obtain ⟨decoded, hdecoded, hmessages, htools, hthinking, hmode⟩ :=
      hbody.decode upstreamModel mode hmodel hfits
    refine .inl ⟨hfits, decoded, ?_, hmessages, htools, hthinking, hmode⟩
    rw [Value.ofMembers_eq] at hread
    simp [decodeRequest, rejectDuplicateJsonNames, hfree, hread, ensure, okOr,
      Responses.Request.object, Value.asObject, hdecoded]
  · have hdeep := Nat.lt_of_not_le (mt hnests.mp hfits)
    have hfree : serde.isDuplicateFree body = false := by
      rw [SerdeJson.isDuplicateFree, hlaw.read_deep _ _ hwrite hreadable.held hdeep]
      rfl
    exact .inr ⟨hfits, fun _ => by simp [decodeRequest, rejectDuplicateJsonNames, hfree]⟩

/-- **Round trip**: a body that the Official encoder writes is read again iff no tool schema nests
too deep, and then as the same conversation, with the same tools, effort and mode. -/
theorem official_round_trip (hlaw : serde.Lawful exact)
    (h : build serde upstreamModel request mode = .ok body)
    (hexact : ∀ definition ∈ request.tools, exactly serde exact definition) :
    ((∃ decoded, decodeRequest serde body = .ok decoded) ↔
        ∀ definition ∈ request.tools, fits serde definition) ∧
      ∀ decoded, decodeRequest serde body = .ok decoded → Same serde request mode decoded := by
  rcases build_reads hlaw h hexact with ⟨hfits, decoded, hok, hsame⟩ | ⟨hdeep, hrefused⟩
  · refine ⟨iff_of_true ⟨decoded, hok⟩ hfits, fun decoded' hok' => ?_⟩
    obtain rfl := Except.ok.inj (hok.symm.trans hok')
    exact hsame
  · exact ⟨iff_of_false (fun ⟨decoded, hok⟩ => hrefused decoded hok) hdeep,
      fun decoded hok => absurd hok (hrefused decoded)⟩

end RoundTrip

/-! ### Bodies with a tool, as they are written -/

/-- A request with one tool. -/
def toolRequest (messages : List CanonicalMessage) (schemaText : String) : CanonicalRequest where
  requestedModel := "m"
  messages
  tools := [{ name := "t", description := none, inputSchema := ⟨schemaText⟩ }]

/-- The body of such a request. -/
def toolBody (input : List Value) (parameters : Value) : Value :=
  .object [("input", .array input), ("model", .string "m"), ("stream", .bool true),
    ("tools", .array [.object
      [("name", .string "t"), ("parameters", parameters), ("type", .string "function")]])]

/-- The text of an object, with the text of its members. -/
def objectText (membersText : String) : String := "\x7b" ++ membersText ++ "\x7d"

/-- The text of the body, with the texts of its items and of the schema. -/
def toolText (inputText schemaText : String) : String :=
  objectText ("\"input\":[" ++ inputText ++ "],\"model\":\"m\",\"stream\":true,\"tools\":[" ++
    objectText ("\"name\":\"t\",\"parameters\":" ++ schemaText ++ ",\"type\":\"function\"") ++ "]")

section Samples

variable {messages : List CanonicalMessage} {input : List Value} {schemaText body : String}
  {parameters : Value}

theorem build_tool (hinput : encodeInput serde messages = .ok input)
    (hschema : rawValue serde ⟨schemaText⟩ = .ok parameters) (hobject : parameters.isObject = true)
    (hwrite : serde.write (toolBody input parameters) = some body) :
    build serde "m" (toolRequest messages schemaText) .streaming = .ok body := by
  have hmodel : (!"m".isEmpty && "m".utf8ByteSize ≤ maxModelBytes &&
      "m".toUTF8.data.toList.all isAsciiGraphic) = true := by decide
  have htool : encodeTools serde
      [{ name := "t", description := none, inputSchema := ⟨schemaText⟩ }] =
      .ok (.array [.object [("name", .string "t"), ("parameters", parameters),
        ("type", .string "function")]]) := by
    simp +decide [encodeTools, encodeTool, hschema, hobject, ensure, Value.ofMembers]
  have hvalue : encodeBodyValue serde "m" (toolRequest messages schemaText) .streaming
      officialReasoningEfforts = .ok (toolBody input parameters) := by
    simp +decide [encodeBodyValue, hinput, encodeOptional, htool, ensure, toolBody, Value.ofMembers,
      toolRequest]
  have hbody : encodeResponsesBody serde "m" (toolRequest messages schemaText) .streaming
      officialReasoningEfforts = .ok body := by
    simp [encodeResponsesBody, hvalue, hwrite, okOr]
  rw [build, hmodel, hbody]
  rfl

variable {entries : List Entry} {e : Entry} {u : Value}

theorem parse_entry (h : Consistent exact entries) (he : e ∈ entries) (hread : e.read = some u)
    (hstrict : strict u = some v) (hlen : e.text.utf8ByteSize ≤ maxToolArgumentBytes) :
    (ofEntries entries).parseStrictJson e.text.toUTF8.data.toList maxToolArgumentBytes =
      some v := by
  have hshort : ¬ e.text.toUTF8.data.toList.length > maxToolArgumentBytes := Nat.not_lt.mpr hlen
  rw [SerdeJson.parseStrictJson, if_neg hshort, h.read_entry he (h.plain e he).trimmed.symm, hread]
  exact hstrict

theorem schema_entry (h : Consistent exact entries) (he : e ∈ entries) (hread : e.read = some u)
    (hstrict : strict u = some v) : (ofEntries entries).fromStr e.text = some v :=
  (SerdeJson.fromStr_of_strict ((h.read_entry he (h.plain e he).trimmed.symm).trans hread)
    hstrict).1

theorem numbers_true (v : Value) : numbers (fun _ => true) v = true := by
  induction v using Value.inductionOn with
  | array vs ih => exact scalars_array.mpr ih
  | object members ih => exact scalars_object.mpr ih
  | _ => rfl

theorem plain_objectText (membersText : String) : Plain (objectText membersText) where
  trimmed := by simp [trimJson, objectText, isJsonSpace, String.ext_iff]
  begins := by simp [objectText]

theorem strict_toolBody (hinput : strictElements input = some input)
    (hparameters : strict parameters = some parameters) :
    strict (toolBody input parameters) = some (toolBody input parameters) := by
  simp +decide
    [toolBody, strict, strictMembers, strictElements, hinput, hparameters, Map.containsKey]

end Samples

/-! A message that mixes texts and a call, and the result of the call -/

/-- The conversation. -/
def mixedMessages : List CanonicalMessage :=
  [{ role := ⟨"assistant"⟩, content := [.text { text := "a" },
      .toolCall { id := "c", name := "t", arguments := ⟨"\x7b\x7d"⟩ }, .text { text := "b" }] },
    { role := ⟨"tool"⟩,
      content := [.toolResult { callId := "c", output := ⟨"\"d\""⟩, isError := false }] }]

/-- A message item. -/
def messageItem (text : String) : Value :=
  .object [("content", .array [.object [("text", .string text), ("type", .string "output_text")]]),
    ("role", .string "assistant"), ("type", .string "message")]

/-- The items of the conversation: the call stands between the texts. -/
def mixedInput : List Value :=
  [messageItem "a", .object [("arguments", .string "\x7b\x7d"), ("call_id", .string "c"),
    ("name", .string "t"), ("type", .string "function_call")], messageItem "b",
    .object [("call_id", .string "c"), ("output", .string "d"),
      ("type", .string "function_call_output")]]

/-- The text of a message item. -/
def messageText (text : String) : String :=
  objectText ("\"content\":[" ++
    objectText ("\"text\":\"" ++ text ++ "\",\"type\":\"output_text\"") ++
    "],\"role\":\"assistant\",\"type\":\"message\"")

/-- The texts of the items. -/
def mixedText : String := ",".intercalate [messageText "a",
  objectText
    "\"arguments\":\"\x7b\x7d\",\"call_id\":\"c\",\"name\":\"t\",\"type\":\"function_call\"",
  messageText "b",
  objectText "\"call_id\":\"c\",\"output\":\"d\",\"type\":\"function_call_output\""]

/-- A schema and its text. -/
def objectSchema : Value := .object [("type", .string "object")]

def objectSchemaText : String := objectText "\"type\":\"object\""

/-- What is read and written of the conversation. -/
def mixedEntries : List Entry :=
  [.faithful "\x7b\x7d" (.object []), .faithful "\"d\"" (.string "d"),
    .faithful objectSchemaText objectSchema,
    .faithful (toolText mixedText objectSchemaText) (toolBody mixedInput objectSchema)]

theorem mixed_consistent : Consistent (fun _ => true) mixedEntries where
  plain := by
    simp only [mixedEntries, List.forall_mem_cons]
    exact ⟨plain_objectText "", ⟨by decide, by decide⟩, plain_objectText _,
      plain_objectText _, by simp⟩
  sizes := by decide +kernel
  value_inj := by simp [mixedEntries, Entry.faithful, objectSchema, toolBody]
  sound := by
    simp only [mixedEntries, List.forall_mem_cons]
    exact ⟨sound_faithful rfl (by decide), sound_faithful rfl (by decide),
      sound_faithful rfl (by decide), sound_faithful (strict_toolBody rfl rfl) (by decide), by simp⟩

theorem encodeInput_mixed : encodeInput (ofEntries mixedEntries) mixedMessages =
      .ok mixedInput := by
  have hcall : normalizeOutboundToolArguments (ofEntries mixedEntries) "\x7b\x7d" =
      .ok "\x7b\x7d" := by
    have hparse := parse_entry mixed_consistent (.head _) rfl rfl (by decide)
    simp only [Entry.faithful] at hparse
    rw [normalizeOutboundToolArguments, hparse]
    rfl
  have hresult : rawValue (ofEntries mixedEntries) ⟨"\"d\""⟩ = .ok (.string "d") := by
    have hparse := parse_entry mixed_consistent (.tail _ (.head _)) rfl rfl (by decide)
    simp only [Entry.faithful] at hparse
    rw [rawValue, hparse]
    rfl
  simp +decide [encodeInput, mixedMessages, encodeMessage, encodePart, encodeTextPart, contentType,
    flushMessageContent, encodeToolCall, hcall, encodeToolResult, hresult, ensure, okOr,
    Value.asStr, Value.ofMembers, mixedInput, messageItem]

/-- The conversation is read back, with a schema of its tool. -/
theorem mixed_round_trip :
    ∃ serde : SerdeJson, build serde "m" (toolRequest mixedMessages objectSchemaText) .streaming =
        .ok (toolText mixedText objectSchemaText) ∧
      ∃ decoded, decodeRequest serde (toolText mixedText objectSchemaText) = .ok decoded ∧
        Same serde (toolRequest mixedMessages objectSchemaText) .streaming decoded := by
  have hparse := parse_entry mixed_consistent (.tail _ (.tail _ (.head _))) rfl rfl (by decide)
  have hschema := schema_entry mixed_consistent (.tail _ (.tail _ (.head _))) rfl rfl
  have hwrite := mixed_consistent.write_entry (.tail _ (.tail _ (.tail _ (.head _)))) rfl
  have hbuild := build_tool encodeInput_mixed (by rw [rawValue, hparse]; rfl) rfl hwrite
  obtain ⟨hiff, hsame⟩ := official_round_trip mixed_consistent.lawful hbuild
    fun _ _ v _ => numbers_true v
  obtain ⟨decoded, hok⟩ := hiff.mpr fun definition hmem => by
    obtain rfl := List.mem_singleton.mp hmem
    intro v hv
    cases hschema.symm.trans hv
    decide
  exact ⟨_, hbuild, decoded, hok, hsame decoded hok⟩

/-! Schemas that are not read back -/

/-- A message with one text. -/
def plainMessages : List CanonicalMessage :=
  [{ role := ⟨"assistant"⟩, content := [.text { text := "a" }] }]

/-- The body with this schema, and its text. -/
def plainBody (parameters : Value) : Value := toolBody [messageItem "a"] parameters

def plainText (schemaText : String) : String := toolText (messageText "a") schemaText

theorem build_plain {schemaText body : String} {parameters : Value}
    (hparse : serde.parseStrictJson schemaText.toUTF8.data.toList maxToolArgumentBytes =
      some parameters) (hobject : parameters.isObject = true)
    (hwrite : serde.write (plainBody parameters) = some body) :
    build serde "m" (toolRequest plainMessages schemaText) .streaming = .ok body := by
  refine build_tool ?_ (by rw [rawValue, hparse]; rfl) hobject hwrite
  simp +decide [encodeInput, plainMessages, encodeMessage, encodePart, encodeTextPart, contentType,
    flushMessageContent, ensure, okOr, Value.ofMembers, messageItem]

/-- A schema that nests, and its text. -/
def nest : ℕ → Value
  | 0 => .object []
  | n + 1 => .object [("a", nest n)]

def nestText : ℕ → String
  | 0 => objectText ""
  | n + 1 => objectText ("\"a\":" ++ nestText n)

theorem depth_nest (n : ℕ) : depth (nest n) = n + 1 := by
  induction n with
  | zero => rfl
  | succ n ih => simp [nest, depth, depthMembers, ih]

theorem utf8ByteSize_nestText (n : ℕ) : (nestText n).utf8ByteSize = 6 * n + 2 := by
  induction n with
  | zero => rfl
  | succ n ih =>
    simp only [nestText, objectText, String.utf8ByteSize_append, ih]
    change 1 + (4 + (6 * n + 2)) + 1 = _
    omega

theorem strict_nest (n : ℕ) : strict (nest n) = some (nest n) := by
  induction n with
  | zero => rfl
  | succ n ih => simp [nest, strict, strictMembers, ih, Map.containsKey]

/-- The schema is read alone, but the body with it is not. -/
def deepEntries : List Entry :=
  [.faithful (nestText 124) (nest 124),
    ⟨plainText (nestText 124), some (plainBody (nest 124)), none⟩]

theorem deep_consistent : Consistent (fun _ => true) deepEntries where
  plain := by
    simp only [deepEntries, List.forall_mem_cons]
    exact ⟨plain_objectText _, plain_objectText _, by simp⟩
  sizes := by
    have hlonger : (nestText 124).utf8ByteSize < (plainText (nestText 124)).utf8ByteSize := by
      have hbrace : "\x7b".utf8ByteSize = 1 := rfl
      simp only [plainText, toolText, objectText, String.utf8ByteSize_append, hbrace]
      omega
    simpa [deepEntries, Entry.faithful] using hlonger.ne
  value_inj := by
    have hne : plainBody (nest 124) ≠ nest 124 := by
      rw [show nest 124 = .object [("a", nest 123)] from rfl]
      simp [plainBody, toolBody]
    simp [deepEntries, Entry.faithful, hne, hne.symm]
  sound := by
    have hdepth := depth_nest 124
    simp only [deepEntries, List.forall_mem_cons]
    refine ⟨sound_faithful (strict_nest 124) (by rw [hdepth]; decide), sound_deep ?_, by simp⟩
    simp [plainBody, toolBody, messageItem, depth, depthElements, depthMembers, hdepth, maxDepth]

/-- A schema with a number, and its text. -/
def bounded (bits : UInt64) : Value := .object [("maximum", .number (.float bits))]

def boundedText (digits : String) : String := objectText ("\"maximum\":" ++ digits)

/-- Two doubles in a row. -/
def below : UInt64 := 4621260479728497729

def above : UInt64 := 4621260479728497730

/-- The text is read as the first double, the shortest text of which is read as the second one: the
digits `9007659815799459` are no double, and the reader rounds them. -/
def readText : String := boundedText "9.007659815799458"

def shortestText : String := boundedText "9.007659815799459"

def aboveText : String := boundedText "9.00765981579946"

/-- What is read and written of the two numbers. -/
def roundedEntries : List Entry :=
  [⟨readText, none, some (bounded below)⟩,
    ⟨plainText shortestText, some (plainBody (bounded below)), some (plainBody (bounded above))⟩,
    .faithful aboveText (bounded above),
    .faithful (plainText aboveText) (plainBody (bounded above))]

/-- All numbers but the first double. -/
def isExact (number : Number) : Bool := number ≠ .float below

theorem rounded_consistent : Consistent isExact roundedEntries where
  plain := by
    simp only [roundedEntries, List.forall_mem_cons]
    exact ⟨plain_objectText _, plain_objectText _, plain_objectText _, plain_objectText _, by simp⟩
  sizes := by decide +kernel
  value_inj := by simp [roundedEntries, Entry.faithful, plainBody, toolBody, bounded, below, above]
  sound := by
    simp only [roundedEntries, List.forall_mem_cons]
    refine ⟨fun _ h => (nomatch h), sound_inexact (by decide) (by decide) _,
      sound_faithful rfl (by decide), sound_faithful (strict_toolBody rfl rfl) (by decide), by simp⟩

theorem decodeRequest_shortest : decodeRequest (ofEntries roundedEntries) (plainText shortestText) =
    decodeRequest (ofEntries roundedEntries) (plainText aboveText) := by
  have hread : (ofEntries roundedEntries).read (plainText shortestText).toUTF8.data.toList =
      (ofEntries roundedEntries).read (plainText aboveText).toUTF8.data.toList :=
    (rounded_consistent.read_entry (.tail _ (.head _)) (plain_objectText _).trimmed.symm).trans
      (rounded_consistent.read_entry (.tail _ (.tail _ (.tail _ (.head _))))
        (plain_objectText _).trimmed.symm).symm
  simp only [decodeRequest, rejectDuplicateJsonNames, SerdeJson.isDuplicateFree,
    SerdeJson.fromStr, hread]

/-- **What a body loses.** A schema of 125 levels is written and the body is refused. A number that
is not read back exactly is another one in the tool that is decoded. -/
theorem schemas_lost :
    (∃ serde : SerdeJson, serde.Lawful (fun _ => true) ∧
      build serde "m" (toolRequest plainMessages (nestText 124)) .streaming =
        .ok (plainText (nestText 124)) ∧
      ∀ decoded, decodeRequest serde (plainText (nestText 124)) ≠ .ok decoded) ∧
    ∃ serde : SerdeJson, serde.Lawful isExact ∧
      build serde "m" (toolRequest plainMessages readText) .streaming =
        .ok (plainText shortestText) ∧
      ∃ decoded, decodeRequest serde (plainText shortestText) = .ok decoded ∧
        ¬ Same serde (toolRequest plainMessages readText) .streaming decoded := by
  refine ⟨⟨_, deep_consistent.lawful, ?_⟩, _, rounded_consistent.lawful, ?_⟩
  · have hparse := parse_entry deep_consistent (.head _) rfl (strict_nest 124)
      (by simp only [Entry.faithful, utf8ByteSize_nestText]; decide)
    have hbuild := build_plain hparse rfl (deep_consistent.write_entry (.tail _ (.head _)) rfl)
    rcases build_reads deep_consistent.lawful hbuild fun _ _ v _ => numbers_true v with
      ⟨hfits, -⟩ | ⟨-, hrefused⟩
    · have hdeep :=
        hfits _ (.head _) _ (schema_entry deep_consistent (.head _) rfl (strict_nest 124))
      rw [depth_nest] at hdeep
      exact absurd hdeep (by decide)
    · exact ⟨hbuild, hrefused⟩
  · have hparse := parse_entry rounded_consistent (.head _) rfl rfl (by decide)
    have hbuild := build_plain hparse rfl (rounded_consistent.write_entry (.tail _ (.head _)) rfl)
    -- The body is read as that of a request with the second double, which is read back.
    have hparse' := parse_entry rounded_consistent (.tail _ (.tail _ (.head _))) rfl rfl (by decide)
    have hbuild' := build_plain hparse' rfl
      (rounded_consistent.write_entry (.tail _ (.tail _ (.tail _ (.head _)))) rfl)
    have hschema := schema_entry rounded_consistent (.head _) rfl rfl
    have hschema' := schema_entry rounded_consistent (.tail _ (.tail _ (.head _))) rfl rfl
    have hreads : ∀ v, (ofEntries roundedEntries).fromStr aboveText = some v →
        numbers isExact v = true ∧ depth v + 3 ≤ maxDepth := by
      intro v hv
      cases hschema'.symm.trans hv
      decide
    rcases build_reads rounded_consistent.lawful hbuild'
        (List.forall_mem_singleton.mpr fun v hv => (hreads v hv).1) with
      ⟨-, decoded, hok, hsame'⟩ | ⟨hdeep, -⟩
    · refine ⟨hbuild, decoded, decodeRequest_shortest.trans hok, fun hsame => ?_⟩
      have htools := hsame.tools.symm.trans hsame'.tools
      simp only [toolRequest, List.map_cons, List.cons.injEq, tool, Tool.mk.injEq] at htools
      cases hschema.symm.trans (htools.1.2.2.1.trans hschema')
    · exact absurd (List.forall_mem_singleton.mpr fun v hv => (hreads v hv).2) hdeep

end CpaGateway.Grok.OfficialRoundTrip
