import CpaGateway.Anthropic.WireGrammar
import Mathlib.Data.Option.Basic

/-! # What a client makes of the frames of the Anthropic encoder

A client of the stream puts the message together again: blocks with their fragments, the stop
fields, and the usage of the message start with what the message delta says about it. A client that
did not ask for a stream gets the message object. -/

namespace CpaGateway.Anthropic.Reassembly

open Anthropic.Blocks Anthropic.Coverage Anthropic.Encoder Anthropic.Encoder.Assembly
open Anthropic.WireGrammar Bridge.Meaning Core.Error Core.Events Core.Json Core.Grammar Core.Sse
open Lib.Effect Lib.Fallible Lib.Serial AnthropicMessagesSseEncoder

/-! ### The client -/

/-- A block that was started, with the JSON text that came for its input. -/
structure Draft where
  block : Map
  json : String := ""

namespace Draft

/-- A fragment for a text member of the block. -/
def append (d : Draft) (member text : String) : Option Draft := do
  let before ← (d.block.get member).bind Value.asStr
  return { d with block := d.block.insert member (.string (before ++ text)) }

def take (d : Draft) (delta : Value) : Option Draft := do
  match ← delta.getStr "type" with
  | "text_delta" => d.append "text" (← delta.getStr "text")
  | "thinking_delta" => d.append "thinking" (← delta.getStr "thinking")
  | "input_json_delta" => return { d with json := d.json ++ (← delta.getStr "partial_json") }
  | _ => none

/-- The block when it stops: JSON text that came is its input. -/
def finish (serde : SerdeJson) (d : Draft) : Option Value :=
  if d.json.isEmpty then some (.object d.block)
  else (serde.fromStr d.json).map fun input => .object (d.block.insert "input" input)

end Draft

/-- The usage with every field that an update has. -/
def override (usage update : Map) : Map :=
  update.foldl (fun m member => m.insert member.1 member.2) usage

/-- What a client has of a message. -/
structure Client where
  content : List Value := []
  draft : Option Draft := none
  stopReason : Option Value := none
  stopSequence : Option Value := none
  usage : Map := []

namespace Client

/-- The frame is about the block after the finished ones. -/
def Concerns (c : Client) (data : Value) : Prop :=
  (data.get "index").bind Value.asU64 = some (.ofNat c.content.length)

instance (c : Client) (data : Value) : Decidable (c.Concerns data) :=
  inferInstanceAs (Decidable (_ = _))

def startMessage (c : Client) (data : Value) : Option Client := do
  let message ← data.get "message"
  let usage ← (message.get "usage").bind Value.asObject
  return { c with usage }

def startBlock (c : Client) (data : Value) : Option Client := do
  guard (c.Concerns data ∧ c.draft.isNone)
  let block ← (data.get "content_block").bind Value.asObject
  return { c with draft := some { block } }

def takeDelta (c : Client) (data : Value) : Option Client := do
  guard (c.Concerns data)
  let draft ← c.draft
  let delta ← data.get "delta"
  let draft ← draft.take delta
  return { c with draft := some draft }

def stopBlock (serde : SerdeJson) (c : Client) (data : Value) : Option Client := do
  guard (c.Concerns data)
  let draft ← c.draft
  let block ← draft.finish serde
  return { c with content := c.content ++ [block], draft := none }

def endMessage (c : Client) (data : Value) : Option Client := do
  let delta ← data.get "delta"
  let usage ← (data.get "usage").bind Value.asObject
  return { c with
    stopReason := delta.get "stop_reason"
    stopSequence := delta.get "stop_sequence"
    usage := override c.usage usage }

def take (serde : SerdeJson) (c : Client) (frame : SseFrame) : Option Client := do
  match ← frame.data.getStr "type" with
  | "message_start" => c.startMessage frame.data
  | "content_block_start" => c.startBlock frame.data
  | "content_block_delta" => c.takeDelta frame.data
  | "content_block_stop" => c.stopBlock serde frame.data
  | "message_delta" => c.endMessage frame.data
  | "message_stop" => return c
  | _ => none

/-- Frames in turn. -/
def takeAll (serde : SerdeJson) (c : Client) (frames : List SseFrame) : Option Client :=
  frames.foldlM (take serde) c

end Client

/-- The part of a message that both clients read. -/
structure View where
  content : List Value
  stopReason : Value
  stopSequence : Value
  usage : Map

/-- The message a client of the stream has put together. -/
def streamView (serde : SerdeJson) (frames : List SseFrame) : Option View := do
  let c ← Client.takeAll serde {} frames
  let stopReason ← c.stopReason
  let stopSequence ← c.stopSequence
  guard c.draft.isNone
  return ⟨c.content, stopReason, stopSequence, c.usage⟩

def objectView (message : Value) : Option View := do
  let content ← (message.get "content").bind Value.asArray
  let stopReason ← message.get "stop_reason"
  let stopSequence ← message.get "stop_sequence"
  let usage ← (message.get "usage").bind Value.asObject
  return ⟨content, stopReason, stopSequence, usage⟩

/-! ### Blocks -/

/-- A block with this text: the one of its member, or the one for its input. -/
def draftOf (head : Head) (text : String) : Draft :=
  match head with
  | .content kind => { block := [(kind.asStr, .string text), ("type", .string kind.asStr)] }
  | .tool callId name =>
    { block := [("id", .string callId), ("input", .object []), ("name", .string name),
        ("type", .string "tool_use")]
      json := text }

/-- The block a client has in the end. -/
def blockOf (serde : SerdeJson) (b : Head × List String) : Option Value :=
  (draftOf b.1 (String.join b.2)).finish serde

theorem ofMembers_content (kind : ContentKind) (text : String) :
    Value.ofMembers [("type", .string kind.asStr), (kind.asStr, .string text)] =
      .object [(kind.asStr, .string text), ("type", .string kind.asStr)] := by
  cases kind <;> simp (disch := decide) [ContentKind.asStr, Value.ofMembers]

theorem ofMembers_tool (callId name : String) (input : Value) :
    Value.ofMembers [("type", .string "tool_use"), ("id", .string callId), ("name", .string name),
      ("input", input)] =
    .object [("id", .string callId), ("input", input), ("name", .string name),
      ("type", .string "tool_use")] := by
  simp (disch := decide) [Value.ofMembers]

variable {serde : SerdeJson}

section Frames

variable {c : Client}

theorem takeAll_cons (frame : SseFrame) (frames : List SseFrame) :
    c.takeAll serde (frame :: frames) = (c.take serde frame).bind (Client.takeAll serde · frames) :=
  List.foldlM_cons ..

theorem takeAll_append (frames rest : List SseFrame) :
    c.takeAll serde (frames ++ rest) =
      (c.takeAll serde frames).bind (Client.takeAll serde · rest) := List.foldlM_append ..

@[simp] theorem takeAll_nil : c.takeAll serde [] = some c := rfl

theorem concerns_index {data : Value} (h : data.get "index" = some (.ofIndex c.content.length)) :
    c.Concerns data := by
  rw [Client.Concerns, h]
  rfl

theorem startValue_head (head : Head) :
    startValue head.block = .object (draftOf head "").block := by
  cases head with
  | content kind => exact ofMembers_content kind ""
  | tool callId name => exact ofMembers_tool callId name (.object [])

theorem take_start (head : Head) (hdraft : c.draft = none) :
    c.take serde (writer.start c.content.length head) =
      some { c with draft := some (draftOf head "") } := by
  have hconcerns : c.Concerns (writer.start c.content.length head).data :=
    concerns_index (by simp [writer, startFrame, frame, Value.get_ofMembers])
  have hblock : ((writer.start c.content.length head).data.get "content_block").bind
      Value.asObject =
      some (draftOf head "").block := by
    simp [writer, startFrame, frame, Value.get_ofMembers, startValue_head, Value.asObject]
  have htype : (writer.start c.content.length head).data.getStr "type" =
      some "content_block_start" := by
    simp [Value.getStr, writer, startFrame, frame, Value.get_ofMembers, Value.asStr]
  simp only [Client.take, htype, Option.bind_eq_bind, Client.startBlock, hconcerns, hdraft, hblock,
    Option.isNone_none, and_self]
  cases head <;> rfl

theorem draft_take_part (head : Head) (index : ℕ) (text delta : String) :
    ((writer.part index head delta).data.get "delta").bind (draftOf head text).take =
      some (draftOf head (text ++ delta)) := by
  cases head with
  | content kind =>
    cases kind <;>
      simp [writer, contentDeltaFrame, deltaFrame, frame, Value.get_ofMembers, Draft.take,
        Value.getStr, ContentKind.asStr, Value.asStr, Draft.append, draftOf, Map.get]
  | tool callId name =>
    simp [writer, inputDeltaFrame, deltaFrame, frame, Value.get_ofMembers, Draft.take, Value.getStr,
      Value.asStr, draftOf]

theorem take_part (head : Head) (text delta : String) :
    Client.take serde { c with draft := some (draftOf head text) }
        (writer.part c.content.length head delta) =
      some { c with draft := some (draftOf head (text ++ delta)) } := by
  have hconcerns : Client.Concerns { c with draft := some (draftOf head text) }
      (writer.part c.content.length head delta).data :=
    concerns_index (by cases head <;>
      simp [writer, contentDeltaFrame, inputDeltaFrame, deltaFrame, frame, Value.get_ofMembers])
  have htype : (writer.part c.content.length head delta).data.getStr "type" =
      some "content_block_delta" := by
    cases head <;>
      simp [Value.getStr, writer, contentDeltaFrame, inputDeltaFrame, deltaFrame, frame,
        Value.get_ofMembers, Value.asStr]
  obtain ⟨data, hdata, htake⟩ :=
    Option.bind_eq_some_iff.mp (draft_take_part head c.content.length text delta)
  simp only [Client.take, htype, Option.bind_eq_bind, Option.bind_some, Client.takeDelta,
    hconcerns, hdata, htake]
  rfl

theorem take_stop (head : Head) (text : String) :
    Client.take serde { c with draft := some (draftOf head text) } (writer.stop c.content.length) =
      ((draftOf head text).finish serde).map fun block =>
        { c with content := c.content ++ [block], draft := none } := by
  have hconcerns : Client.Concerns { c with draft := some (draftOf head text) }
      (writer.stop c.content.length).data :=
    concerns_index (by simp [writer, stopFrame, frame, Value.get_ofMembers])
  have htype : (writer.stop c.content.length).data.getStr "type" = some "content_block_stop" := by
    simp [Value.getStr, writer, stopFrame, frame, Value.get_ofMembers, Value.asStr]
  simp only [Client.take, htype, Option.bind_eq_bind, Option.bind_some, Client.stopBlock, hconcerns]
  cases (draftOf head text).finish serde <;> rfl

theorem takeAll_parts (head : Head) (deltas : List String) (text : String) :
    Client.takeAll serde { c with draft := some (draftOf head text) }
        (deltas.map (writer.part c.content.length head)) =
      some { c with draft := some (draftOf head (text ++ String.join deltas)) } := by
  induction deltas generalizing text with
  | nil => simp
  | cons delta deltas ih =>
    rw [List.map_cons, takeAll_cons, take_part, Option.bind_some, ih, String.join_cons,
      String.append_assoc]

/-- **A block**: the client has it with its fragments put together. -/
theorem takeAll_block (b : Head × List String) (hdraft : c.draft = none) :
    c.takeAll serde (writer.block c.content.length b) =
      (blockOf serde b).map fun block => { c with content := c.content ++ [block] } := by
  rw [Writer.block, List.cons_append, takeAll_cons, take_start b.1 hdraft, Option.bind_some,
    takeAll_append, takeAll_parts, Option.bind_some, String.empty_append, takeAll_cons,
    take_stop, blockOf]
  cases (draftOf b.1 (String.join b.2)).finish serde with
  | none => rfl
  | some block => simp [hdraft]

/-- **Blocks**: the client has them in their order. -/
theorem takeAll_blocks (blocks : List (Head × List String)) (hcontent : c.content = [])
    (hdraft : c.draft = none) :
    c.takeAll serde (writer.blocks blocks) =
      (blocks.mapM (blockOf serde)).map fun content => { c with content } := by
  induction blocks using List.reverseRecOn with
  | nil => simp [Writer.blocks, ← hcontent]
  | append_singleton blocks b ih =>
    rw [Writer.blocks_concat, takeAll_append, ih, List.mapM_append]
    rcases hvalues : blocks.mapM (blockOf serde) with _ | values
    · simp
    · have hlength : blocks.length = values.length := (mapM_some.mp hvalues).length_eq
      have hblock : Client.takeAll serde { c with content := values } _ = _ :=
        takeAll_block b hdraft
      simp only [Option.map_some, Option.bind_some, hlength, hblock]
      cases h : blockOf serde b <;> simp [h]

end Frames

/-! ### The content -/

/-- What the reader of JSON texts is known for: it reads the empty object, and no value in a blank
text. -/
structure Reads (serde : SerdeJson) : Prop where
  empty : serde.fromStr "\x7b\x7d" = some (.object [])
  blank : ∀ text : String, (trim text).isEmpty = true → serde.fromStr text = none

variable {events : List CanonicalEvent} {values : List Value}

section Content

variable {callId name : String} {a : Assembly}

/-- The fragments of the call, if there are any, do not amount to a blank text. -/
def LegibleCall (events : List CanonicalEvent) (callId : String) : Prop :=
  (trim (String.join (fragments callId events))).isEmpty = true →
    String.join (fragments callId events) = ""

theorem join_sent (callId : String) (events : List CanonicalEvent) :
    String.join (sent callId events) = String.join (fragments callId events) := by
  rw [sent]
  induction fragments callId events with
  | nil => rfl
  | cons fragment rest ih =>
    by_cases h : fragment.isEmpty = true
    · obtain rfl := String.isEmpty_iff.mp h
      simp [ih]
    · simp [h, ih]

theorem join_sent_eq_empty : String.join (sent callId events) = "" ↔ sent callId events = [] := by
  constructor
  · intro h
    rcases hsent : sent callId events with _ | ⟨fragment, rest⟩
    · rfl
    · have hmem : fragment ∈ sent callId events := by simp [hsent]
      have hne := (List.mem_filter.mp hmem).2
      rw [hsent, String.join_cons, String.append_eq_empty_iff] at h
      simp [h.1] at hne
  · intro h
    rw [h]
    rfl

/-- The input of a call that the stream shows: what its fragments read as. -/
theorem blockOf_tool (deltas : List String) :
    blockOf serde (.tool callId name, deltas) =
      if (String.join deltas).isEmpty then some (.object (draftOf (.tool callId name) "").block)
      else (serde.fromStr (String.join deltas)).map fun input => .ofMembers
        [("type", .string "tool_use"), ("id", .string callId), ("name", .string name),
          ("input", input)] := by
  refine if_congr Iff.rfl rfl ?_
  simp (disch := decide) [draftOf, ofMembers_tool]

theorem normalize_ne_empty (arguments : String) :
    (normalizeToolArguments serde arguments).isEmpty = false := by
  unfold normalizeToolArguments
  split_ifs with h
  · rfl
  · have hne : arguments.isEmpty = false := by
      by_contra hempty
      obtain rfl := String.isEmpty_iff.mp (by simpa using hempty)
      exact h (by decide)
    split
    · rfl
    · exact hne

/-- A text that is not blank reads as its normalised form does. -/
theorem fromStr_normalize (hserde : Reads serde) {text : String} (h : (trim text).isEmpty = false) :
    serde.fromStr (normalizeToolArguments serde text) = serde.fromStr text := by
  unfold normalizeToolArguments
  rw [if_neg (by simp [h])]
  split
  case h_1 hread => rw [hread, hserde.empty]
  case h_2 => rfl

/-- **A call**: the stream shows its input iff its fragments are legible. -/
theorem blockOf_call_iff (hserde : Reads serde) {tool : ToolState} {input : Value}
    (h : Finished serde callId events tool input) :
    blockOf serde (.tool callId name, tool.argumentDeltas) =
      (ContentBlock.completedValue (.tool callId name (some input))).toOption ↔
    LegibleCall events callId := by
  obtain ⟨arguments, hcompleted, hinput, -, hagrees⟩ := h.ended
  have hobject : (ContentBlock.completedValue (.tool callId name (some input))).toOption =
      some (.ofMembers [("type", .string "tool_use"), ("id", .string callId),
        ("name", .string name), ("input", input)]) := rfl
  rw [hobject, blockOf_tool, h.deltas, LegibleCall, ← join_sent, inputDeltas]
  by_cases hsent : sent callId events = []
  · have hlegible : (trim (String.join (sent callId events))).isEmpty = true →
        String.join (sent callId events) = "" := fun _ => join_sent_eq_empty.mpr hsent
    refine iff_of_true ?_ hlegible
    rw [if_pos hsent, hcompleted]
    by_cases hempty : normalizeToolArguments serde arguments = "\x7b\x7d"
    · rw [hempty, hserde.empty, Option.some.injEq] at hinput
      subst hinput
      simp [hempty, ofMembers_tool, draftOf]
    · simp [hempty, normalize_ne_empty, hinput]
  · have hne : String.join (sent callId events) ≠ "" := fun h => hsent (join_sent_eq_empty.mp h)
    rw [if_neg hsent, if_neg (by simpa using hne)]
    by_cases hblank : (trim (String.join (sent callId events))).isEmpty = true
    · rw [hserde.blank _ hblank]
      exact iff_of_false (by simp) fun hlegible => hne (hlegible hblank)
    · refine iff_of_true ?_ fun h => absurd h hblank
      rw [← fromStr_normalize hserde (by simpa using hblank), hagrees hsent, hinput]
      rfl

theorem completedContent_ok {content : List ContentBlock} :
    completedContent content = .ok values ↔
      content.mapM (fun b => b.completedValue.toOption) = some values := by
  induction content generalizing values with
  | nil => simp [completedContent, eq_comm]
  | cons b content ih =>
    simp only [completedContent, List.mapM_cons, except_ok, ih, Option.bind_eq_bind,
      Option.bind_eq_some_iff, Option.pure_def]
    cases b.completedValue <;> simp [Except.toOption]

/-- **The content**: the stream shows the blocks of the message object iff the fragments of every
call are legible. -/
theorem blocks_iff (hserde : Reads serde) (hc : Covers serde events (ledger a))
    (hdone : ∀ (callId : String) (tool : ToolState), a.tools[callId]? = some tool →
      tool.completed = true) (hvalues : completedContent a.content = .ok values) :
    (queue a).blocks.mapM (blockOf serde) = some values ↔ ∀ callId, LegibleCall events callId := by
  have hledger : completedContent (ledger a).content = .ok values := by
    rw [completedContent_ok] at hvalues ⊢
    rw [ledger, List.mapM_map, ← hvalues]
    refine congrArg (a.content.mapM ·) (funext fun b => ?_)
    cases b <;> rfl
  rw [blocks_queue, List.mapM_map, mapM_some_iff (completedContent_ok.mp hledger)]
  constructor
  · intro hagree callId
    rcases ht : (ledger a).tools callId with _ | tool
    · intro _
      rw [← join_sent, (hc.unknown callId ht).1]
      rfl
    · obtain ⟨name, input, hb, -⟩ := hc.call callId tool ht
      have hmem := List.mem_of_getElem? hb
      obtain ⟨tool', value, ht', rfl, hfinished⟩ := finished_of_block hc hdone hmem
      have hblock := hagree _ hmem
      simp only [Function.comp_apply, Ledger.block, ht'] at hblock
      exact (blockOf_call_iff hserde hfinished).mp hblock
  · intro hlegible b hb
    cases b with
    | content kind s =>
      obtain ⟨i, hi⟩ := List.getElem?_of_mem hb
      simp only [Function.comp_apply, ContentBlock.completedValue, ofMembers_content,
        hc.value i kind s hi]
      rfl
    | tool callId name input =>
      obtain ⟨tool, value, ht, rfl, hfinished⟩ := finished_of_block hc hdone hb
      simp only [Function.comp_apply, Ledger.block, ht]
      exact (blockOf_call_iff hserde hfinished).mpr (hlegible callId)

end Content

/-! ### The usage -/

/-- The members of a usage, by name. -/
def counts (input : Option UInt64) (output : UInt64) (cacheRead cacheCreation : Option UInt64) :
    Map :=
  optionalNumber "cache_creation_input_tokens" cacheCreation ++
    optionalNumber "cache_read_input_tokens" cacheRead ++ optionalNumber "input_tokens" input ++
    [("output_tokens", .ofU64 output)]

theorem initialUsageValue_eq (usage : Option Usage) :
    initialUsageValue usage = .object (counts (usage.bind (·.inputTokens)) 0
      (usage.bind (·.cacheReadTokens)) (usage.bind (·.cacheCreationTokens))) := by
  rcases usage with _ | ⟨_ | input, output, reasoning, _ | read, _ | creation, cached, extensions⟩
    <;>
    simp (disch := decide) [initialUsageValue, anthropicCacheUsage, optionalNumber, counts,
      Value.ofMembers]

theorem completedUsageValue_ok {usage : Usage} {value : Value} :
    completedUsageValue usage = .ok value ↔ ∃ input output, usage.inputTokens = some input ∧
      usage.outputTokens = some output ∧ value = .object
        (counts (some input) output usage.cacheReadTokens usage.cacheCreationTokens) := by
  simp only [completedUsageValue, except_ok]
  rcases usage with ⟨input, output, reasoning, _ | read, _ | creation, cached, extensions⟩ <;>
    simp (disch := decide) [anthropicCacheUsage, optionalNumber, counts, Value.ofMembers, eq_comm]

theorem insert_counts (input read creation : Option UInt64) (output count : UInt64) :
    (counts input output read creation).insert "output_tokens" (.ofU64 count) =
      counts input count read creation ∧
    (counts input output read creation).insert "input_tokens" (.ofU64 count) =
      counts (some count) output read creation ∧
    (counts input output read creation).insert "cache_read_input_tokens" (.ofU64 count) =
      counts input output (some count) creation ∧
    (counts input output read creation).insert "cache_creation_input_tokens" (.ofU64 count) =
      counts input output read (some count) := by
  cases input <;> cases read <;> cases creation <;> simp (disch := decide) [counts, optionalNumber]

theorem override_counts (input input' read read' creation creation' : Option UInt64)
    (output output' : UInt64) :
    override (counts input output read creation) (counts input' output' read' creation') =
      counts (input'.or input) output' (read'.or read) (creation'.or creation) := by
  rw [override, counts.eq_1 input']
  cases input' <;> cases read' <;> cases creation' <;> simp [optionalNumber, insert_counts]

theorem override_output (input read creation : Option UInt64) (output output' : UInt64) :
    override (counts input output read creation) [("output_tokens", .ofU64 output')] =
      counts input output' read creation :=
  override_counts input none read none creation none output output'

theorem counts_inj {input input' read read' creation creation' : Option UInt64}
    {output output' : UInt64} :
    counts input output read creation = counts input' output' read' creation' ↔
      creation = creation' ∧ read = read' ∧ input = input' ∧ output = output' := by
  cases input <;> cases input' <;> cases read <;> cases read' <;> cases creation <;>
    cases creation' <;>
    simp [optionalNumber, counts, Value.ofU64]

/-- A later report of the count replaces the earlier one. -/
def Merges (count : Usage → Option UInt64) : Prop :=
  ∀ previous update, count (mergeUsage previous update) = (count update).or (previous.bind count)

theorem usageOf_keeps {count : Usage → Option UInt64} (hmerge : Merges count)
    (events : List CanonicalEvent) (usage : Option Usage) :
    ((events.foldl usageStep usage).bind count).or (usage.bind count) =
      (events.foldl usageStep usage).bind count := by
  induction events generalizing usage with
  | nil => simp
  | cons e events ih =>
    rw [List.foldl_cons]
    rcases hlast : (events.foldl usageStep (usageStep usage e)).bind count with _ | n
    · have hstep := ih (usageStep usage e)
      rw [hlast] at hstep
      cases e with
      | usageDelta delta =>
        have hupdate : (count delta.usage).or (usage.bind count) = none :=
          (hmerge usage delta.usage).symm.trans hstep
        exact (Option.or_eq_none_iff.mp hupdate).2
      | _ => exact hstep
    · rfl

theorem merges_cache : Merges (·.cacheReadTokens) ∧ Merges (·.cacheCreationTokens) := by
  refine ⟨fun previous update => ?_, fun previous update => ?_⟩
  · cases previous <;> cases h : update.cacheReadTokens <;> simp [mergeUsage]
  · cases previous <;> cases h : update.cacheCreationTokens <;> simp [mergeUsage]

def inputCounts (usage : Option Usage) : Option UInt64 × Option UInt64 × Option UInt64 :=
  (usage.bind (·.inputTokens), usage.bind (·.cacheReadTokens), usage.bind (·.cacheCreationTokens))

/-- The input count is not known when the message starts, or no input count changes after that. -/
def Settled (events : List CanonicalEvent) : Prop :=
  (usageOf (preamble events)).bind (·.inputTokens) = none ∨
    inputCounts (usageOf (preamble events)) = inputCounts (usageOf events)

variable {usage : Usage}

section Usage

variable {update total : Value}

theorem usageOf_preamble_or {count : Usage → Option UInt64} (hmerge : Merges count)
    (husage : usageOf events = some usage) :
    (count usage).or ((usageOf (preamble events)).bind count) = count usage := by
  have hkeeps := usageOf_keeps hmerge (events.dropWhile fun e => !isMessageStart e)
    (usageOf (preamble events))
  rw [usageOf, preamble, ← List.foldl_append, List.takeWhile_append_dropWhile] at hkeeps
  rw [usageOf] at husage
  rw [husage] at hkeeps
  exact hkeeps

/-- **The usage**: the one the stream shows is the one of the message object iff it was settled. -/
theorem override_iff (husage : usageOf events = some usage)
    (hupdate : outputUsageValue usage ((usageOf (preamble events)).bind (·.inputTokens)).isNone =
      .ok update) (htotal : completedUsageValue usage = .ok total) :
    ∃ start update' total', (initialUsageValue (usageOf (preamble events))) = .object start ∧
      update = .object update' ∧ total = .object total' ∧
      (override start update' = total' ↔ Settled events) := by
  obtain ⟨input, output, hinput, houtput, rfl⟩ := completedUsageValue_ok.mp htotal
  rw [Settled, husage]
  simp only [outputUsageValue, except_ok, houtput, Option.some.injEq, exists_eq_left'] at hupdate
  rcases hstart : (usageOf (preamble events)).bind (·.inputTokens) with _ | first
  · simp only [hstart, Option.isNone_none, if_true] at hupdate
    rw [htotal, Except.ok.injEq] at hupdate
    refine ⟨_, _, _, initialUsageValue_eq _, hupdate.symm, rfl, ?_⟩
    rw [override_counts, usageOf_preamble_or merges_cache.1 husage,
      usageOf_preamble_or merges_cache.2 husage]
    simp
  · simp only [hstart, Option.isNone_some, Bool.false_eq_true, if_false, pure_ok_iff] at hupdate
    have hmembers : update = .object [("output_tokens", .ofU64 output)] := hupdate.symm
    refine ⟨_, _, _, initialUsageValue_eq _, hmembers, rfl, ?_⟩
    rw [override_output, counts_inj]
    simp only [inputCounts, hstart, hinput, Option.bind_some, Prod.mk.injEq, reduceCtorEq, false_or,
      and_true]
    exact ⟨fun h => ⟨h.2.2, h.2.1, h.1⟩, fun h => ⟨h.2.2, h.2.1, h.1⟩⟩

end Usage

/-! ### The message -/

def streamFrames (serde : SerdeJson) (response : CanonicalResponse)
    (metadata : AnthropicResponseMetadata) : Except GatewayError (List SseFrame) :=
  ((Method.collect (encodeEvent serde) response.events).call
    (.new metadata)).1

section Message

variable {metadata : AnthropicResponseMetadata} {c : Client} {response : CanonicalResponse}
  {message : Value} {r : ResponseEnd} {a : Assembly} {id reason : String} {frames : List SseFrame}

theorem take_messageStart {start : Map} {usage : Option Usage}
    (h : initialUsageValue usage = .object start) :
    c.take serde (messageStartFrame id metadata usage) = some { c with usage := start } := by
  simp [Client.take, Value.getStr, messageStartFrame, frame, Value.get_ofMembers, Value.asStr,
    Client.startMessage, h, Value.asObject]

theorem take_end (sequence : Option String) (update : Map) :
    c.takeAll serde [messageDeltaFrame reason sequence (.object update), messageStopFrame] =
      some { c with
        stopReason := some (.string reason)
        stopSequence := some (.ofOption sequence)
        usage := override c.usage update } := by
  simp [Client.takeAll, Client.take, Value.getStr, messageDeltaFrame, messageStopFrame, frame,
    Value.get_ofMembers, Value.asStr, Client.endMessage, Value.asObject]

theorem streamView_written {start update : Map} {usage : Option Usage}
    {blocks : List (Head × List String)} {sequence : Option String}
    (hstart : initialUsageValue usage = .object start) :
    streamView serde (messageStartFrame id metadata usage :: writer.blocks blocks ++
        [messageDeltaFrame reason sequence (.object update), messageStopFrame]) =
      (blocks.mapM (blockOf serde)).map fun content =>
        ⟨content, .string reason, .ofOption sequence, override start update⟩ := by
  rw [streamView, List.cons_append, takeAll_cons, take_messageStart hstart, Option.bind_some,
    takeAll_append, takeAll_blocks blocks rfl rfl]
  cases blocks.mapM (blockOf serde) with
  | none => rfl
  | some content =>
    rw [Option.map_some, Option.bind_some, take_end]
    rfl

theorem objectView_completed (h : a.completedValue metadata = .ok message)
    (husage : a.usage = some usage) (hreason : a.stopReason = some reason) :
    ∃ content total, completedContent a.content = .ok content ∧
      completedUsageValue usage = .ok (.object total) ∧
      objectView message = some ⟨content, .string reason, .ofOption a.stopSequence, total⟩ := by
  simp only [completedValue, husage, hreason, except_ok, Option.some.injEq, exists_eq_left'] at h
  obtain ⟨id, -, content, hcontent, total, htotal, rfl⟩ := h
  obtain ⟨input, output, hinput, houtput, rfl⟩ := completedUsageValue_ok.mp htotal
  refine ⟨content, _, hcontent, htotal, ?_⟩
  simp [objectView, Value.get_ofMembers, Value.asArray, Value.asObject]

theorem settled_snoc_end : Settled (events ++ [.responseEnd r]) ↔ Settled events := by
  have hpreamble : usageOf (preamble (events ++ [.responseEnd r])) = usageOf (preamble events) := by
    by_cases hstarted : HasStarted events
    · rw [preamble_append hstarted]
    · have hnot : ¬ HasStarted (events ++ [.responseEnd r]) := by
        rintro ⟨e, he, hstart⟩
        rcases List.mem_append.mp he with he | he
        · exact hstarted ⟨e, he, hstart⟩
        · rw [List.mem_singleton.mp he] at hstart
          cases hstart
      rw [preamble_of_not hnot, preamble_of_not hstarted, usageOf_snoc]
      rfl
  rw [Settled, hpreamble, usageOf_snoc]
  rfl

/-- The fragments of every call are legible. -/
def Legible (events : List CanonicalEvent) : Prop := ∀ callId, LegibleCall events callId

/-- **Both clients see the same message** iff the input counts are settled when the message starts
and the fragments of every call are legible. -/
theorem reassembly_iff (hserde : Reads serde)
    (h : encodeResponse serde response metadata = .ok message) :
    ∃ frames, streamFrames serde response metadata = .ok frames ∧
      (streamView serde frames = objectView message ↔
        Settled response.events ∧ Legible response.events) := by
  obtain ⟨events, r, hevents, -, -⟩ := (checkResponse_iff_body _).mp response.checked
  rw [encodeResponse] at h
  rw [streamFrames]
  rcases hrun : (Method.collect (encodeEvent serde)
    response.events).call (.new metadata) with ⟨_ | frames, encoder⟩
  · simp [hrun] at h
  refine ⟨frames, rfl, ?_⟩
  simp only [hrun, ok_bind, intoCompletedResponse, bind_ok_iff] at h
  obtain ⟨-, -, hmessage⟩ := h
  rw [hevents] at hrun
  obtain ⟨a, id, reason, usage, update, hended, -, -, hassembly⟩ := ended_of_run hrun
  rw [hassembly] at hmessage
  obtain ⟨content, total, hcontent, htotal, hobject⟩ :=
    objectView_completed hmessage (hended.counted.trans hended.reported) rfl
  obtain ⟨start, update', total', hstart, rfl, htotal', husage⟩ :=
    override_iff hended.reported hended.repaid htotal
  obtain rfl := Value.object.inj htotal'
  have hblocks := blocks_iff hserde hended.covers hended.complete.tools hcontent
  have hlegible : Legible response.events ↔ ∀ callId, LegibleCall events callId := by
    have hsame : ∀ callId, fragments callId response.events = fragments callId events := by
      simp [hevents, fragments, fragmentOf]
    simp only [Legible, LegibleCall, hsame]
  rw [hended.written, streamView_written hstart, hobject, hlegible, hevents, settled_snoc_end,
    ← husage, ← hblocks]
  cases (queue a).blocks.mapM (blockOf serde) <;> simp [and_comm]

end Message

/-! ### Samples -/

def readUsage (member : String) (events : List CanonicalEvent) :
    Except GatewayError (Option UInt64 × Option UInt64) := do
  let response ← CanonicalResponse.tryNew events
  let frames ← streamFrames sampleSerde response sampleMetadata
  let message ← encodeResponse sampleSerde response sampleMetadata
  let count (view : Option View) := (view.bind (·.usage.get member)).bind Value.asU64
  return (count (streamView sampleSerde frames), count (objectView message))

/-- The sample response, with cache counts that are reported after its message. -/
def lateCounts : List CanonicalEvent :=
  [.responseStart { responseId := .lit "r" },
    .usageDelta { usage := { inputTokens := some 1 }, isFinal := false },
    .messageStart { role := ⟨"assistant"⟩ }, .textDelta { text := "a" }, .messageEnd {},
    .usageDelta { usage := { outputTokens := some 2, cacheReadTokens := some 3 }, isFinal := true },
    .responseEnd { stopReason := some "end_turn" }]

/-- The message object has a cache count that no frame has, and a call whose one fragment is a blank
has an input in the message object only. -/
theorem clients_differ :
    readUsage "cache_read_input_tokens" lateCounts = .ok (none, some 3) ∧
    readUsage "input_tokens"
      (sampleResponse (sampleCall [" "] "\x7b\x7d") ++ [.responseEnd sampleEnd]) =
      .ok (none, some 1) := by
  decide +kernel

theorem reads_sampleSerde : Reads sampleSerde where
  empty := by rfl
  blank text h := by
    refine SerdeJson.fromStr_ofTable_eq_none fun entry hentry heq => ?_
    subst heq
    simp only [List.mem_cons, List.not_mem_nil, or_false] at hentry
    rcases hentry with rfl | rfl
    · revert h
      decide +kernel
    · revert h
      decide +kernel

def checkedSample : CanonicalResponse where
  events := sampleResponse (sampleCall [sampleArguments] sampleArguments) ++
    [.responseEnd sampleEnd]
  checked := by decide +kernel

/-- Both clients of the sample see the same. -/
theorem reassembly_sample :
    ∃ message frames, encodeResponse sampleSerde checkedSample sampleMetadata = .ok message ∧
      streamFrames sampleSerde checkedSample sampleMetadata = .ok frames ∧
      streamView sampleSerde frames = objectView message := by
  have haccepted : (encodeResponse sampleSerde checkedSample sampleMetadata).isOk = true := by
    decide +kernel
  rcases hmessage : encodeResponse sampleSerde checkedSample sampleMetadata with _ | message
  · rw [hmessage] at haccepted
    cases haccepted
  · obtain ⟨frames, hframes, hview⟩ := reassembly_iff reads_sampleSerde hmessage
    refine ⟨message, frames, rfl, hframes, hview.mpr ⟨.inr rfl, fun callId hblank => ?_⟩⟩
    by_cases hcall : "1" = callId
    · subst hcall
      revert hblank
      decide +kernel
    · have hnone : fragments callId checkedSample.events = [] := by
        simp [checkedSample, sampleResponse, sampleCall, fragments, fragmentOf, hcall]
      rw [hnone]
      rfl

end CpaGateway.Anthropic.Reassembly
