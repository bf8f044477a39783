import CpaGateway.Bridge.Meaning
import CpaGateway.Lib.History
import CpaGateway.Responses.Items

/-! # What the Responses encoder writes

Every accepted event is a few steps of the output items, and the frames of it are the frames of
those steps, numbered on. `Story` is the run of the encoder without its state: the events, the items
they leave and the entries they write. -/

namespace CpaGateway.Responses.Writing

open Bridge.Meaning Core.Events Core.Grammar Core.Json Core.Sse Lib.Effect Lib.Fallible
open Lib.History Lib.Journal Responses.Encoder Responses.Encoder.OpenAiResponsesSseEncoder
open Responses.Items CanonicalEventState Item Head

/-! ### Numbers -/

def numberedFrame (number : ℕ) (frame : String × List (String × Value)) : SseFrame where
  event := frame.1
  data := .ofMembers (frame.2 ++ [("type", .string frame.1),
    ("sequence_number", .ofU64 (.ofNat number))])
  semantic := true

def numbered (first : ℕ) (frames : List (String × List (String × Value))) : List SseFrame :=
  frames.mapIdx fun k frame => numberedFrame (first + k) frame

variable {c c' : OpenAiResponsesSseEncoder} {out : List SseFrame}

section Numbers

variable {frames frames' : List (String × List (String × Value))}

@[simp] theorem numbered_nil (first : ℕ) : numbered first [] = [] := rfl

theorem numbered_append (first : ℕ) :
    numbered first (frames ++ frames') =
      numbered first frames ++ numbered (first + frames.length) frames' := by
  simp [numbered, List.mapIdx_append, Nat.add_assoc, Nat.add_comm frames.length]

/-- The encoder after so many more frames. -/
def advance (c : OpenAiResponsesSseEncoder) (count : ℕ) : OpenAiResponsesSseEncoder :=
  { c with nextSequenceNumber := c.nextSequenceNumber + .ofNat count }

theorem frame_ok {event : String} {data : List (String × Value)} {f : SseFrame} :
    (frame event data).call c = (.ok f, c') ↔
      f = numberedFrame c.nextSequenceNumber.toNat (event, data) ∧
        c.nextSequenceNumber.toNat + 1 < 2 ^ 64 ∧ c' = advance c 1 := by
  simp only [frame, call_ok, checkedAdd]
  constructor
  · rintro ⟨next, hnext, _, rfl, rfl⟩
    split_ifs at hnext with hlt
    cases hnext
    exact ⟨by simp [numberedFrame], hlt, rfl⟩
  · rintro ⟨rfl, hlt, rfl⟩
    refine ⟨c.nextSequenceNumber + 1, if_pos hlt, (), ?_, rfl⟩
    simp [numberedFrame]

theorem advance_number {count : ℕ} (h : c.nextSequenceNumber.toNat + count < 2 ^ 64) :
    (advance c count).nextSequenceNumber.toNat = c.nextSequenceNumber.toNat + count := by
  rw [advance, UInt64.toNat_add, UInt64.toNat_ofNat', Nat.add_mod_mod, Nat.mod_eq_of_lt h]

theorem advance_zero : advance c 0 = c := by
  rw [advance, show UInt64.ofNat 0 = 0 from rfl, UInt64.add_zero]

theorem advance_advance (i j : ℕ) : advance (advance c i) j = advance c (i + j) := by
  simp [advance, UInt64.add_assoc]

/-- The encoder writes these frames, below the largest number. -/
structure Emits (c : OpenAiResponsesSseEncoder) (frames : List (String × List (String × Value)))
    (out : List SseFrame) (c' : OpenAiResponsesSseEncoder) : Prop where
  written : out = numbered c.nextSequenceNumber.toNat frames
  fits : c.nextSequenceNumber.toNat + frames.length < 2 ^ 64
  after : c' = advance c frames.length

theorem emits_nil (c : OpenAiResponsesSseEncoder) : Emits c [] [] c :=
  ⟨rfl, c.nextSequenceNumber.toNat_lt, advance_zero.symm⟩

theorem Emits.append {out' : List SseFrame} {c'' : OpenAiResponsesSseEncoder}
    (h : Emits c frames out c') (h' : Emits c' frames' out' c'') :
    Emits c (frames ++ frames') (out ++ out') c'' := by
  obtain ⟨rfl, hfits, rfl⟩ := h
  obtain ⟨rfl, hfits', rfl⟩ := h'
  rw [advance_number hfits] at hfits'
  refine ⟨?_, ?_, ?_⟩
  · rw [numbered_append, advance_number hfits]
  · rwa [List.length_append, ← Nat.add_assoc]
  · rw [advance_advance, List.length_append]

/-- **The numbers of frames** run on. -/
theorem framesOf_ok : (framesOf frames).call c = (.ok out, c') ↔ Emits c frames out c' := by
  induction frames generalizing c c' out with
  | nil =>
    simp only [framesOf, call_pure_ok]
    constructor
    · rintro ⟨rfl, rfl⟩
      exact emits_nil c
    · rintro ⟨rfl, -, rfl⟩
      exact ⟨rfl, advance_zero.symm⟩
  | cons frame rest ih =>
    obtain ⟨event, data⟩ := frame
    simp only [framesOf, call_ok, frame_ok, ih]
    constructor
    · rintro ⟨_, _, ⟨rfl, hfirst, rfl⟩, _, _, hrest, rfl, rfl⟩
      have hone : Emits c [(event, data)] _ _ := ⟨rfl, hfirst, rfl⟩
      exact hone.append hrest
    · rintro ⟨rfl, hlt, rfl⟩
      rw [List.length_cons] at hlt ⊢
      have hfirst : c.nextSequenceNumber.toNat + 1 < 2 ^ 64 := by omega
      refine ⟨_, _, ⟨rfl, hfirst, rfl⟩, _, _, ⟨rfl, ?_, rfl⟩, ?_, ?_⟩
      · rw [advance_number hfirst]
        omega
      · simp [advance_number hfirst, numbered, Nat.add_assoc, Nat.add_comm 1]
      · rw [advance_advance, Nat.add_comm 1]

end Numbers

/-! ### Events and steps -/

def itemId (responseId kind : String) (index : ℕ) : String :=
  kind ++ "_" ++ responseId ++ "_" ++ toString index

/-- The open item of a kind, if there is one, is closed with the text it was sent. -/
inductive Closes (items : List Output) (kind : String → Head) : List OutputEntry → Prop
  | none (h : ∀ i id, ¬ Open items i (kind id)) : Closes items kind []
  | some {i : ℕ} {id : String} {parts : List String}
    (hi : items[i]? = some ⟨kind id, parts, none⟩) :
    Closes items kind [.closed i (kind id) (String.join parts)]

inductive Wrote (responseId : String) (items : List Output) :
    CanonicalEvent → List OutputEntry → Prop
  | messageStart (e : MessageStart) : Wrote responseId items (.messageStart e) []
  | usage (e : UsageDelta) : Wrote responseId items (.usageDelta e) []
  | text {i : ℕ} {id : String} (e : TextDelta) (hopen : Open items i (.message id)) :
    Wrote responseId items (.textDelta e) [.part i (.message id) e.text]
  | firstText (e : TextDelta) (hnone : ∀ i id, ¬ Open items i (.message id)) :
    Wrote responseId items (.textDelta e)
      [.opened items.length (.message (itemId responseId "msg" items.length)),
        .part items.length (.message (itemId responseId "msg" items.length)) e.text]
  | reasoning {i : ℕ} {id : String} (e : ReasoningDelta) (hopen : Open items i (.reasoning id)) :
    Wrote responseId items (.reasoningDelta e) [.part i (.reasoning id) e.text]
  | firstReasoning (e : ReasoningDelta) (hnone : ∀ i id, ¬ Open items i (.reasoning id)) :
    Wrote responseId items (.reasoningDelta e)
      [.opened items.length (.reasoning (itemId responseId "rsn" items.length)),
        .part items.length (.reasoning (itemId responseId "rsn" items.length)) e.text]
  | call (e : ToolCallStart) :
    Wrote responseId items (.toolCallStart e)
      [.opened items.length (.call (itemId responseId "fc" items.length) e.callId e.name)]
  | fragment {i : ℕ} {id name : String} (e : ToolCallArgumentsDelta)
    (hopen : Open items i (.call id e.callId name)) :
    Wrote responseId items (.toolCallArgumentsDelta e) [.part i (.call id e.callId name) e.delta]
  | callEnd {i : ℕ} {id name : String} {parts : List String} (e : ToolCallEnd)
    (hi : items[i]? = some ⟨.call id e.callId name, parts, none⟩)
    (harguments : parts ≠ [] → String.join parts = e.arguments.get) :
    Wrote responseId items (.toolCallEnd e) [.closed i (.call id e.callId name) e.arguments.get]
  | messageEnd {reasoning text : List OutputEntry} (e : MessageEnd)
    (hreasoning : Closes items .reasoning reasoning) (htext : Closes items .message text) :
    Wrote responseId items (.messageEnd e) (reasoning ++ text)

/-- The usage the response object shows. -/
def Counted (usage : Option Usage) (value : Option Value) : Prop :=
  match usage with
  | none => value = none
  | some usage => ∃ v, usageValue usage = .ok v ∧ value = some v

structure Holds (events : List CanonicalEvent) (s : ResponseState) (items : List Output) :
    Prop where
  mirrors : Mirrors s items
  named : (meaning events).responseId = some s.responseId
  message : s.message.isSome = true ↔ MessageOpen events
  tools : ∀ callId, s.tools.contains callId = true ↔ Started callId events ∧ ¬ Ended callId events
  counted : Counted (meaning events).usage s.usage

variable {events : List CanonicalEvent} {e : CanonicalEvent}

section Events

variable {s s' : ResponseState} {m : MessageState} {items items' : List Output}
  {entries : List OutputEntry} {delta callId : String}

open ResponseState

theorem onResponse_ok {α : Type} {update : ResponseState.Update α} {a : α}
    (hs : c.response = some s) :
    (onResponse update).call c = (.ok a, c') ↔ ∃ s', update.call s = (.ok a, s') ∧
      c' = { c with response := some s' } := by
  simp only [onResponse, call_ok]
  constructor
  · rintro ⟨_, hs', _, ha, rfl⟩
    cases hs.symm.trans hs'
    exact ⟨_, Prod.ext ha rfl, rfl⟩
  · rintro ⟨s', hcall, rfl⟩
    exact ⟨s, hs, (), by rw [hcall], by rw [hcall]⟩

/-- Steps of the response, and which message and calls are open afterwards. -/
structure Moves (s : ResponseState) (items : List Output) (entries : List OutputEntry)
    (s' : ResponseState) (message : Bool) (calls : String → Prop) : Prop where
  steps : ∃ items', Steps items entries items' ∧ Mirrors s' items'
  named : s'.responseId = s.responseId
  message : s'.message.isSome = message
  tools : ∀ callId, s'.tools.contains callId = true ↔ calls callId
  usage : s'.usage = s.usage

def textFrames (a : TextAppended) (delta : String) : List (String × List (String × Value)) :=
  (a.item.toList.map (outputItemAddedFrame a.outputIndex)) ++
    (if a.partAdded then [contentPartAddedFrame a.outputIndex a.itemId a.contentIndex] else []) ++
    [textDeltaFrame a.outputIndex a.itemId a.contentIndex delta]

theorem steps_first (items : List Output) (head : Head) (part : String) :
    Steps items [.opened items.length head, .part items.length head part]
      ((items ++ [begin head]).set items.length ((begin head).extend part)) :=
  .cons (.opened items head) (Step.part List.getElem?_concat_length rfl part).steps

section

variable (h : Mirrors s items)

include h

theorem nextItemId_eq (kind : String) :
    s.nextItemId kind = itemId s.responseId kind items.length := by
  rw [← h.length]
  rfl

theorem no_reasoning (hm : s.message = some m) (hj : m.reasoningOutputIndex = none) (i : ℕ)
    (id : String) : ¬ Open items i (.reasoning id) := by
  have hslot : ¬ ∃ id, Open items i (.reasoning id) := by simp [h.reasoning, reasoningSlot, hm, hj]
  exact fun hopen => hslot ⟨id, hopen⟩

theorem appendText_ok {d : TextDelta} {a : TextAppended}
    (hm : s.message = some m) (hcall : (appendText d.text).call s = (.ok a, s')) :
    ∃ entries, Wrote s.responseId items (.textDelta d) entries ∧
      Moves s items entries s' s.message.isSome (· ∈ s.tools) ∧
      a.itemAdded = a.item.isSome ∧ textFrames a d.text = entries.flatMap entryFrames := by
  obtain ⟨hrole, hnamed, hpart⟩ := h.shape m hm
  rcases hi : m.outputIndex with _ | i
  · have hid : m.itemId = none := by simpa [hi] using hnamed
    rw [hi, Option.map_none] at hpart
    have hnone : ∀ i id, ¬ Open items i (.message id) := by simp [h.text, textSlot, hm, hi]
    have hmirrors := (h.openMessage hm hi (s.nextItemId "msg")).firstPart rfl (by simp) d.text
    rw [appendText_first hm hrole hi hid hpart] at hcall
    cases hcall
    rw [h.length, nextItemId_eq h] at hmirrors ⊢
    exact ⟨_, .firstText d hnone, ⟨⟨_, steps_first items _ _, hmirrors⟩, rfl, by simp [hm],
      fun _ => Iff.rfl, rfl⟩, rfl, rfl⟩
  · obtain ⟨id, hid⟩ : ∃ id, m.itemId = some id := by
      rw [← Option.isSome_iff_exists, hnamed, hi]
      rfl
    rw [hi] at hpart
    obtain ⟨parts, hitem⟩ := (h.text i id).mpr (by simp [textSlot, hm, hi, hid])
    have happend : OutputItem.appendText 0 d.text (outputItem ⟨.message id, parts, none⟩) =
        some (outputItem (extend ⟨.message id, parts, none⟩ d.text)) := by
      simp [outputItem, extend, item, OutputItem.appendText]
    rw [appendText_more hm hrole hi hid hpart (h.lookup hitem) happend] at hcall
    cases hcall
    exact ⟨_, .text d ⟨parts, hitem⟩, ⟨⟨_, (Step.part hitem rfl d.text).steps,
      h.extend hitem rfl (by simp) d.text⟩, rfl, rfl, fun _ => Iff.rfl, rfl⟩, rfl, rfl⟩

def reasoningFrames (a : ReasoningAppended) (delta : String) :
    List (String × List (String × Value)) :=
  a.item.toList.map (outputItemAddedFrame a.outputIndex) ++
    [reasoningDeltaFrame a.outputIndex a.itemId delta]

theorem appendReasoning_ok {d : ReasoningDelta} {a : ReasoningAppended}
    (hm : s.message = some m) (hcall : (appendReasoning d.text).call s = (.ok a, s')) :
    ∃ entries, Wrote s.responseId items (.reasoningDelta d) entries ∧
      Moves s items entries s' s.message.isSome (· ∈ s.tools) ∧
      a.itemAdded = a.item.isSome ∧ reasoningFrames a d.text = entries.flatMap entryFrames := by
  have hrole := (h.shape m hm).role
  rcases hi : m.reasoningOutputIndex with _ | i
  · have hmirrors := (h.openReasoning hm hi (s.nextItemId "rsn")).firstPart rfl (by simp) d.text
    rw [appendReasoning_first hm hrole hi] at hcall
    cases hcall
    rw [h.length, nextItemId_eq h] at hmirrors ⊢
    exact ⟨_, .firstReasoning d (no_reasoning h hm hi),
      ⟨⟨_, steps_first items _ _, hmirrors⟩, rfl, by simp [hm], fun _ => Iff.rfl, rfl⟩, rfl, rfl⟩
  · obtain ⟨id, parts, hitem⟩ := (h.reasoning i).mpr (by simp [reasoningSlot, hm, hi])
    have happend : OutputItem.appendReasoning d.text (outputItem ⟨.reasoning id, parts, none⟩) =
        some (outputItem (extend ⟨.reasoning id, parts, none⟩ d.text)) := by
      simp [outputItem, extend, item, OutputItem.appendReasoning]
    rw [appendReasoning_more hm hrole hi (h.lookup hitem) happend] at hcall
    cases hcall
    exact ⟨_, .reasoning d ⟨parts, hitem⟩, ⟨⟨_, (Step.part hitem rfl d.text).steps,
      h.extend hitem rfl (by simp) d.text⟩, rfl, rfl, fun _ => Iff.rfl, rfl⟩, rfl, rfl⟩

theorem appendToolArguments_ok {d : ToolCallArgumentsDelta} {t : ToolState}
    (hcall : (appendToolArguments d.callId d.delta).call s = (.ok t, s')) :
    ∃ entries, Wrote s.responseId items (.toolCallArgumentsDelta d) entries ∧
      Moves s items entries s' s.message.isSome (· ∈ s.tools) ∧
      [functionArgumentsDeltaFrame t.outputIndex t.itemId d.delta] =
        entries.flatMap entryFrames := by
  obtain ⟨tool, ht⟩ : ∃ tool, s.tools[d.callId]? = some tool := by
    rw [appendToolArguments] at hcall
    simp only [call_ok] at hcall
    obtain ⟨tool, ht, -⟩ := hcall
    exact ⟨tool, ht⟩
  obtain ⟨name, parts, hitem⟩ := (h.tool _ _ d.callId).mpr ⟨tool, ht, rfl, rfl⟩
  have happend : OutputItem.appendArguments d.delta
      (outputItem ⟨.call tool.itemId d.callId name, parts, none⟩) =
      some (outputItem (extend ⟨.call tool.itemId d.callId name, parts, none⟩ d.delta)) := by
    simp [outputItem, extend, item, OutputItem.appendArguments]
  rw [appendToolArguments_more ht (h.lookup hitem) happend] at hcall
  cases hcall
  refine ⟨_, .fragment d ⟨parts, hitem⟩, ⟨⟨_, (Step.part hitem rfl d.delta).steps,
    h.extendCall ht hitem rfl d.delta⟩, rfl, rfl, fun callId => ?_, rfl⟩, rfl⟩
  -- the call was there before
  have hmem : d.callId ∈ s.tools := Std.TreeMap.mem_iff_isSome_getElem?.mpr (by simp [ht])
  by_cases heq : d.callId = callId
  · subst heq
    simp [hmem]
  · simp [heq]

theorem beginTool_ok {e : ToolCallStart} {a : ℕ × Value}
    (hm : s.message = some m) (hcall : (beginTool e.callId e.name).call s = (.ok a, s')) :
    ∃ entries, Wrote s.responseId items (.toolCallStart e) entries ∧
      Moves s items entries s' s.message.isSome
        (fun callId => callId = e.callId ∨ callId ∈ s.tools) ∧
      [outputItemAddedFrame a.1 a.2] = entries.flatMap entryFrames := by
  have hrole := (h.shape m hm).role
  have hnew : s.tools.contains e.callId = false := by
    simp only [beginTool, assistantMessage, messageMut, call_ok] at hcall
    obtain ⟨_, _, ⟨_, _, ⟨-, rfl⟩, _, -, -, rfl⟩, _, hnew, -⟩ := hcall
    simpa using hnew
  have hnone : s.tools[e.callId]? = none := by
    rwa [Std.TreeMap.contains_eq_isSome_getElem?, Option.isSome_eq_false_iff,
      Option.isNone_iff_eq_none]
      at hnew
  have hmirrors := h.openCall hnone (s.nextItemId "fc") e.name
  rw [beginTool_new hm hrole hnew] at hcall
  cases hcall
  rw [h.length, nextItemId_eq h] at hmirrors ⊢
  exact ⟨_, .call e, ⟨⟨_, (Step.opened items _).steps, hmirrors⟩, rfl, rfl,
    fun callId => by simp [eq_comm (a := callId)], rfl⟩, rfl⟩

theorem finishTool_ok {e : ToolCallEnd} {a : ToolCompleted}
    (hcall : (finishTool e.callId e.arguments.get).call s = (.ok a, s')) :
    ∃ entries, Wrote s.responseId items (.toolCallEnd e) entries ∧
      Moves s items entries s' s.message.isSome
        (fun callId => callId ≠ e.callId ∧ callId ∈ s.tools) ∧
      [functionArgumentsDoneFrame a.outputIndex a.itemId a.name e.arguments.get,
        outputItemDoneFrame a.outputIndex a.item] = entries.flatMap entryFrames := by
  obtain ⟨tool, ht, completed, hcompleted⟩ : ∃ tool, s.tools[e.callId]? = some tool ∧
      ∃ completed, (s.output[tool.outputIndex]?.map
        (·.completeCall tool.sawArgumentsDelta e.arguments.get)) = some (.ok completed) := by
    simp only [finishTool, readItem, call_ok] at hcall
    obtain ⟨tool, ht, _, item, hitem, completed, hcompleted, -⟩ := hcall
    have hitem' : s.output[tool.outputIndex]? = some item := by simpa using hitem
    exact ⟨tool, ht, completed, by rw [hitem', Option.map_some, hcompleted]⟩
  obtain ⟨name, parts, hitem⟩ := (h.tool _ _ e.callId).mpr ⟨tool, ht, rfl, rfl⟩
  have hsaw := h.saw e.callId tool _ ht hitem
  rw [h.lookup hitem, Option.map_some, Option.some.injEq] at hcompleted
  simp only [outputItem, item, OutputItem.completeCall, hsaw] at hcompleted
  split_ifs at hcompleted with hdiffers
  have harguments : parts ≠ [] → String.join parts = e.arguments.get := by
    intro hne
    simpa [hne] using hdiffers
  have hcomplete : (outputItem ⟨.call tool.itemId e.callId name, parts, none⟩).completeCall
      tool.sawArgumentsDelta e.arguments.get =
      .ok ((call tool.itemId e.callId name).item .completed e.arguments.get, name) := by
    simp only [outputItem, item, OutputItem.completeCall, hsaw, if_neg hdiffers]
  have hmirrors := h.closeCall ht hitem harguments
  rw [finishTool_complete ht (h.lookup hitem) hcomplete] at hcall
  cases hcall
  exact ⟨_, .callEnd e hitem harguments, ⟨⟨_, (Step.closed hitem rfl _).steps, hmirrors⟩, rfl, rfl,
    fun callId => by simp [eq_comm (a := callId)], rfl⟩, rfl⟩

theorem finishMessage_ok {e : MessageEnd} {a : MessageCompleted}
    (hm : s.message = some m) (hcall : finishMessage.call s = (.ok a, s')) :
    ∃ entries, Wrote s.responseId items (.messageEnd e) entries ∧
      Moves s items entries s' false (· ∈ s.tools) ∧
      reasoningDoneFrames a.reasoning ++ messageDoneFrames a.message =
        entries.flatMap entryFrames := by
  obtain ⟨-, hnamed, hpart⟩ := h.shape m hm
  -- the open items of the message, in the two slots
  rcases hi : m.outputIndex with _ | i
  · have hid : m.itemId = none := by simpa [hi] using hnamed
    have hnone : ∀ i id, ¬ Open items i (.message id) := by simp [h.text, textSlot, hm, hi]
    rcases hj : m.reasoningOutputIndex with _ | j
    · rw [finishMessage_complete hm (completedMessage_none hi hid)
        (completedReasoning_none hj)] at hcall
      cases hcall
      exact ⟨_, .messageEnd e (.none (no_reasoning h hm hj)) (.none hnone),
        ⟨⟨_, .nil items, h.endMessage hm hi hj⟩, rfl, rfl, fun _ => Iff.rfl, rfl⟩, rfl⟩
    · obtain ⟨id, parts, hitem⟩ := (h.reasoning j).mpr (by simp [reasoningSlot, hm, hj])
      rw [finishMessage_complete hm (completedMessage_none hi hid)
        (completedReasoning_some hj (h.lookup hitem))] at hcall
      cases hcall
      exact ⟨_, .messageEnd e (.some hitem) (.none hnone),
        ⟨⟨_, (Step.closed hitem rfl _).steps, (h.closeReasoning hm hj hitem).endMessage rfl hi rfl⟩,
          rfl, rfl, fun _ => Iff.rfl, rfl⟩, rfl⟩
  · obtain ⟨id, hid⟩ : ∃ id, m.itemId = some id := by
      rw [← Option.isSome_iff_exists, hnamed, hi]
      rfl
    rw [hi] at hpart
    obtain ⟨parts, hitem⟩ := (h.text i id).mpr (by simp [textSlot, hm, hi, hid])
    rcases hj : m.reasoningOutputIndex with _ | j
    · rw [finishMessage_complete hm (completedMessage_some hi hid hpart (h.lookup hitem))
        (completedReasoning_none hj)] at hcall
      cases hcall
      exact ⟨_, .messageEnd e (.none (no_reasoning h hm hj)) (.some hitem),
        ⟨⟨_, (Step.closed hitem rfl _).steps,
          (h.closeMessage hm hi hid hitem).endMessage rfl rfl hj⟩, rfl, rfl, fun _ => Iff.rfl, rfl⟩,
        rfl⟩
    · obtain ⟨id', parts', hitem'⟩ := (h.reasoning j).mpr (by simp [reasoningSlot, hm, hj])
      have hne : i ≠ j := by
        rintro rfl
        rw [hitem] at hitem'
        cases hitem'
      have hlookup : (s.output.set i ((message id).item .completed (String.join parts)))[j]? =
          some ((reasoning id').item .inProgress (String.join parts')) := by
        rw [List.getElem?_set_ne hne, h.lookup hitem']
        rfl
      rw [finishMessage_complete hm (completedMessage_some hi hid hpart (h.lookup hitem))
        (completedReasoning_some hj hlookup)] at hcall
      cases hcall
      -- the reasoning item is written first, but completed last
      have hrest : (items.set j (close ⟨.reasoning id', parts', none⟩ (String.join parts')))[i]? =
          some ⟨.message id, parts, none⟩ := by
        rw [List.getElem?_set_ne hne.symm, hitem]
      have hmirrors := ((h.closeReasoning hm hj hitem').closeMessage rfl hi hid hrest).endMessage
        rfl rfl rfl
      rw [List.set_comm _ _ hne.symm] at hmirrors
      exact ⟨_, .messageEnd e (.some hitem') (.some hitem),
        ⟨⟨_, .cons (.closed hitem' rfl _) (Step.closed hrest rfl _).steps, hmirrors⟩,
          rfl, rfl, fun _ => Iff.rfl, rfl⟩, rfl⟩

end

/-! ### One event -/

/-- What an accepted event does to the response: steps of its items, and their frames. -/
structure Takes (events : List CanonicalEvent) (e : CanonicalEvent) (s : ResponseState)
    (items : List Output) (c : OpenAiResponsesSseEncoder) (entries : List OutputEntry)
    (items' : List Output) (out : List SseFrame) (c' : OpenAiResponsesSseEncoder) : Prop where
  wrote : Wrote s.responseId items e entries
  steps : Steps items entries items'
  holds : ∃ s', Holds (events ++ [e]) s' items' ∧ s'.responseId = s.responseId ∧
    Emits { c with response := some s' } (entries.flatMap entryFrames) out c'

theorem Moves.takes {message : Bool} {calls : String → Prop} (h : Holds events s items)
    (hwrote : Wrote s.responseId items e entries) (hmoves : Moves s items entries s' message calls)
    (hmessage : message = true ↔ MessageOpen (events ++ [e]))
    (hcalls : ∀ callId, calls callId ↔ Started callId (events ++ [e]) ∧
      ¬ Ended callId (events ++ [e]))
    (hmeaning : ((meaning events).step e).responseId = (meaning events).responseId ∧
      ((meaning events).step e).usage = (meaning events).usage)
    (hemits : Emits { c with response := some s' } (entries.flatMap entryFrames) out c') :
    ∃ entries items', Takes events e s items c entries items' out c' := by
  obtain ⟨⟨items', hsteps, hmirrors⟩, hnamed, hopen, htools, husage⟩ := hmoves
  refine ⟨entries, items', hwrote, hsteps, s', ⟨hmirrors, ?_, ?_, ?_, ?_⟩, hnamed, hemits⟩
  · rw [meaning_snoc, hmeaning.1, h.named, hnamed]
  · rw [hopen, hmessage]
  · intro callId
    rw [htools, hcalls]
  · rw [meaning_snoc, hmeaning.2, husage]
    exact h.counted

theorem kept_calls (h : Holds events s items)
    (hkept : ∀ callId, ¬ Started callId [e] ∧ ¬ Ended callId [e] := by
      simp [started_singleton, ended_singleton]) (callId : String) :
    callId ∈ s.tools ↔ Started callId (events ++ [e]) ∧ ¬ Ended callId (events ++ [e]) := by
  rw [started_append, ended_append, or_iff_left (hkept callId).1, or_iff_left (hkept callId).2]
  exact h.tools callId

theorem kept_message (h : Holds events s items) (hmark : markOf e = none) :
    s.message.isSome = true ↔ MessageOpen (events ++ [e]) := by
  rw [messageOpen_snoc_other hmark]
  exact h.message

theorem open_message (h : Holds events s items) (hopen : MessageOpen events) :
    ∃ m, s.message = some m := Option.isSome_iff_exists.mp (h.message.mpr hopen)

theorem addedFrames_ok {added : Bool} {index : ℕ} {item : Option Value}
    (hadded : added = item.isSome) : (addedFrames added index item).call c = (.ok out, c') ↔
      Emits c (item.toList.map (outputItemAddedFrame index)) out c' := by
  subst hadded
  cases item with
  | none =>
    rw [← framesOf_ok]
    exact Iff.rfl
  | some item =>
    simp only [addedFrames, Option.isSome_some, if_true, call_ok, Option.some.injEq,
      Option.toList_some, List.map_cons, List.map_nil]
    rw [← framesOf_ok]

variable (h : Holds events s items) (hs : c.response = some s)

include h hs

theorem takes_text {d : TextDelta} (hlegal : Legal events (.textDelta d))
    (hcall : (encodeTextDelta d.text).call c = (.ok out, c')) :
    ∃ entries items', Takes events (.textDelta d) s items c entries items' out c' := by
  obtain ⟨m, hm⟩ := open_message h hlegal.1
  simp only [encodeTextDelta, call_ok, onResponse_ok hs, framesOf_ok] at hcall
  obtain ⟨a, _, ⟨s', happend, rfl⟩, added, c₁, hadded, part, c₂, hpart, text, _, htext, rfl,
    rfl⟩ := hcall
  obtain ⟨entries, hwrote, hmoves, hitem, hframes⟩ := appendText_ok h.mirrors hm happend
  rw [addedFrames_ok hitem] at hadded
  have hemits := (hadded.append hpart).append htext
  rw [textFrames] at hframes
  rw [hframes] at hemits
  exact hmoves.takes h hwrote (kept_message h rfl) (kept_calls h) ⟨rfl, rfl⟩ hemits

theorem takes_reasoning {d : ReasoningDelta} (hlegal : Legal events (.reasoningDelta d))
    (hcall : (encodeReasoningDelta d.text).call c = (.ok out, c')) :
    ∃ entries items', Takes events (.reasoningDelta d) s items c entries items' out c' := by
  obtain ⟨m, hm⟩ := open_message h hlegal.1
  simp only [encodeReasoningDelta, call_ok, onResponse_ok hs, framesOf_ok] at hcall
  obtain ⟨a, _, ⟨s', happend, rfl⟩, added, c₁, hadded, text, _, htext, rfl, rfl⟩ := hcall
  obtain ⟨entries, hwrote, hmoves, hitem, hframes⟩ := appendReasoning_ok h.mirrors hm happend
  rw [addedFrames_ok hitem] at hadded
  have hemits := hadded.append htext
  rw [reasoningFrames] at hframes
  rw [hframes] at hemits
  exact hmoves.takes h hwrote (kept_message h rfl) (kept_calls h) ⟨rfl, rfl⟩ hemits

theorem takes_call {x : ToolCallStart} (hlegal : Legal events (.toolCallStart x))
    (hdeclared : ∀ callId, Ended callId events → Started callId events)
    (hcall : (encodeToolStart x.callId x.name).call c = (.ok out, c')) :
    ∃ entries items', Takes events (.toolCallStart x) s items c entries items' out c' := by
  obtain ⟨hopen, -, -, hnew⟩ := hlegal
  obtain ⟨m, hm⟩ := open_message h hopen
  simp only [encodeToolStart, call_bind_ok, onResponse_ok hs, framesOf_ok] at hcall
  obtain ⟨⟨index, item⟩, _, ⟨s', hbegin, rfl⟩, hemits⟩ := hcall
  obtain ⟨entries, hwrote, hmoves, hframes⟩ := beginTool_ok h.mirrors hm hbegin
  rw [hframes] at hemits
  refine hmoves.takes h hwrote (kept_message h rfl) (fun callId => ?_) ⟨rfl, rfl⟩ hemits
  have hunended : ¬ Ended x.callId events := fun hended => hnew (hdeclared _ hended)
  have htools : callId ∈ s.tools ↔ Started callId events ∧ ¬ Ended callId events := h.tools callId
  rw [started_append, ended_append, htools]
  by_cases heq : callId = x.callId
  · subst heq
    simp [started_singleton, ended_singleton, hunended]
  · simp [started_singleton, ended_singleton, heq, Ne.symm heq]

theorem takes_fragment {d : ToolCallArgumentsDelta}
    (hcall : (encodeToolArgumentsDelta d.callId d.delta).call c = (.ok out, c')) :
    ∃ entries items', Takes events (.toolCallArgumentsDelta d) s items c entries items' out c' := by
  simp only [encodeToolArgumentsDelta, call_bind_ok, onResponse_ok hs, framesOf_ok] at hcall
  obtain ⟨tool, _, ⟨s', happend, rfl⟩, hemits⟩ := hcall
  obtain ⟨entries, hwrote, hmoves, hframes⟩ := appendToolArguments_ok h.mirrors happend
  rw [hframes] at hemits
  exact hmoves.takes h hwrote (kept_message h rfl) (kept_calls h) ⟨rfl, rfl⟩ hemits

theorem takes_callEnd {x : ToolCallEnd}
    (hcall : (encodeToolEnd x.callId x.arguments.get).call c = (.ok out, c')) :
    ∃ entries items', Takes events (.toolCallEnd x) s items c entries items' out c' := by
  simp only [encodeToolEnd, call_bind_ok, onResponse_ok hs, framesOf_ok] at hcall
  obtain ⟨completed, _, ⟨s', hfinish, rfl⟩, hemits⟩ := hcall
  obtain ⟨entries, hwrote, hmoves, hframes⟩ := finishTool_ok h.mirrors hfinish
  rw [hframes] at hemits
  refine hmoves.takes h hwrote (kept_message h rfl) (fun callId => ?_) ⟨rfl, rfl⟩ hemits
  have htools : callId ∈ s.tools ↔ Started callId events ∧ ¬ Ended callId events := h.tools callId
  rw [started_append, ended_append, htools]
  by_cases heq : callId = x.callId
  · subst heq
    simp [ended_singleton]
  · simp [started_singleton, ended_singleton, heq, Ne.symm heq]

theorem takes_messageEnd {x : MessageEnd}
    (hlegal : Legal events (.messageEnd x)) (hcall : encodeMessageEnd.call c = (.ok out, c')) :
    ∃ entries items', Takes events (.messageEnd x) s items c entries items' out c' := by
  obtain ⟨m, hm⟩ := open_message h hlegal.1
  simp only [encodeMessageEnd, call_bind_ok, onResponse_ok hs, framesOf_ok] at hcall
  obtain ⟨completed, _, ⟨s', hfinish, rfl⟩, hemits⟩ := hcall
  obtain ⟨entries, hwrote, hmoves, hframes⟩ := finishMessage_ok h.mirrors hm hfinish
  rw [hframes] at hemits
  exact hmoves.takes h hwrote (by simp [not_messageOpen_snoc_ends]) (kept_calls h) ⟨rfl, rfl⟩ hemits

theorem takes_messageStart {x : MessageStart}
    (hcall : (encodeMessageStart x.role.value).call c = (.ok out, c')) :
    ∃ entries items', Takes events (.messageStart x) s items c entries items' out c' := by
  simp only [encodeMessageStart, call_ok, decide_eq_true_eq] at hcall
  obtain ⟨_, hrole, _, _, hbegin, rfl, rfl⟩ := hcall
  simp only [beginMessage, setMessage, onResponse_ok hs, call_ok,
    Option.isNone_iff_eq_none] at hbegin
  obtain ⟨_, ⟨_, hnone, rfl⟩, rfl⟩ := hbegin
  have hmirrors : Mirrors { s with message := some { role := x.role.value } } items :=
    ⟨h.mirrors.output, by rintro _ ⟨⟩; exact ⟨hrole, rfl, rfl⟩,
      by simpa [textSlot, hnone] using h.mirrors.text,
      by simpa [reasoningSlot, hnone] using h.mirrors.reasoning, h.mirrors.tool, h.mirrors.saw,
      h.mirrors.settled⟩
  have hmoves : Moves s items [] { s with message := some { role := x.role.value } } true
      (· ∈ s.tools) := ⟨⟨items, .nil items, hmirrors⟩, rfl, rfl, fun _ => Iff.rfl, rfl⟩
  exact hmoves.takes h (.messageStart x) (by simp [messageOpen_snoc_starts])
    (kept_calls h) ⟨rfl, rfl⟩ (emits_nil _)

theorem takes_usage {x : UsageDelta} (hcall : (encodeUsage x.usage).call c = (.ok out, c')) :
    ∃ entries items', Takes events (.usageDelta x) s items c entries items' out c' := by
  simp only [encodeUsage, recordUsage, call_ok, onResponse_ok hs] at hcall
  obtain ⟨_, _, ⟨_, ⟨value, hvalue, rfl⟩, rfl⟩, rfl, rfl⟩ := hcall
  have hmirrors : Mirrors { s with usage := some value } items :=
    ⟨h.mirrors.output, h.mirrors.shape, h.mirrors.text, h.mirrors.reasoning, h.mirrors.tool,
      h.mirrors.saw, h.mirrors.settled⟩
  have hmessage := kept_message (e := .usageDelta x) h rfl
  have hcalls := kept_calls (e := .usageDelta x) h
  refine ⟨[], items, .usage x, .nil items, { s with usage := some value },
    ⟨hmirrors, ?_, hmessage, hcalls, ?_⟩, rfl, emits_nil _⟩
  · rw [meaning_snoc]
    exact h.named
  · rw [meaning_snoc]
    exact ⟨value, hvalue, rfl⟩

/-- **One event** of an open response. -/
theorem encodeValidEvent_ok (hlegal : Legal events e) (hterminal : e.isTerminal = false)
    (hdeclared : ∀ callId, Ended callId events → Started callId events)
    (hcall : (encodeValidEvent e).call c = (.ok out, c')) :
    ∃ entries items', Takes events e s items c entries items' out c' := by
  cases e with
  | responseStart x => cases hlegal
  | messageStart x => exact takes_messageStart h hs hcall
  | textDelta x => exact takes_text h hs hlegal hcall
  | reasoningDelta x => exact takes_reasoning h hs hlegal hcall
  | toolCallStart x => exact takes_call h hs hlegal hdeclared hcall
  | toolCallArgumentsDelta x => exact takes_fragment h hs hcall
  | toolCallEnd x => exact takes_callEnd h hs hcall
  | usageDelta x => exact takes_usage h hs hcall
  | messageEnd x => exact takes_messageEnd h hs hlegal hcall
  | responseEnd x => cases hterminal
  | streamError x => cases hterminal

end Events

/-! ### Runs -/

/-- The run of the encoder without its state: the events of a response, the items they leave and the
entries they write. -/
inductive Story : String → List CanonicalEvent → List Output → List OutputEntry → Prop
  | start (r : ResponseStart) : Story r.responseId.asStr [.responseStart r] [] []
  | step {responseId : String} {events : List CanonicalEvent} {items items' : List Output}
    {entries new : List OutputEntry} {e : CanonicalEvent}
      (h : Story responseId events items entries)
    (hwrote : Wrote responseId items e new) (hsteps : Steps items new items') :
    Story responseId (events ++ [e]) items' (entries ++ new)

def openingFrames (metadata : OpenAiResponseMetadata) (responseId : String) :
    List (String × List (String × Value)) :=
  [responseFrame "response.created"
      (ResponseState.responseValue { responseId } metadata "in_progress" none),
    responseFrame "response.in_progress"
      (ResponseState.responseValue { responseId } metadata "in_progress" none)]

/-- What the encoder has done with the events so far, while the response goes on. -/
structure Ongoing (metadata : OpenAiResponseMetadata) (events : List CanonicalEvent)
    (frames : List SseFrame) (c : OpenAiResponsesSseEncoder) (s : ResponseState)
    (items : List Output) (entries : List OutputEntry) : Prop where
  same : c.metadata = metadata
  response : c.response = some s
  holds : Holds events s items
  story : Story s.responseId events items entries
  written : frames =
    numbered 1 (openingFrames metadata s.responseId ++ entries.flatMap entryFrames)
  next : c.nextSequenceNumber.toNat =
    1 + (openingFrames metadata s.responseId ++ entries.flatMap entryFrames).length

structure Told (metadata : OpenAiResponseMetadata) (events : List CanonicalEvent)
    (frames : List SseFrame) (c : OpenAiResponsesSseEncoder) : Prop where
  lifecycle : applyAll {} events = .ok c.lifecycle
  fresh : events = [] → c = .new metadata ∧ frames = []
  told : events ≠ [] → c.lifecycle.isTerminal = false →
    ∃ s items entries, Ongoing metadata events frames c s items entries

section Runs

variable {metadata : OpenAiResponseMetadata} {frames : List SseFrame}

theorem encodeEvent_ok (h : (encodeEvent e).call c = (.ok out, c')) :
    representable e = true ∧ ∃ c₁, (encodeValidEvent e).call c = (.ok out, c₁) ∧
      ∃ l, c.lifecycle.apply e = .ok l ∧ c' = { c₁ with lifecycle := l } := by
  simp only [encodeEvent, call_ok, call_orRestore_ok] at h
  obtain ⟨_, hrepresentable, l, hl, _, c₁, hvalid, _, rfl, rfl⟩ := h
  exact ⟨hrepresentable, c₁, hvalid, l, hl, rfl⟩

variable {l : CanonicalEventState}

theorem started_of_ended
    (h : applyAll {} events = .ok l) (hopen : l.isTerminal = false) (callId : String)
    (hended : Ended callId events) : Started callId events := by
  have hinv := run_inv events l h
  rcases l with ⟨_ | o | _ | err⟩
  · obtain rfl : events = [] := hinv
    exact absurd hended (ended_nil callId)
  · exact (hinv.2.started callId).mp ⟨_, (hinv.2.ended callId).mpr hended⟩
  · cases hopen
  · cases hopen

theorem told_start {r : ResponseStart} {c₁ : OpenAiResponsesSseEncoder}
    (hvalid : (encodeValidEvent (.responseStart r)).call (.new metadata) = (.ok out, c₁))
    (hl : apply {} (.responseStart r) = .ok l) :
    Told metadata [.responseStart r] out { c₁ with lifecycle := l } := by
  simp only [encodeValidEvent, encodeResponseStart, call_ok, framesOf_ok] at hvalid
  obtain ⟨_, -, _, rfl, hfits, rfl⟩ := hvalid
  refine ⟨applyAll_cons_ok.mpr ⟨l, hl, rfl⟩, by simp, fun _ _ => ?_⟩
  refine ⟨{ responseId := r.responseId.asStr }, [], [], rfl, rfl, ⟨mirrors_nil _, rfl, ?_, ?_, rfl⟩,
    .start r, ?_, ?_⟩
  · rw [show [CanonicalEvent.responseStart r] = [] ++ [.responseStart r] from rfl,
      messageOpen_snoc_other rfl]
    simp
  · simp [started_singleton]
  · rfl
  · exact advance_number hfits

theorem not_start {l' : CanonicalEventState} (hne : events ≠ [])
    (h : applyAll {} events = .ok l) (hl : l.apply e = .ok l') :
    ∀ r, e ≠ .responseStart r := by
  rintro r rfl
  have hinv := run_inv events l h
  rcases l with ⟨_ | o | _ | err⟩
  · exact hne hinv
  · cases hl
  · cases hl
  · cases hl

theorem Told.step (h : Told metadata events frames c)
    (hcall : (encodeEvent e).call c = (.ok out, c')) :
    Told metadata (events ++ [e]) (frames ++ out) c' := by
  obtain ⟨-, c₁, hvalid, l, hl, rfl⟩ := encodeEvent_ok hcall
  have hrun := applyAll_snoc_ok.mpr ⟨c.lifecycle, h.lifecycle, hl⟩
  have hopen := not_terminal_of_apply hl
  rcases eq_or_ne events [] with rfl | hne
  · obtain ⟨rfl, rfl⟩ := h.fresh rfl
    obtain ⟨r, rfl⟩ : ∃ r, e = .responseStart r := by
      cases e with
      | responseStart r => exact ⟨r, rfl⟩
      | _ => cases hl
    exact told_start hvalid hl
  · refine ⟨hrun, by simp, fun _ hgoing => ?_⟩
    obtain ⟨s, items, entries, hsame, hresponse, hholds, hstory, hwritten, hnext⟩ :=
      h.told hne hopen
    have hterminal : e.isTerminal = false := by
      rw [← isTerminal_of_apply hl]
      exact hgoing
    have hlegal := legal_of_run hrun (not_start hne h.lifecycle hl)
      (by rintro x rfl; cases hterminal)
    obtain ⟨new, items', hwrote, hsteps, s', hholds', hnamed, hout, hfits, rfl⟩ :=
      encodeValidEvent_ok hholds hresponse hlegal hterminal
        (started_of_ended h.lifecycle hopen) hvalid
    have hafter := advance_number hfits
    refine ⟨s', items', entries ++ new, hsame, rfl, hholds', ?_, ?_, ?_⟩
    · rw [hnamed]
      exact hstory.step hwrote hsteps
    · rw [hnamed, List.flatMap_append, ← List.append_assoc, numbered_append, ← hnext,
        ← hwritten, hout]
    · rw [hnamed, List.flatMap_append, ← List.append_assoc, List.length_append, ← Nat.add_assoc,
        ← hnext]
      exact hafter

/-- **A run** of the encoder. -/
theorem told_of_run
    (h : (Method.collect encodeEvent events).call (.new metadata) = (.ok frames, c)) :
    Told metadata events frames c :=
  collect_invariant Told.step ⟨rfl, fun _ => ⟨rfl, rfl⟩, fun h => absurd rfl h⟩ h

variable {r : ResponseEnd}

/-- What is known when a response was accepted to its end. -/
structure Finished (metadata : OpenAiResponseMetadata) (events : List CanonicalEvent)
    (r : ResponseEnd) (frames : List SseFrame) (c : OpenAiResponsesSseEncoder) (s : ResponseState)
    (items : List Output) (entries : List OutputEntry) (t : ResponsesTerminal) : Prop where
  holds : Holds events s items
  story : Story s.responseId events items entries
  terminal : ResponsesTerminal.tryFromEnd r = .ok t
  written : frames =
    numbered 1 (openingFrames metadata s.responseId ++ entries.flatMap entryFrames ++
    [responseFrame t.event (s.responseValue metadata t.status t.incompleteReason)])
  fits : frames.length + 1 < 2 ^ 64
  completed : c.intoCompletedResponse = .ok (s.responseValue metadata t.status t.incompleteReason)
  closed : ∀ item ∈ items, item.last.isSome = true

theorem Holds.closed {s : ResponseState} {items : List Output}
    (h : Holds events s items) (hlegal : Legal events (.responseEnd r)) :
    ∀ item ∈ items, item.last.isSome = true := by
  obtain ⟨hmessage, hcalls, -⟩ := hlegal
  have hnone : s.message = none := by
    rw [← h.message] at hmessage
    simpa using hmessage
  intro item hitem
  rw [Option.isSome_iff_ne_none]
  intro hopen
  obtain ⟨i, hi⟩ := List.getElem?_of_mem hitem
  have hitem' := open_of_getElem? hi hopen
  cases hhead : item.head with
  | message id =>
    rw [hhead, h.mirrors.text, textSlot, hnone] at hitem'
    cases hitem'
  | reasoning id =>
    have hslot := (h.mirrors.reasoning i).mp ⟨id, hhead ▸ hitem'⟩
    rw [reasoningSlot, hnone] at hslot
    cases hslot
  | call id callId name =>
    obtain ⟨t, ht, -⟩ := (h.mirrors.tool i id callId).mp ⟨name, hhead ▸ hitem'⟩
    have hmem : callId ∈ s.tools := Std.TreeMap.mem_iff_isSome_getElem?.mpr (by simp [ht])
    obtain ⟨hstarted, hended⟩ := (h.tools callId).mp hmem
    exact hended (hcalls callId hstarted)

/-- **A run to the end.** -/
theorem finished_of_run
    (h : (Method.collect encodeEvent (events ++ [.responseEnd r])).call (.new metadata) =
      (.ok frames, c)) : ∃ s items entries t,
      Finished metadata events r frames c s items entries t := by
  have hall := told_of_run h
  simp only [collect_snoc, call_ok] at h
  obtain ⟨before, c₀, hrun, last, c, hlast, rfl, rfl⟩ := h
  have htold := told_of_run hrun
  obtain ⟨-, c₁, hvalid, l, hl, rfl⟩ := encodeEvent_ok hlast
  have hopen := not_terminal_of_apply hl
  have hne : events ≠ [] := by
    rintro rfl
    obtain ⟨rfl, -⟩ := htold.fresh rfl
    cases hl
  obtain ⟨s, items, entries, hsame, hresponse, hholds, hstory, hwritten, hnext⟩ :=
    htold.told hne hopen
  simp only [encodeValidEvent, encodeResponseEnd, call_ok, framesOf_ok] at hvalid
  obtain ⟨t, ht, s', hs', _, hout, hfits, rfl⟩ := hvalid
  cases hresponse.symm.trans hs'
  rw [hsame] at hout
  refine ⟨s, items, entries, t, hholds, hstory, ht, ?_, ?_, ?_, ?_⟩
  · rw [numbered_append, ← hwritten, hout]
    exact congrArg (fun n => before ++ numbered n _) hnext
  · have hlength : before.length = (openingFrames metadata s.responseId ++
        entries.flatMap entryFrames).length := by
      rw [hwritten, numbered, List.length_mapIdx]
    have hone : last.length = 1 := by rw [hout, numbered]; rfl
    rw [List.length_append]
    have hbound : c₀.nextSequenceNumber.toNat + 1 < 2 ^ 64 := hfits
    omega
  · have hsuccess := isSuccess_of_responseEnd hl
    simp [intoCompletedResponse, advance, ensure, okOr, hsuccess, hresponse, hsame]
  · exact hholds.closed (legal_of_run hall.lifecycle (by simp) (by simp))

end Runs

end CpaGateway.Responses.Writing
