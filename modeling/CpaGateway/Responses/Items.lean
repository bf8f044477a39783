import CpaGateway.Lib.Journal
import CpaGateway.Responses.Encoder

/-! # The output items of a Responses stream

The output of a response is a list of items that grow side by side: at most one message item, at
most one reasoning item and any number of calls are open at a time. `Mirrors` relates
`ResponseState` to such a list, and `entryFrames` says how each step of an item is written. -/

namespace CpaGateway.Responses.Items

open Core.Json Lib.Effect Lib.Fallible Lib.Journal Responses.Encoder
open Responses.Encoder.OpenAiResponsesSseEncoder

/-! ### Items and their frames -/

/-- What an item is opened with. -/
inductive Head
  | message (itemId : String)
  | reasoning (itemId : String)
  | call (itemId callId name : String)

def Head.item (status : OutputStatus) (text : String) : Head → OutputItem
  | message itemId => .message itemId "assistant" status [⟨text⟩]
  | reasoning itemId => .reasoning itemId status [text]
  | call itemId callId name => .functionCall itemId callId name text status

abbrev Output := Item Head String String

abbrev OutputEntry := Entry Head String String

/-- An item is in progress until it is closed; a call may be closed with arguments it was not sent.
-/
def outputItem (item : Output) : OutputItem :=
  match item.last with
  | none => item.head.item .inProgress (String.join item.parts)
  | some text => item.head.item .completed text

/-- The frames of one step, without their numbers. -/
def entryFrames : OutputEntry → List (String × List (String × Value))
  | .opened index (.message itemId) =>
    [outputItemAddedFrame index ((Head.message itemId).item .inProgress "").toValue,
      contentPartAddedFrame index itemId 0]
  | .opened index head => [outputItemAddedFrame index (head.item .inProgress "").toValue]
  | .part index (.message itemId) delta => [textDeltaFrame index itemId 0 delta]
  | .part index (.reasoning itemId) delta => [reasoningDeltaFrame index itemId delta]
  | .part index (.call itemId _ _) delta => [functionArgumentsDeltaFrame index itemId delta]
  | .closed index (.message itemId) text =>
    [textDoneFrame index itemId 0 text, contentPartDoneFrame index itemId 0 text,
      outputItemDoneFrame index ((Head.message itemId).item .completed text).toValue]
  | .closed index (.reasoning itemId) text =>
    [reasoningDoneFrame index itemId text,
      outputItemDoneFrame index ((Head.reasoning itemId).item .completed text).toValue]
  | .closed index (.call itemId callId name) arguments =>
    [functionArgumentsDoneFrame index itemId name arguments,
      outputItemDoneFrame index ((Head.call itemId callId name).item .completed arguments).toValue]

/-- The text an item is closed with is what it was sent; a call that was sent nothing is closed with
any arguments. -/
def Settled (item : Output) : Prop :=
  ∀ text ∈ item.last, match item.head with
    | .call .. => item.parts ≠ [] → String.join item.parts = text
    | .message _ | .reasoning _ => String.join item.parts = text

/-! ### The methods of the response -/

variable {id delta callId name arguments : String} {s s' : ResponseState} {m : MessageState}

section Methods

variable {i : ℕ} {item item' : OutputItem}

open ResponseState

section

variable (hm : s.message = some m) (hrole : m.role = "assistant")

include hm hrole

theorem appendText_more
    (hi : m.outputIndex = some i) (hid : m.itemId = some id) (hpart : m.textContentIndex = some 0)
    (hitem : s.output[i]? = some item) (happend : item.appendText 0 delta = some item') :
    (appendText delta).call s =
      (.ok ⟨i, id, 0, false, false, none⟩, { s with output := s.output.set i item' }) := by
  simp [-bind_pure_comp, appendText, assistantMessage, messageMut, messageItem, textPart, addedItem,
    readItem, setItem, okOr, call_eq, hm, hrole, hi, hid, hpart, hitem, happend]

theorem appendText_first
    (hi : m.outputIndex = none) (hid : m.itemId = none) (hpart : m.textContentIndex = none) :
    (appendText delta).call s =
      (.ok ⟨s.output.length, s.nextItemId "msg", 0, true, true,
        some ((Head.message (s.nextItemId "msg")).item .inProgress "").toValue⟩,
      { s with
        output := s.output ++ [(Head.message (s.nextItemId "msg")).item .inProgress delta]
        message := some { m with
          outputIndex := some s.output.length
          itemId := some (s.nextItemId "msg")
          textContentIndex := some 0 } }) := by
  simp [-bind_pure_comp, appendText, assistantMessage, messageMut, messageItem, textPart, addedItem,
    readItem, setItem, setMessage, pushItem, outputItemValue, OutputItem.addPart,
    OutputItem.appendText, Head.item, okOr, call_eq, hm, hrole, hi, hid, hpart]

theorem appendReasoning_more
    (hi : m.reasoningOutputIndex = some i) (hitem : s.output[i]? = some item)
    (happend : item.appendReasoning delta = some item') :
    (appendReasoning delta).call s =
      (.ok ⟨i, item.id, false, none⟩, { s with output := s.output.set i item' }) := by
  simp [-bind_pure_comp, appendReasoning, assistantMessage, messageMut, reasoningItem,
    addedItem, readItem, setItem, okOr, call_eq, hm, hrole, hi, hitem, happend]

theorem appendReasoning_first (hi : m.reasoningOutputIndex = none) :
    (appendReasoning delta).call s =
      (.ok ⟨s.output.length, s.nextItemId "rsn", true,
        some ((Head.reasoning (s.nextItemId "rsn")).item .inProgress "").toValue⟩,
      { s with
        output := s.output ++ [(Head.reasoning (s.nextItemId "rsn")).item .inProgress delta]
        message := some { m with reasoningOutputIndex := some s.output.length } }) := by
  simp [-bind_pure_comp, appendReasoning, assistantMessage, messageMut, reasoningItem,
    addedItem, readItem, setItem, setMessage, pushItem, outputItemValue, OutputItem.appendReasoning,
    Head.item, okOr, call_eq, hm, hrole, hi]

theorem beginTool_new (hnew : s.tools.contains callId = false) :
    (beginTool callId name).call s =
      (.ok (s.output.length,
        ((Head.call (s.nextItemId "fc") callId name).item .inProgress "").toValue),
      { s with
        output := s.output ++ [(Head.call (s.nextItemId "fc") callId name).item .inProgress ""]
        tools := s.tools.insert callId ⟨s.output.length, s.nextItemId "fc", false⟩ }) := by
  simp [beginTool, assistantMessage, messageMut, readItem, pushItem, outputItemValue,
    Head.item, okOr, call_eq, hm, hrole, hnew]

end

theorem appendToolArguments_more {tool : ToolState}
    (ht : s.tools[callId]? = some tool) (hitem : s.output[tool.outputIndex]? = some item)
    (happend : item.appendArguments delta = some item') :
    (appendToolArguments callId delta).call s =
      (.ok { tool with sawArgumentsDelta := true },
      { s with
        output := s.output.set tool.outputIndex item'
        tools := s.tools.insert callId { tool with sawArgumentsDelta := true } }) := by
  simp [-bind_pure_comp, appendToolArguments, readItem, setItem, okOr, call_eq, ht, hitem, happend]

theorem finishTool_complete {tool : ToolState}
    (ht : s.tools[callId]? = some tool) (hitem : s.output[tool.outputIndex]? = some item)
    (hcomplete : item.completeCall tool.sawArgumentsDelta arguments = .ok (item', name)) :
    (finishTool callId arguments).call s =
      (.ok ⟨tool.outputIndex, tool.itemId, name, item'.toValue⟩,
      { s with
        output := s.output.set tool.outputIndex item'
        tools := s.tools.erase callId }) := by
  have hset : (s.output.set tool.outputIndex item')[tool.outputIndex]? = some item' :=
    List.getElem?_set_self (List.getElem?_eq_some_iff.mp hitem).1
  simp [finishTool, readItem, setItem, outputItemValue, okOr, call_eq, ht, hitem, hcomplete, hset]

theorem completedMessage_some {text : String} (hi : m.outputIndex = some i)
    (hid : m.itemId = some id) (hpart : m.textContentIndex = some 0)
    (hitem : s.output[i]? = some ((Head.message id).item .inProgress text)) :
    (completedMessage m).call s =
      (.ok (some ⟨i, id, ((Head.message id).item .completed text).toValue, some ⟨0, text⟩⟩),
      { s with output := s.output.set i ((Head.message id).item .completed text) }) := by
  have hset := List.getElem?_set_self (a := (Head.message id).item .completed text)
    (List.getElem?_eq_some_iff.mp hitem).1
  rw [Head.item] at hitem hset
  simp [completedMessage, completedText, readItem, setItem, outputItemValue, okOr,
    OutputItem.partText, OutputItem.completeMessage, Head.item, call_eq, hi, hid, hpart,
    hitem, hset]

theorem completedMessage_none (hi : m.outputIndex = none) (hid : m.itemId = none) :
    (completedMessage m).call s = (.ok none, s) := by
  simp [completedMessage, hi, hid]

theorem completedReasoning_some {text : String} (hi : m.reasoningOutputIndex = some i)
    (hitem : s.output[i]? = some ((Head.reasoning id).item .inProgress text)) :
    (completedReasoning m).call s =
      (.ok (some ⟨i, id, text, ((Head.reasoning id).item .completed text).toValue⟩),
      { s with output := s.output.set i ((Head.reasoning id).item .completed text) }) := by
  have hset := List.getElem?_set_self (a := (Head.reasoning id).item .completed text)
    (List.getElem?_eq_some_iff.mp hitem).1
  rw [Head.item] at hitem hset
  simp [-bind_pure_comp, completedReasoning, readItem, setItem, outputItemValue, okOr,
    OutputItem.completeReasoning, OutputItem.id, Head.item, call_eq, hi, hitem, hset]

theorem completedReasoning_none (hi : m.reasoningOutputIndex = none) :
    (completedReasoning m).call s = (.ok none, s) := by
  simp [completedReasoning, hi]

theorem finishMessage_complete {s₁ s₂ : ResponseState} {message : Option CompletedMessage}
    {reasoning : Option CompletedReasoning} (hm : s.message = some m)
    (hmessage : (completedMessage m).call { s with message := none } = (.ok message, s₁))
    (hreasoning : (completedReasoning m).call s₁ = (.ok reasoning, s₂)) :
    finishMessage.call s = (.ok ⟨message, reasoning⟩, s₂) := by
  simp [-bind_pure_comp, finishMessage, messageMut, okOr, call_eq, hm, hmessage, hreasoning]

end Methods

/-! ### The response and its items -/

/-- The message item and its text part come together. -/
structure Shaped (m : MessageState) : Prop where
  role : m.role = "assistant"
  named : m.itemId.isSome = m.outputIndex.isSome
  part : m.textContentIndex = m.outputIndex.map fun _ => 0

/-- The message item of the open message. -/
def textSlot (s : ResponseState) : Option (ℕ × String) :=
  s.message.bind fun m => m.outputIndex.bind fun i => m.itemId.map (Prod.mk i)

/-- The reasoning item of the open message. -/
def reasoningSlot (s : ResponseState) : Option ℕ := s.message.bind (·.reasoningOutputIndex)

/-- The response has these items, and refers to the open ones. -/
structure Mirrors (s : ResponseState) (items : List Output) : Prop where
  output : s.output = items.map outputItem
  shape : ∀ m, s.message = some m → Shaped m
  text : ∀ i id, Open items i (.message id) ↔ textSlot s = some (i, id)
  reasoning : ∀ i, (∃ id, Open items i (.reasoning id)) ↔ reasoningSlot s = some i
  tool : ∀ i id callId, (∃ name, Open items i (.call id callId name)) ↔
    ∃ t, s.tools[callId]? = some t ∧ t.outputIndex = i ∧ t.itemId = id
  saw : ∀ (callId : String) (t : ToolState) (item : Output), s.tools[callId]? = some t →
    items[t.outputIndex]? = some item → t.sawArgumentsDelta = !item.parts.isEmpty
  settled : ∀ item ∈ items, Settled item

section Mirrors

variable {items : List Output} {item : Output} {i : ℕ} {head : Head}

theorem mirrors_nil (responseId : String) : Mirrors { responseId } [] where
  output := rfl
  shape m h := by cases h
  text i id := by simp [Open, textSlot]
  reasoning i := by simp [Open, reasoningSlot]
  tool i id callId := by simp [Open]
  saw callId t item h := by simp at h
  settled item h := by cases h

theorem Mirrors.lookup (h : Mirrors s items) (hi : items[i]? = some item) :
    s.output[i]? = some (outputItem item) := by
  rw [h.output, List.getElem?_map, hi, Option.map_some]

theorem Mirrors.length (h : Mirrors s items) : s.output.length = items.length := by
  rw [h.output, List.length_map]

theorem Mirrors.set (h : Mirrors s items) (item' : Output) :
    s.output.set i (outputItem item') = (items.set i item').map outputItem := by
  rw [h.output, List.map_set]

theorem settled_open (h : item.last = none) : Settled item := by
  intro text htext
  rw [h] at htext
  cases htext

theorem Mirrors.settled_set (h : Mirrors s items) {item' : Output} (hs : Settled item') :
    ∀ x ∈ items.set i item', Settled x := by
  intro x hx
  rcases List.mem_or_eq_of_mem_set hx with hx | rfl
  · exact h.settled x hx
  · exact hs

theorem Mirrors.extend (h : Mirrors s items) (hi : items[i]? = some item) (hopen : item.last = none)
    (hkind : ∀ id callId name, item.head ≠ .call id callId name) (delta : String) :
    Mirrors { s with output := s.output.set i (outputItem (item.extend delta)) }
      (items.set i (item.extend delta)) where
  output := h.set _
  shape := h.shape
  text j id := by rw [open_part_iff hi hopen]; exact h.text j id
  reasoning j := by simp only [open_part_iff hi hopen]; exact h.reasoning j
  tool j id callId := by simp only [open_part_iff hi hopen]; exact h.tool j id callId
  saw callId t x ht hx := by
    by_cases hij : i = t.outputIndex
    · obtain ⟨name, parts, hcall⟩ := (h.tool i t.itemId callId).mpr ⟨t, ht, hij.symm, rfl⟩
      rw [hi, Option.some.injEq] at hcall
      exact absurd (congrArg Item.head hcall) (hkind _ _ _)
    · rw [List.getElem?_set_ne hij] at hx
      exact h.saw callId t x ht hx
  settled := h.settled_set (settled_open hopen)

theorem Mirrors.firstPart {before : List OutputItem} (h : Mirrors s (items ++ [.begin head]))
    (hout : s.output = before ++ [head.item .inProgress ""])
    (hkind : ∀ id callId name, head ≠ .call id callId name) (delta : String) :
    Mirrors { s with output := before ++ [head.item .inProgress delta] }
      ((items ++ [Item.begin head]).set items.length ((Item.begin head).extend delta)) := by
  have hlength : before.length = items.length := by
    have heq := congrArg List.length (hout.symm.trans h.output)
    simpa using heq
  have hmore := h.extend (List.getElem?_concat_length) rfl hkind delta
  have hitem : outputItem ((Item.begin head).extend delta) = head.item .inProgress delta := by
    simp [outputItem, Item.extend, Item.begin]
  rwa [hout, ← hlength, List.set_append_right _ _ (Nat.le_refl _), Nat.sub_self, hlength] at hmore

variable {t : ToolState} (h : Mirrors s items)

include h

theorem Mirrors.saw_begin {x : Output}
    (ht : s.tools[callId]? = some t) (hx : (items ++ [.begin head])[t.outputIndex]? = some x) :
    t.sawArgumentsDelta = !x.parts.isEmpty := by
  obtain ⟨name, parts, hcall⟩ := (h.tool t.outputIndex t.itemId callId).mpr ⟨t, ht, rfl, rfl⟩
  rw [List.getElem?_append_left (List.getElem?_eq_some_iff.mp hcall).1] at hx
  exact h.saw callId t x ht hx

theorem Mirrors.settled_begin : ∀ x ∈ items ++ [.begin head], Settled x := by
  intro x hx
  rcases List.mem_append.mp hx with hx | hx
  · exact h.settled x hx
  · obtain rfl := List.mem_singleton.mp hx
    exact settled_open rfl

theorem Mirrors.output_begin :
    s.output ++ [head.item .inProgress ""] = (items ++ [Item.begin head]).map outputItem := by
  rw [h.output, List.map_append]
  rfl

theorem Mirrors.openMessage (hm : s.message = some m) (hnone : m.outputIndex = none) (id : String) :
    Mirrors { s with
      output := s.output ++ [(Head.message id).item .inProgress ""]
      message := some { m with
        outputIndex := some s.output.length
        itemId := some id
        textContentIndex := some 0 } } (items ++ [.begin (.message id)]) where
  output := h.output_begin
  shape m' hm' := by
    cases hm'
    exact ⟨(h.shape m hm).role, rfl, rfl⟩
  text i id' := by
    rw [open_opened_iff, h.text, textSlot, hm, h.length]
    simp [hnone, textSlot, eq_comm]
  reasoning i := by
    simp only [open_opened_iff, reduceCtorEq, and_false, or_false, h.reasoning]
    simp [reasoningSlot, hm]
  tool i id' callId := by
    simp only [open_opened_iff, reduceCtorEq, and_false, or_false]
    exact h.tool i id' callId
  saw callId t x := h.saw_begin
  settled := h.settled_begin

theorem Mirrors.openReasoning (hm : s.message = some m)
    (hnone : m.reasoningOutputIndex = none) (id : String) :
    Mirrors { s with
      output := s.output ++ [(Head.reasoning id).item .inProgress ""]
      message := some { m with reasoningOutputIndex := some s.output.length } }
      (items ++ [.begin (.reasoning id)]) where
  output := h.output_begin
  shape m' hm' := by
    cases hm'
    obtain ⟨hrole, hnamed, hpart⟩ := h.shape m hm
    exact ⟨hrole, hnamed, hpart⟩
  text i id' := by
    simp only [open_opened_iff, reduceCtorEq, and_false, h.text]
    simp [textSlot, hm]
  reasoning i := by
    simp only [open_opened_iff, exists_or, h.reasoning, h.length]
    simp [reasoningSlot, hm, hnone, eq_comm]
  tool i id' callId := by
    simp only [open_opened_iff, reduceCtorEq, and_false, or_false]
    exact h.tool i id' callId
  saw callId t x := h.saw_begin
  settled := h.settled_begin

theorem Mirrors.openCall (hnew : s.tools[callId]? = none) (id name : String) :
    Mirrors { s with
      output := s.output ++ [(Head.call id callId name).item .inProgress ""]
      tools := s.tools.insert callId ⟨s.output.length, id, false⟩ }
      (items ++ [.begin (.call id callId name)]) where
  output := h.output_begin
  shape := h.shape
  text i id' := by
    simp only [open_opened_iff, reduceCtorEq, and_false, or_false]
    exact h.text i id'
  reasoning i := by
    simp only [open_opened_iff, reduceCtorEq, and_false, or_false]
    exact h.reasoning i
  tool i id' callId' := by
    simp only [open_opened_iff, exists_or, h.tool, h.length, Head.call.injEq,
      Std.TreeMap.getElem?_insert, Std.compare_eq_iff_eq]
    by_cases heq : callId = callId'
    · subst heq
      simp [hnew, eq_comm]
    · simp [heq, Ne.symm heq]
  saw callId' t x ht hx := by
    simp only [Std.TreeMap.getElem?_insert] at ht
    split_ifs at ht
    · cases ht
      rw [h.length, List.getElem?_concat_length, Option.some.injEq] at hx
      rw [← hx]
      rfl
    · exact h.saw_begin ht hx
  settled := h.settled_begin

theorem Mirrors.extendCall (ht : s.tools[callId]? = some t)
    (hi : items[t.outputIndex]? = some item) (hopen : item.last = none) (delta : String) :
    Mirrors { s with
      output := s.output.set t.outputIndex (outputItem (item.extend delta))
      tools := s.tools.insert callId { t with sawArgumentsDelta := true } }
      (items.set t.outputIndex (item.extend delta)) where
  output := h.set _
  shape := h.shape
  text j id := by rw [open_part_iff hi hopen]; exact h.text j id
  reasoning j := by simp only [open_part_iff hi hopen]; exact h.reasoning j
  tool j id callId' := by
    simp only [open_part_iff hi hopen, h.tool, Std.TreeMap.getElem?_insert]
    by_cases heq : callId = callId'
    · subst heq
      simp [ht]
    · simp [heq]
  saw callId' t' x ht' hx := by
    simp only [Std.TreeMap.getElem?_insert, Std.compare_eq_iff_eq] at ht'
    have hlt := (List.getElem?_eq_some_iff.mp hi).1
    split_ifs at ht' with heq
    · cases ht'
      rw [List.getElem?_set_self hlt, Option.some.injEq] at hx
      simp [← hx, Item.extend]
    · -- another call has another item
      have hne : t.outputIndex ≠ t'.outputIndex := by
        intro hindex
        obtain ⟨name, parts, hcall⟩ := (h.tool _ _ callId).mpr ⟨t, ht, rfl, rfl⟩
        obtain ⟨name', parts', hcall'⟩ := (h.tool _ _ callId').mpr ⟨t', ht', hindex.symm, rfl⟩
        rw [hcall] at hcall'
        simp only [Option.some.injEq, Item.mk.injEq, Head.call.injEq] at hcall'
        exact heq hcall'.1.2.1
      rw [List.getElem?_set_ne hne] at hx
      exact h.saw callId' t' x ht' hx
  settled := h.settled_set (settled_open hopen)

theorem Mirrors.saw_close (hi : items[i]? = some item) (text : String)
    {callId' : String} {x : Output} (ht : s.tools[callId']? = some t)
    (hx : (items.set i (item.close text))[t.outputIndex]? = some x) :
    t.sawArgumentsDelta = !x.parts.isEmpty := by
  by_cases hij : i = t.outputIndex
  · subst hij
    rw [List.getElem?_set_self (List.getElem?_eq_some_iff.mp hi).1, Option.some.injEq] at hx
    rw [h.saw callId' t item ht hi, ← hx]
    rfl
  · rw [List.getElem?_set_ne hij] at hx
    exact h.saw callId' t x ht hx

variable {parts : List String}

theorem Mirrors.closeMessage (hm : s.message = some m)
    (hindex : m.outputIndex = some i) (hid : m.itemId = some id)
    (hi : items[i]? = some ⟨.message id, parts, none⟩) :
    Mirrors { s with
      output := s.output.set i ((Head.message id).item .completed (String.join parts))
      message := some { m with outputIndex := none, itemId := none, textContentIndex := none } }
      (items.set i (Item.close ⟨.message id, parts, none⟩ (String.join parts))) where
  output := h.set (Item.close ⟨.message id, parts, none⟩ (String.join parts))
  shape m' hm' := by
    cases hm'
    exact ⟨(h.shape m hm).role, rfl, rfl⟩
  text j id' := by
    rw [open_closed_iff hi, h.text]
    simp +contextual [textSlot, hm, hindex, hid]
  reasoning j := by
    simp (disch := simp) only [open_closed_of_ne hi, h.reasoning]
    simp [reasoningSlot, hm]
  tool j id' callId' := by
    simp (disch := simp) only [open_closed_of_ne hi]
    exact h.tool j id' callId'
  saw callId' t x ht hx := h.saw_close hi (String.join parts) ht hx
  settled := h.settled_set (by rintro text ⟨⟩; rfl)

theorem Mirrors.closeReasoning (hm : s.message = some m)
    (hindex : m.reasoningOutputIndex = some i)
    (hi : items[i]? = some ⟨.reasoning id, parts, none⟩) : Mirrors { s with
      output := s.output.set i ((Head.reasoning id).item .completed (String.join parts))
      message := some { m with reasoningOutputIndex := none } }
      (items.set i (Item.close ⟨.reasoning id, parts, none⟩ (String.join parts))) where
  output := h.set (Item.close ⟨.reasoning id, parts, none⟩ (String.join parts))
  shape m' hm' := by
    cases hm'
    obtain ⟨hrole, hnamed, hpart⟩ := h.shape m hm
    exact ⟨hrole, hnamed, hpart⟩
  text j id' := by
    simp (disch := simp) only [open_closed_of_ne hi, h.text]
    simp [textSlot, hm]
  reasoning j := by
    simp only [open_closed_iff hi, exists_and_right, h.reasoning]
    simp [reasoningSlot, hm, hindex]
  tool j id' callId' := by
    simp (disch := simp) only [open_closed_of_ne hi]
    exact h.tool j id' callId'
  saw callId' t x ht hx := h.saw_close hi (String.join parts) ht hx
  settled := h.settled_set (by rintro text ⟨⟩; rfl)

theorem Mirrors.endMessage (hm : s.message = some m)
    (htext : m.outputIndex = none) (hreasoning : m.reasoningOutputIndex = none) :
    Mirrors { s with message := none } items where
  output := h.output
  shape m' hm' := by cases hm'
  text j id := by rw [h.text]; simp [textSlot, hm, htext]
  reasoning j := by rw [h.reasoning]; simp [reasoningSlot, hm, hreasoning]
  tool := h.tool
  saw := h.saw
  settled := h.settled

theorem Mirrors.closeCall (ht : s.tools[callId]? = some t)
    (hi : items[t.outputIndex]? = some ⟨.call t.itemId callId name, parts, none⟩)
    (harguments : parts ≠ [] → String.join parts = arguments) :
    Mirrors { s with
      output := s.output.set t.outputIndex
        ((Head.call t.itemId callId name).item .completed arguments)
      tools := s.tools.erase callId }
      (items.set t.outputIndex
        (Item.close ⟨.call t.itemId callId name, parts, none⟩ arguments)) where
  output := h.set (Item.close ⟨.call t.itemId callId name, parts, none⟩ arguments)
  shape := h.shape
  text j id' := by
    simp (disch := simp) only [open_closed_of_ne hi]
    exact h.text j id'
  reasoning j := by
    simp (disch := simp) only [open_closed_of_ne hi]
    exact h.reasoning j
  tool j id' callId' := by
    simp only [open_closed_iff hi, exists_and_right, h.tool, Std.TreeMap.getElem?_erase,
      Std.compare_eq_iff_eq]
    by_cases heq : callId = callId'
    · subst heq
      simp +contextual [ht]
    · -- the item of another call is another one
      simp only [heq, if_false, and_iff_left_iff_imp]
      rintro hother rfl
      obtain ⟨name', parts', hj⟩ := (h.tool _ _ _).mpr hother
      rw [hi] at hj
      simp only [Option.some.injEq, Item.mk.injEq, Head.call.injEq] at hj
      exact heq hj.1.2.1
  saw callId' t' x ht' hx := by
    simp only [Std.TreeMap.getElem?_erase] at ht'
    split_ifs at ht'
    exact h.saw_close hi arguments ht' hx
  settled := h.settled_set (by rintro text ⟨⟩; exact harguments)

end Mirrors

end CpaGateway.Responses.Items
