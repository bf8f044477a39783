import CpaGateway.Bridge.Meaning
import CpaGateway.Chat.Encoder
import CpaGateway.Lib.History

/-! # What the Chat encoder writes -/

namespace CpaGateway.Chat.Writing

open Bridge.Meaning Chat.Encoder Chat.Encoder.ChatSseEncoder Core.Error Core.Events Core.Json
open Lib.Effect Lib.Fallible

/-! ### One event -/

/-- A chunk with a fragment of the message. -/
def deltaFrame (metadata : ChatResponseMetadata) (s : ChatState) (delta : Value) : ChatSseFrame :=
  ⟨some (chunkObject metadata s [choiceValue delta .null] []), true⟩

def roleDelta : Value := .ofMembers [("role", .string "assistant"), ("content", .null)]

def textValue (text : String) : Value := .ofMembers [("content", .string text)]

def callValue (index : ℕ) (start : ToolCallStart) : Value :=
  toolDelta [("index", .ofIndex index), ("id", .string start.callId), ("type", .string "function"),
    ("function", .ofMembers [("name", .string start.name), ("arguments", .string "")])]

def fragmentValue (index : ℕ) (delta : String) : Value :=
  toolDelta [("index", .ofIndex index), ("function", .ofMembers [("arguments", .string delta)])]

def finishFrame (metadata : ChatResponseMetadata) (s : ChatState) (reason : String) :
    ChatSseFrame :=
  ⟨some (chunkObject metadata s [choiceValue (.ofMembers []) (.string reason)] []), true⟩

def usageFrame (metadata : ChatResponseMetadata) (s : ChatState) (usage : Value) : ChatSseFrame :=
  ⟨some (chunkObject metadata s [] [("usage", usage)]), true⟩

/-- The usage that the stream shows. -/
def shownUsage (metadata : ChatResponseMetadata) (s : ChatState) : Option Usage :=
  s.usage.filter fun _ => metadata.includeUsage

/-- The frames of an event, and the states before and after it. -/
inductive Wrote (metadata : ChatResponseMetadata) :
    Option ChatState → CanonicalEvent → List ChatSseFrame → Option ChatState → Prop
  | responseStart (start : ResponseStart) :
    Wrote metadata none (.responseStart start) [] (some { id := start.responseId.asStr })
  | messageStart (s : ChatState) (start : MessageStart) (hrole : start.role.value = "assistant") :
    Wrote metadata (some s) (.messageStart start) [deltaFrame metadata s roleDelta] (some s)
  | textDelta (s : ChatState) (delta : TextDelta) :
    Wrote metadata (some s) (.textDelta delta) [deltaFrame metadata s (textValue delta.text)]
      (some { s with text := s.text ++ delta.text })
  | toolCallStart (s : ChatState) (start : ToolCallStart) :
    Wrote metadata (some s) (.toolCallStart start)
      [deltaFrame metadata s (callValue s.tools.length start)]
      (some { s with tools := s.tools ++ [{ id := start.callId, name := start.name }] })
  | argumentsDelta (s : ChatState) (delta : ToolCallArgumentsDelta) (index : ℕ)
    (tool : ChatToolState)
      (hfind : findTool s.tools delta.callId = some (index, tool)) :
    Wrote metadata (some s) (.toolCallArgumentsDelta delta)
      [deltaFrame metadata s (fragmentValue index delta.delta)]
      (some { s with
        tools := s.tools.set index { tool with arguments := tool.arguments ++ delta.delta } })
  | toolCallEnd (s : ChatState) (e : ToolCallEnd) (index : ℕ) (tool : ChatToolState)
      (hfind : findTool s.tools e.callId = some (index, tool))
      (harguments : tool.arguments = e.arguments.get) :
    Wrote metadata (some s) (.toolCallEnd e) [] (some s)
  | usageDelta (s : ChatState) (delta : UsageDelta) (value : Value)
      (hvalue : usageValue delta.usage = .ok value) :
    Wrote metadata (some s) (.usageDelta delta) [] (some { s with usage := some delta.usage })
  | messageEnd (state : Option ChatState) (m : MessageEnd) :
    Wrote metadata state (.messageEnd m) [] state
  | finish (s : ChatState) (e : ResponseEnd) (reason : String)
      (hreason : chatFinishReason e.stopReason (!s.tools.isEmpty) = .ok reason)
      (hshown : shownUsage metadata s = none) :
    Wrote metadata (some s) (.responseEnd e) [finishFrame metadata s reason, doneFrame]
      (some { s with finishReason := some reason })
  | finishWithUsage (s : ChatState) (e : ResponseEnd) (reason : String) (usage : Usage)
    (value : Value)
      (hreason : chatFinishReason e.stopReason (!s.tools.isEmpty) = .ok reason)
      (hshown : shownUsage metadata s = some usage) (hvalue : usageValue usage = .ok value) :
    Wrote metadata (some s) (.responseEnd e)
      [finishFrame metadata s reason, usageFrame metadata s value, doneFrame]
      (some { s with finishReason := some reason })
  | streamError (state : Option ChatState) (e : StreamError) :
    Wrote metadata state (.streamError e) [⟨some (encodeError e.error), true⟩, doneFrame] state

variable {frames : List ChatSseFrame} {e : CanonicalEvent} {frame : ChatSseFrame}
  {err : GatewayError}

section Events

variable {s s' : ChatSseEncoder} {t : ChatState}

theorem call_stateRef_ok : stateRef.call s = (.ok t, s') ↔ s.state = some t ∧ s = s' := by
  simp only [stateRef, call_ok]

theorem call_setState_ok {u : Unit} :
    (setState t).call s = (.ok u, s') ↔ { s with state := some t } = s' := call_modify_ok

theorem call_chunk_ok {delta : Value} :
    (chunk delta true).call s = (.ok frame, s') ↔
      ∃ t, s.state = some t ∧ deltaFrame s.metadata t delta = frame ∧ s = s' := by
  simp only [chunk, call_ok, call_stateRef_ok]
  rfl

theorem usageFrames_ok (ht : s.state = some t) (h : usageFrames.call s = (.ok frames, s')) :
    s' = s ∧ (shownUsage s.metadata t = none ∧ frames = [] ∨
      ∃ usage value, shownUsage s.metadata t = some usage ∧ usageValue usage = .ok value ∧
        frames = [usageFrame s.metadata t value]) := by
  simp only [usageFrames, call_ok, call_stateRef_ok] at h
  obtain ⟨t', ht', h⟩ := h
  cases ht.symm.trans ht'
  rcases hshown : shownUsage s.metadata t with _ | usage <;> rw [shownUsage] at hshown
  · simp only [hshown, call_pure_ok] at h
    exact ⟨h.2.symm, .inl ⟨rfl, h.1.symm⟩⟩
  · simp only [hshown, usageChunk, call_ok, call_stateRef_ok] at h
    obtain ⟨_, _, ⟨t', ht'', value, hvalue, rfl, rfl⟩, rfl, rfl⟩ := h
    cases ht.symm.trans ht''
    exact ⟨rfl, .inr ⟨usage, value, rfl, hvalue, rfl⟩⟩

theorem encodeValidEvent_ok (h : (encodeValidEvent e).call s = (.ok frames, s')) :
    s'.metadata = s.metadata ∧ s'.lifecycle = s.lifecycle ∧
      Wrote s.metadata s.state e frames s'.state := by
  cases e with
  | responseStart start =>
    simp only [encodeValidEvent, encodeResponseStart, call_ok, call_setState_ok] at h
    obtain ⟨_, hnone, _, rfl, rfl⟩ := h
    rw [Option.isNone_iff_eq_none.mp hnone]
    exact ⟨rfl, rfl, .responseStart start⟩
  | messageStart start =>
    simp only [encodeValidEvent, encodeMessageStart, call_ok, call_chunk_ok, decide_eq_true_eq] at h
    obtain ⟨_, hrole, _, _, ⟨t, ht, rfl, rfl⟩, rfl, rfl⟩ := h
    rw [ht]
    exact ⟨rfl, rfl, .messageStart t start hrole⟩
  | textDelta delta =>
    simp only [encodeValidEvent, encodeTextDelta, call_ok, call_stateRef_ok, call_setState_ok,
      call_chunk_ok] at h
    obtain ⟨t, ht, _, _, _, ⟨t', ht', rfl, rfl⟩, rfl, rfl⟩ := h
    cases ht'
    rw [ht]
    exact ⟨rfl, rfl, .textDelta t delta⟩
  | reasoningDelta delta => simp [encodeValidEvent] at h
  | toolCallStart start =>
    simp only [encodeValidEvent, encodeToolCallStart, call_ok, call_stateRef_ok, call_setState_ok,
      call_chunk_ok] at h
    obtain ⟨t, ht, _, _, _, ⟨t', ht', rfl, rfl⟩, rfl, rfl⟩ := h
    cases ht'
    rw [ht]
    exact ⟨rfl, rfl, .toolCallStart t start⟩
  | toolCallArgumentsDelta delta =>
    simp only [encodeValidEvent, encodeArgumentsDelta, call_ok, call_stateRef_ok, call_setState_ok,
      call_chunk_ok] at h
    obtain ⟨t, ht, ⟨index, tool⟩, hfind, _, _, _, ⟨t', ht', rfl, rfl⟩, rfl, rfl⟩ := h
    cases ht'
    rw [ht]
    exact ⟨rfl, rfl, .argumentsDelta t delta index tool hfind⟩
  | toolCallEnd e =>
    simp only [encodeValidEvent, encodeToolCallEnd, call_ok, call_stateRef_ok,
      decide_eq_true_eq] at h
    obtain ⟨t, ht, ⟨index, tool⟩, hfind, _, harguments, rfl, rfl⟩ := h
    rw [ht]
    exact ⟨rfl, rfl, .toolCallEnd t e index tool hfind harguments⟩
  | usageDelta delta =>
    simp only [encodeValidEvent, encodeUsageDelta, call_ok, call_stateRef_ok, call_setState_ok] at h
    obtain ⟨value, hvalue, t, ht, _, rfl, rfl⟩ := h
    rw [ht]
    exact ⟨rfl, rfl, .usageDelta t delta value hvalue⟩
  | messageEnd m =>
    obtain ⟨rfl, rfl⟩ := h
    exact ⟨rfl, rfl, .messageEnd _ m⟩
  | responseEnd r =>
    simp only [encodeValidEvent, encodeResponseEnd, call_ok, call_stateRef_ok, call_setState_ok,
      chunkWithFinish] at h
    obtain ⟨t, ht, reason, hreason, _, _, _, ⟨t', ht', rfl, rfl⟩, usage, _, husage, rfl, rfl⟩ := h
    cases ht'
    rw [ht]
    obtain ⟨rfl, ⟨hshown, rfl⟩ | ⟨usage, value, hshown, hvalue, rfl⟩⟩ := usageFrames_ok rfl husage
    · exact ⟨rfl, rfl, .finish t r reason hreason hshown⟩
    · exact ⟨rfl, rfl, .finishWithUsage t r reason usage value hreason hshown hvalue⟩
  | streamError e =>
    simp only [encodeValidEvent, call_pure_ok] at h
    obtain ⟨rfl, rfl⟩ := h
    exact ⟨rfl, rfl, .streamError _ e⟩

/-- **One accepted event.** -/
theorem encodeEvent_ok (h : (encodeEvent e).call s = (.ok frames, s')) :
    s'.metadata = s.metadata ∧ s.lifecycle.apply e = .ok s'.lifecycle ∧
      Wrote s.metadata s.state e frames s'.state := by
  simp only [encodeEvent, call_ok, call_orRestore_ok] at h
  obtain ⟨_, -, lifecycle, hlifecycle, _, t, hvalid, _, rfl, rfl⟩ := h
  obtain ⟨hmetadata, -, hwrote⟩ := encodeValidEvent_ok hvalid
  exact ⟨hmetadata, hlifecycle, hwrote⟩

/-- Everything but the state. -/
def outside (s : ChatSseEncoder) : ChatResponseMetadata × CanonicalEventState :=
  (s.metadata, s.lifecycle)

@[simp] theorem keeps_stateRef : Keeps outside stateRef := keeps_bind (by simp) fun _ => by simp

@[simp] theorem keeps_setState (t : ChatState) : Keeps outside (setState t) :=
  keeps_modify fun _ => rfl

@[simp] theorem keeps_chunk (delta : Value) (semantic : Bool) :
    Keeps outside (chunk delta semantic) := by
  repeat refine keeps_bind (by simp) fun _ => ?_
  simp

@[simp] theorem keeps_usageFrames : Keeps outside usageFrames := by
  refine keeps_bind (by simp) fun t => keeps_bind (by simp) fun s => ?_
  cases t.usage.filter fun _ => s.metadata.includeUsage with
  | none => simp
  | some usage =>
    refine keeps_bind ?_ fun _ => by simp
    repeat refine keeps_bind (by simp) fun _ => ?_
    simp

theorem keeps_encodeValidEvent (e : CanonicalEvent) : Keeps outside (encodeValidEvent e) := by
  cases e with
  | responseEnd r =>
    refine keeps_bind (by simp) fun _ => keeps_bind (by simp) fun _ => keeps_bind (by simp) fun _ =>
      keeps_bind ?_ fun _ => keeps_bind (by simp) fun _ => by simp
    repeat refine keeps_bind (by simp) fun _ => ?_
    simp
  | _ =>
    unfold encodeValidEvent
    repeat refine keeps_bind (by simp) fun _ => ?_
    simp

theorem orRestore_error
    (h : ((encodeValidEvent e).orRestore fun before after =>
      { after with state := before.state }).call s = (.error err, s')) : s' = s := by
  obtain ⟨t, hfailed, rfl⟩ := call_orRestore_error.mp h
  have houtside := keeps_encodeValidEvent e s
  rw [hfailed] at houtside
  obtain ⟨hmetadata, hlifecycle⟩ := Prod.mk.inj houtside
  rw [hmetadata, hlifecycle]

/-- **A refused event** leaves the encoder as it was. -/
theorem encodeEvent_error (h : (encodeEvent e).call s = (.error err, s')) : s' = s := by
  have hends : Ends (encodeEvent e) s fun o t => ∀ err, o = .error err → t = s := by
    refine ends_ensure_bind (fun _ => ?_) fun _ _ _ => rfl
    refine ends_get_bind ?_
    refine ends_lift_bind (fun lifecycle _ => ?_) fun _ _ _ _ => rfl
    refine ends_bind (R := fun o t => ∀ err, o = .error err → t = s) ?_ ?_ fun _ _ h => h
    · intro err' herr
      exact orRestore_error (Prod.ext herr rfl)
    · intro written t _
      refine ends_modify_bind (ends_pure ?_)
      intro err' herr
      cases herr
  have hsame := hends err
  rw [h] at hsame
  exact hsame rfl

end Events

/-! ### The completion object -/

def completedObject (metadata : ChatResponseMetadata) (s : ChatState) (reason : String)
    (usage : Value) : Value :=
  .ofMembers [("id", .string s.id), ("object", .string "chat.completion"),
    ("created", .ofU64 metadata.createdAt), ("model", .string metadata.model),
    ("choices", .array [.ofMembers [("index", .ofIndex 0), ("message", s.messageValue),
      ("finish_reason", .string reason)]]),
    ("usage", usage)]

theorem intoCompletedResponse_ok {s : ChatSseEncoder} {object : Value} :
    s.intoCompletedResponse = .ok object ↔ s.lifecycle.isSuccess = true ∧
      ∃ t reason usage, s.state = some t ∧ t.finishReason = some reason ∧
        optionalUsageValue t.usage = .ok usage ∧
        completedObject s.metadata t reason usage = object := by
  simp only [intoCompletedResponse, except_ok, exists_and_left, exists_const, completedObject]

/-! ### Runs -/

/-- A call as the encoder keeps it. -/
def toolOf (call : Call) : ChatToolState := ⟨call.id, call.name, call.arguments⟩

/-- The state holds what was said. -/
structure Held (m : Summary) (s : ChatState) : Prop where
  id : m.responseId = some s.id
  text : s.text = m.text
  tools : s.tools = m.calls.map toolOf
  usage : s.usage = m.usage
  reasoning : m.reasoning = ""

/-- The state holds what was said, or nothing was said. -/
def Holds (m : Summary) : Option ChatState → Prop
  | none => m = {}
  | some s => Held m s

section Runs

variable {m : Summary} {metadata : ChatResponseMetadata} {state state' : Option ChatState}
  {index : ℕ} {tool : ChatToolState}

theorem findTool_some {tools : List ChatToolState} {callId : String}
    (h : findTool tools callId = some (index, tool)) :
    tools[index]? = some tool ∧ tool.id = callId := by
  obtain ⟨i, hi, hget⟩ := Option.bind_eq_some_iff.mp h
  obtain ⟨tool', htool, heq⟩ := Option.map_eq_some_iff.mp hget
  cases heq
  obtain ⟨hlt, hid, -⟩ := List.findIdx?_eq_some_iff_getElem.mp hi
  rw [(List.getElem?_eq_some_iff.mp htool).2, decide_eq_true_eq] at hid
  exact ⟨htool, hid⟩

theorem Held.find {s : ChatState} {callId : String}
    (h : Held m s) (hfind : findTool s.tools callId = some (index, tool)) :
    ∃ call, m.calls[index]? = some call ∧ call.id = callId ∧ tool = toolOf call := by
  obtain ⟨htool, hid⟩ := findTool_some hfind
  rw [h.tools, List.getElem?_map] at htool
  obtain ⟨call, hcall, rfl⟩ := Option.map_eq_some_iff.mp htool
  exact ⟨call, hcall, hid, rfl⟩

theorem Held.complete {s : ChatState} {e : ToolCallEnd}
    (h : Held m s) (hnodup : (m.calls.map Call.id).Nodup)
    (hfind : findTool s.tools e.callId = some (index, tool))
    (harguments : tool.arguments = e.arguments.get) : m.step (.toolCallEnd e) = m := by
  obtain ⟨call, hcall, hid, rfl⟩ := h.find hfind
  have hcomplete : Call.complete e.arguments.get call = call := by
    rw [← harguments]
    rfl
  have hsame : onCall e.callId (Call.complete e.arguments.get) m.calls = m.calls := by
    rw [← hid, onCall_eq_set hnodup hcall, hcomplete]
    obtain ⟨hlt, rfl⟩ := List.getElem?_eq_some_iff.mp hcall
    exact List.set_getElem_self hlt
  rw [Summary.step, hsame]

/-- **One event**: the state holds it. -/
theorem Holds.step (h : Holds m state) (hnodup : (m.calls.map Call.id).Nodup)
    (hw : Wrote metadata state e frames state') : Holds (m.step e) state' := by
  cases hw with
  | responseStart start =>
    obtain rfl : m = {} := h
    exact ⟨rfl, rfl, rfl, rfl, rfl⟩
  | messageStart s start hrole => exact h
  | textDelta s delta => exact ⟨h.id, by simp [Summary.step, h.text], h.tools, h.usage, h.reasoning⟩
  | toolCallStart s start =>
    exact ⟨h.id, h.text, by simp [Summary.step, h.tools, toolOf], h.usage, h.reasoning⟩
  | argumentsDelta s delta index tool hfind =>
    obtain ⟨call, hcall, hid, rfl⟩ := Held.find h hfind
    refine ⟨h.id, h.text, ?_, h.usage, h.reasoning⟩
    rw [Summary.step, ← hid, onCall_eq_set hnodup hcall, List.map_set, h.tools]
    rfl
  | toolCallEnd s e index tool hfind harguments =>
    rw [Held.complete h hnodup hfind harguments]
    exact h
  | usageDelta s delta value hvalue => exact ⟨h.id, h.text, h.tools, rfl, h.reasoning⟩
  | messageEnd state m => exact h
  | finish | finishWithUsage => exact ⟨h.id, h.text, h.tools, h.usage, h.reasoning⟩
  | streamError state e => exact h

/-- After events that the encoder accepted one by one. -/
structure Written (metadata : ChatResponseMetadata) (events : List CanonicalEvent)
    (s : ChatSseEncoder) : Prop where
  same : s.metadata = metadata
  lifecycle : CanonicalEventState.applyAll {} events = .ok s.lifecycle
  state : Holds (meaning events) s.state
  usage : ∀ usage, (meaning events).usage = some usage → ∃ value, usageValue usage = .ok value

theorem usage_step {usage : Usage} (hw : Wrote metadata state e frames state')
    (h : (m.step e).usage = some usage) :
    m.usage = some usage ∨ ∃ value, usageValue usage = .ok value := by
  cases hw with
  | usageDelta s delta value hvalue =>
    cases h
    exact .inr ⟨value, hvalue⟩
  | _ => exact .inl h

theorem Written.step {events : List CanonicalEvent} {s s' : ChatSseEncoder}
    (h : Written metadata events s) (hcall : (encodeEvent e).call s = (.ok frames, s')) :
    Written metadata (events ++ [e]) s' := by
  obtain ⟨hmetadata, hlifecycle, hwrote⟩ := encodeEvent_ok hcall
  refine ⟨hmetadata.trans h.same,
    CanonicalEventState.applyAll_snoc_ok.mpr ⟨_, h.lifecycle, hlifecycle⟩, ?_, ?_⟩
  · rw [meaning_snoc]
    exact h.state.step (calls_nodup h.lifecycle) hwrote
  · intro usage husage
    rw [meaning_snoc] at husage
    rcases usage_step hwrote husage with hbefore | hvalue
    · exact h.usage usage hbefore
    · exact hvalue

end Runs

end CpaGateway.Chat.Writing
