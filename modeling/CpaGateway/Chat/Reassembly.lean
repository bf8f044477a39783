import CpaGateway.Chat.Writing
import Mathlib.Data.Option.Basic

/-! # What a client makes of the chunks of the Chat encoder

A client of the stream puts the fragments of the message together; a client that did not ask for a
stream gets the completion object. -/

namespace CpaGateway.Chat.Reassembly

open Bridge.Meaning Chat.Encoder Chat.Encoder.ChatSseEncoder Chat.Writing Core.Error Core.Events
open Core.Grammar Core.Json Lib.Effect Lib.History CanonicalEventState

/-! ### The client -/

/-- What a client has of a message. -/
structure Client where
  role : Option String := none
  content : Option String := none
  calls : List Call := []
  finishReason : Option String := none
  usage : Option Value := none

namespace Client

/-- A fragment of a call. One with the next index starts a call. -/
def takeCall (c : Client) (call : Value) : Option Client := do
  let index ← (call.get "index").bind Value.asU64
  let function ← call.get "function"
  let arguments := (function.getStr "arguments").getD ""
  match c.calls[index.toNat]? with
  | some known => return { c with calls := c.calls.set index.toNat (known.append arguments) }
  | none => do
    guard (index.toNat = c.calls.length)
    let id ← call.getStr "id"
    let name ← function.getStr "name"
    return { c with calls := c.calls ++ [{ id, name, arguments }] }

/-- A text fragment, if there is one. -/
def appendContent (content text : Option String) : Option String :=
  match text with
  | none => content
  | some text => some (content.getD "" ++ text)

def takeChoice (c : Client) (choice : Value) : Option Client := do
  let delta ← choice.get "delta"
  let calls := ((delta.get "tool_calls").bind Value.asArray).getD []
  calls.foldlM takeCall { c with
    role := (delta.getStr "role").or c.role
    content := appendContent c.content (delta.getStr "content")
    finishReason := (choice.getStr "finish_reason").or c.finishReason }

/-- One frame; the terminal marker says nothing. -/
def take (c : Client) (frame : ChatSseFrame) : Option Client :=
  match frame.data with
  | none => some c
  | some data => do
    let choices ← (data.get "choices").bind Value.asArray
    let c ← choices.foldlM takeChoice c
    return { c with usage := (data.get "usage").or c.usage }

/-- Frames in turn. -/
def takeAll (c : Client) (frames : List ChatSseFrame) : Option Client := frames.foldlM take c

/-- The message the client has put together. A message is an assistant's unless it says otherwise.
-/
def message (c : Client) : Value :=
  .ofMembers <|
    [("role", .string (c.role.getD "assistant")), ("content", .ofOption c.content)] ++
    if c.calls.isEmpty then []
    else [("tool_calls", .array (c.calls.map fun call => .ofMembers [("id", .string call.id),
      ("type", .string "function"), ("function", .ofMembers [("name", .string call.name),
        ("arguments", .string call.arguments)])]))]

end Client

/-- The part of a response that both clients read. -/
structure View where
  message : Value
  finishReason : Value
  usage : Value

/-- The response a client of the stream has put together. -/
def streamView (frames : List ChatSseFrame) : Option View := do
  let c ← Client.takeAll {} frames
  let finishReason ← c.finishReason
  return ⟨c.message, .string finishReason, c.usage.getD .null⟩

/-- The completion object. -/
def objectView (object : Value) : Option View := do
  let choices ← (object.get "choices").bind Value.asArray
  let choice ← choices.head?
  let message ← choice.get "message"
  let finishReason ← choice.get "finish_reason"
  let usage ← object.get "usage"
  return ⟨message, finishReason, usage⟩

/-! ### Frames -/

/-- The client has what was said so far, and nothing of the end. -/
structure Seen (c : Client) (m : Summary) : Prop where
  role : c.role.getD "assistant" = "assistant"
  content : c.content = if m.text = "" then none else some m.text
  calls : c.calls = m.calls
  finishReason : c.finishReason = none
  usage : c.usage = none

variable {metadata : ChatResponseMetadata} {m : Summary} {c : Client}

section Frames

variable {s : ChatState} {delta : Value}

theorem takeAll_append (frames rest : List ChatSseFrame) :
    c.takeAll (frames ++ rest) = (c.takeAll frames).bind (Client.takeAll · rest) :=
  List.foldlM_append ..

theorem take_delta : c.take (deltaFrame metadata s delta) =
    (((delta.get "tool_calls").bind Value.asArray).getD []).foldlM Client.takeCall { c with
      role := (delta.getStr "role").or c.role
      content := Client.appendContent c.content (delta.getStr "content") } := by
  simp only [Client.take, deltaFrame, chunkObject, Value.get_ofMembers]
  simp only [List.reverse_cons, List.reverse_nil, List.nil_append, List.cons_append,
    List.find?_cons, String.reduceEq, decide_true, Option.map_some, Option.bind_eq_bind,
    Option.bind_some, Value.asArray, List.foldlM_cons]
  simp [Client.takeChoice, choiceValue, Value.get_ofMembers, Value.getStr]
  exact Option.bind_fun_some _

theorem Seen.take_role (h : Seen c m) :
    ∃ c', c.take (deltaFrame metadata s roleDelta) = some c' ∧ Seen c' m := by
  refine ⟨{ c with role := some "assistant" }, ?_,
    ⟨rfl, h.content, h.calls, h.finishReason, h.usage⟩⟩
  rw [take_delta]
  simp [roleDelta, Value.get_ofMembers, Value.getStr, Value.asStr, Client.appendContent]

theorem Seen.take_text {text : String} (h : Seen c m) (htext : text ≠ "") :
    ∃ c', c.take (deltaFrame metadata s (textValue text)) = some c' ∧
      Seen c' { m with text := m.text ++ text } := by
  refine ⟨{ c with content := some (m.text ++ text) }, ?_,
    ⟨h.role, by simp [htext], h.calls, h.finishReason, h.usage⟩⟩
  have hcontent : c.content.getD "" = m.text := by
    rw [h.content]
    split_ifs with hempty
    · exact hempty.symm
    · rfl
  rw [take_delta]
  simp [textValue, Value.get_ofMembers, Value.getStr, Value.asStr, Client.appendContent, hcontent]

theorem Seen.take_call {start : ToolCallStart} (h : Seen c m) (hlength : m.calls.length < 2 ^ 64) :
    ∃ c', c.take (deltaFrame metadata s (callValue m.calls.length start)) = some c' ∧
      Seen c' { m with calls := m.calls ++ [{ id := start.callId, name := start.name }] } := by
  refine ⟨{ c with calls := c.calls ++ [{ id := start.callId, name := start.name }] }, ?_,
    ⟨h.role, h.content, by simp [h.calls], h.finishReason, h.usage⟩⟩
  rw [take_delta]
  simp [callValue, toolDelta, Value.get_ofMembers, Value.getStr, Value.asStr, Client.appendContent,
    Value.asArray, Client.takeCall, Value.ofIndex, Value.ofU64, Value.asU64,
    UInt64.toNat_ofNat_of_lt' hlength, h.calls]

theorem Seen.take_fragment {index : ℕ} {call : Call} {text : String} (h : Seen c m)
    (hcall : m.calls[index]? = some call) (hlength : m.calls.length ≤ 2 ^ 64) :
    ∃ c', c.take (deltaFrame metadata s (fragmentValue index text)) = some c' ∧
      Seen c' { m with calls := m.calls.set index (call.append text) } := by
  refine ⟨{ c with calls := m.calls.set index (call.append text) }, ?_,
    ⟨h.role, h.content, rfl, h.finishReason, h.usage⟩⟩
  have hindex : index < 2 ^ 64 :=
    Nat.lt_of_lt_of_le (List.getElem?_eq_some_iff.mp hcall).1 hlength
  rw [take_delta]
  simp [fragmentValue, toolDelta, Value.get_ofMembers, Value.getStr, Value.asStr,
    Client.appendContent, Value.asArray, Client.takeCall, Value.ofIndex, Value.ofU64, Value.asU64,
    UInt64.toNat_ofNat_of_lt' hindex, h.calls, hcall]

end Frames

/-! ### Runs -/

variable {events : List CanonicalEvent}

section Runs

variable {e : CanonicalEvent} {frames out : List ChatSseFrame} {s s' : ChatSseEncoder}

theorem takeAll_singleton (frame : ChatSseFrame) : c.takeAll [frame] = c.take frame := by
  exact Option.bind_fun_some _

/-- **One event**, other than the end of the response: the client has it. -/
theorem Seen.step {state state' : Option ChatState} (h : Seen c m) (hheld : Holds m state)
    (hnodup : (m.calls.map Call.id).Nodup) (hw : Wrote metadata state e frames state')
    (htext : ∀ delta, e = .textDelta delta → delta.text ≠ "") (hopen : e.isTerminal = false)
    (hlength : (m.step e).calls.length ≤ 2 ^ 64) :
    ∃ c', c.takeAll frames = some c' ∧ Seen c' (m.step e) := by
  cases hw with
  | responseStart
  | usageDelta => exact ⟨c, rfl, h.role, h.content, h.calls, h.finishReason, h.usage⟩
  | messageStart s start hrole =>
    rw [takeAll_singleton]
    exact h.take_role
  | textDelta s delta =>
    rw [takeAll_singleton]
    exact h.take_text (htext delta rfl)
  | toolCallStart s start =>
    rw [takeAll_singleton, hheld.tools, List.length_map]
    have hnext : (m.calls ++ [_]).length ≤ 2 ^ 64 := hlength
    rw [List.length_append] at hnext
    exact h.take_call hnext
  | argumentsDelta s delta index tool hfind =>
    obtain ⟨call, hcall, hid, rfl⟩ := Held.find hheld hfind
    rw [takeAll_singleton, Summary.step, ← hid, onCall_eq_set hnodup hcall]
    have hsame : (onCall delta.callId (Call.append delta.delta) m.calls).length ≤ 2 ^ 64 := hlength
    rw [onCall, List.length_map] at hsame
    exact h.take_fragment hcall hsame
  | toolCallEnd s e index tool hfind harguments =>
    rw [Held.complete hheld hnodup hfind harguments]
    exact ⟨c, rfl, h⟩
  | messageEnd state x => exact ⟨c, rfl, h⟩
  | finish s e reason hreason hshown => cases hopen
  | finishWithUsage s e reason usage value hreason hshown hvalue => cases hopen
  | streamError state e => cases hopen

/-- What the encoder and the client have after events that were accepted one by one. -/
structure Followed (metadata : ChatResponseMetadata) (events : List CanonicalEvent)
    (out : List ChatSseFrame) (s : ChatSseEncoder) : Prop where
  written : Written metadata events s
  seen : s.lifecycle.isTerminal = false → (meaning events).calls.length ≤ 2 ^ 64 →
    ∃ c, Client.takeAll {} out = some c ∧ Seen c (meaning events)

theorem length_le_step (m : Summary) (e : CanonicalEvent) :
    m.calls.length ≤ (m.step e).calls.length := by
  cases e <;> simp [Summary.step, onCall]

theorem Followed.step (h : Followed metadata events out s)
    (hcall : (encodeEvent e).call s = (.ok frames, s')) :
    Followed metadata (events ++ [e]) (out ++ frames) s' := by
  have hwritten := h.written.step hcall
  obtain ⟨-, hlifecycle, hwrote⟩ := encodeEvent_ok hcall
  refine ⟨hwritten, fun hopen hlength => ?_⟩
  rw [meaning_snoc] at hlength ⊢
  have hterminal : e.isTerminal = false := (isTerminal_of_apply hlifecycle).symm.trans hopen
  obtain ⟨c, hc, hseen⟩ := h.seen (not_terminal_of_apply hlifecycle)
    (Nat.le_trans (length_le_step _ e) hlength)
  have htext : ∀ delta, e = .textDelta delta → delta.text ≠ "" := by
    rintro delta rfl
    exact (legal_of_run hwritten.lifecycle (by simp) (by simp)).2
  obtain ⟨c', hc', hseen'⟩ :=
    hseen.step h.written.state (calls_nodup h.written.lifecycle) hwrote htext
    hterminal hlength
  exact ⟨c', by rw [takeAll_append, hc, Option.bind_some, hc'], hseen'⟩

/-- **A run.** -/
theorem followed_of_run
    (h : (Method.collect encodeEvent events).call (.new metadata) = (.ok out, s)) :
    Followed metadata events out s := by
  have hnew : Followed metadata [] [] (.new metadata) :=
    ⟨⟨rfl, rfl, rfl, nofun⟩, fun _ _ => ⟨{}, rfl, rfl, rfl, rfl, rfl, rfl⟩⟩
  exact collect_invariant Followed.step hnew h

end Runs

/-! ### The completion object -/

section Object

variable {s : ChatState}

theorem Seen.message (h : Seen c m) (hheld : Held m s) : c.message = s.messageValue := by
  have hcontent : Value.ofOption c.content = if s.text.isEmpty then .null else .string s.text := by
    rw [h.content, hheld.text]
    by_cases hempty : m.text = "" <;> simp [hempty, Value.ofOption]
  rw [Client.message, ChatState.messageValue, hcontent, h.role, h.calls, hheld.tools,
    List.isEmpty_map, List.map_map]
  rfl

theorem takeAll_finish (reason : String) :
    c.takeAll [finishFrame metadata s reason, doneFrame] =
      some { c with finishReason := some reason } := by
  simp [Client.takeAll, Client.take, finishFrame, chunkObject, choiceValue, Value.get_ofMembers,
    Value.asArray, Client.takeChoice, Value.getStr, Value.asStr, Client.appendContent, doneFrame]

theorem takeAll_finishWithUsage (reason : String) (usage : Value) :
    c.takeAll [finishFrame metadata s reason, usageFrame metadata s usage, doneFrame] =
      some { c with finishReason := some reason, usage := some usage } := by
  simp [Client.takeAll, Client.take, finishFrame, usageFrame, chunkObject, choiceValue,
    Value.get_ofMembers, Value.asArray, Client.takeChoice, Value.getStr, Value.asStr,
    Client.appendContent, doneFrame]

theorem objectView_completed (reason : String) (usage : Value) :
    objectView (completedObject metadata s reason usage) =
      some ⟨s.messageValue, .string reason, usage⟩ := by
  simp [objectView, completedObject, Value.get_ofMembers, Value.asArray]

end Object

/-! ### Refused events -/

/-- Events that are offered one by one, refused ones too: what each of them gave, and the encoder.
-/
def offer (s : ChatSseEncoder) : List CanonicalEvent →
    List (Except GatewayError (List ChatSseFrame)) × ChatSseEncoder
  | [] => ([], s)
  | e :: events =>
    let (result, s') := (encodeEvent e).call s
    let (results, last) := offer s' events
    (result :: results, last)

theorem offer_append (s : ChatSseEncoder) (p q : List CanonicalEvent) :
    offer s (p ++ q) = ((offer s p).1 ++ (offer (offer s p).2 q).1, (offer (offer s p).2 q).2) := by
  induction p generalizing s with
  | nil => rfl
  | cons e p ih => simp [offer, ih]

/-- An event that is refused might as well not have been offered. -/
theorem offer_refused {s : ChatSseEncoder} {p q : List CanonicalEvent} {e : CanonicalEvent}
    {err : GatewayError} (h : ((encodeEvent e).call (offer s p).2).1 = .error err) :
    ∃ before after, (offer s (p ++ e :: q)).1 = before ++ .error err :: after ∧
      (offer s (p ++ q)).1 = before ++ after ∧
        (offer s (p ++ e :: q)).2 = (offer s (p ++ q)).2 := by
  have hcall : (encodeEvent e).call (offer s p).2 = (.error err, (offer s p).2) :=
    Prod.ext h (encodeEvent_error (Prod.ext h rfl))
  refine ⟨(offer s p).1, (offer (offer s p).2 q).1, ?_, ?_, ?_⟩
  · rw [offer_append, offer, hcall]
  · rw [offer_append]
  · rw [offer_append, offer_append, offer, hcall]

/-! ### The two clients -/

section Clients

variable {r : ResponseEnd} {frames : List ChatSseFrame} {encoder : ChatSseEncoder}

theorem views_of_run
    (h : (Method.collect encodeEvent (events ++ [.responseEnd r])).call (.new metadata) =
      (.ok frames, encoder)) (hlength : (meaning events).calls.length ≤ 2 ^ 64) :
    ∃ object view, encoder.intoCompletedResponse = .ok object ∧ objectView object = some view ∧
      streamView frames =
        some (if metadata.includeUsage then view else { view with usage := .null }) := by
  simp only [collect_snoc, call_ok] at h
  obtain ⟨out, s, hrun, last, encoder, hlast, rfl, rfl⟩ := h
  have hfollowed := followed_of_run hrun
  obtain ⟨hmetadata, hlifecycle, hwrote⟩ := encodeEvent_ok hlast
  obtain ⟨c, hc, hseen⟩ := hfollowed.seen (not_terminal_of_apply hlifecycle) hlength
  have hstate := hfollowed.written.state
  have hsuccess := isSuccess_of_responseEnd hlifecycle
  rw [hfollowed.written.same] at hmetadata hwrote
  generalize hs : s.state = state at hwrote hstate
  generalize hs' : encoder.state = state' at hwrote
  cases hwrote with
  | finish t r reason hreason hshown =>
    obtain ⟨usage, husage, hnull⟩ : ∃ usage, optionalUsageValue t.usage = .ok usage ∧
        (metadata.includeUsage = true → usage = .null) := by
      rcases ht : t.usage with _ | usage
      · exact ⟨.null, rfl, fun _ => rfl⟩
      · obtain ⟨value, hvalue⟩ := hfollowed.written.usage usage (hstate.usage.symm.trans ht)
        refine ⟨value, hvalue, fun hinclude => ?_⟩
        simp [shownUsage, ht, hinclude] at hshown
    refine ⟨_, _, intoCompletedResponse_ok.mpr ⟨hsuccess, _, reason, usage, hs', rfl, husage, rfl⟩,
      objectView_completed reason usage, ?_⟩
    have hmessage : Client.message { c with finishReason := some reason } = t.messageValue :=
      hseen.message hstate
    rw [streamView, takeAll_append, hc, Option.bind_some, takeAll_finish]
    simp only [Option.bind_eq_bind, Option.bind_some, hmessage]
    rw [hseen.usage]
    split_ifs with hinclude
    · rw [hnull hinclude]
      rfl
    · rfl
  | finishWithUsage t r reason usage value hreason hshown hvalue =>
    obtain ⟨ht, hinclude⟩ : t.usage = some usage ∧ metadata.includeUsage = true := by
      simpa [shownUsage] using hshown
    have husage : optionalUsageValue t.usage = .ok value := by rw [ht]; exact hvalue
    refine ⟨_, _, intoCompletedResponse_ok.mpr ⟨hsuccess, _, reason, value, hs', rfl, husage, rfl⟩,
      objectView_completed reason value, ?_⟩
    have hmessage : Client.message { c with finishReason := some reason, usage := some value } =
        t.messageValue := hseen.message hstate
    rw [streamView, takeAll_append, hc, Option.bind_some, takeAll_finishWithUsage]
    simp only [Option.bind_eq_bind, Option.bind_some, hmessage, hinclude]
    rfl

/-- **Both clients see the same response**, as far as the usage was asked for, and events that are
refused leave no trace. -/
theorem chunk_reassembly (metadata : ChatResponseMetadata) :
    (∀ (events : List CanonicalEvent) (r : ResponseEnd) (frames : List ChatSseFrame)
      (encoder : ChatSseEncoder), (Method.collect encodeEvent (events ++ [.responseEnd r])).call
        (.new metadata) = (.ok frames, encoder) → (meaning events).calls.length ≤ 2 ^ 64 →
      ∃ object view, encoder.intoCompletedResponse = .ok object ∧ objectView object = some view ∧
        streamView frames =
          some (if metadata.includeUsage then view else { view with usage := .null })) ∧
    (∀ (s s' : ChatSseEncoder) (e : CanonicalEvent) (err : GatewayError),
      (encodeEvent e).call s = (.error err, s') → s' = s) ∧
    ∀ (s : ChatSseEncoder) (p q : List CanonicalEvent) (e : CanonicalEvent) (err : GatewayError),
      ((encodeEvent e).call (offer s p).2).1 = .error err →
      ∃ before after, (offer s (p ++ e :: q)).1 = before ++ .error err :: after ∧
        (offer s (p ++ q)).1 = before ++ after ∧
        (offer s (p ++ e :: q)).2 = (offer s (p ++ q)).2 :=
  ⟨fun _ _ _ _ h hlength => views_of_run h hlength, fun _ _ _ _ h => encodeEvent_error h,
    fun _ _ _ _ _ h => offer_refused h⟩

end Clients

/-! ### Samples -/

/-- Two calls that are open at the same time, with text between their fragments. -/
def sampleEvents : List CanonicalEvent :=
  [.responseStart { responseId := .lit "r" }, .messageStart { role := ⟨"assistant"⟩ },
    .toolCallStart { callId := "1", name := "f" }, .toolCallStart { callId := "2", name := "g" },
    .toolCallArgumentsDelta { callId := "2", delta := "\x7b" }, .textDelta { text := "a" },
    .toolCallArgumentsDelta { callId := "1", delta := "\x7b\x7d" },
    .toolCallArgumentsDelta { callId := "2", delta := "\x7d" },
    .toolCallEnd { callId := "2", arguments := ⟨"\x7b\x7d"⟩ },
    .toolCallEnd { callId := "1", arguments := ⟨"\x7b\x7d"⟩ }, .messageEnd {},
    .usageDelta { usage := { inputTokens := some 1, outputTokens := some 2 }, isFinal := true }]

def sampleMetadata (includeUsage : Bool) : ChatResponseMetadata :=
  ⟨"m", 0, includeUsage, sampleName_ne⟩

/-- The encoder after the sample response. -/
def sampleRun (includeUsage : Bool) : Except GatewayError (List ChatSseFrame) × ChatSseEncoder :=
  (Method.collect encodeEvent (sampleEvents ++ [.responseEnd {}])).call
    (.new (sampleMetadata includeUsage))

/-- The usage of the sample, as each client reads it. -/
def sampleTotals (includeUsage : Bool) : Except GatewayError (Option UInt64 × Option UInt64) := do
  let frames ← (sampleRun includeUsage).1
  let object ← (sampleRun includeUsage).2.intoCompletedResponse
  let total (view : Option View) := (view.bind (·.usage.get "total_tokens")).bind Value.asU64
  return (total (streamView frames), total (objectView object))

/-- Without a request for it the stream has no usage, and the object has one. -/
theorem usage_not_streamed : sampleTotals false = .ok (none, some 3) := by
  decide +kernel

/-- The sample response, with its usage asked for. -/
theorem chunk_reassembly_sample :
    ∃ frames object view, (sampleRun true).1 = .ok frames ∧
      (sampleRun true).2.intoCompletedResponse = .ok object ∧ objectView object = some view ∧
      streamView frames = some view := by
  have haccepted : (sampleRun true).1.isOk = true := by decide +kernel
  rcases hrun : sampleRun true with ⟨_ | frames, encoder⟩
  · rw [hrun] at haccepted
    cases haccepted
  · obtain ⟨object, view, hobject, hview, hstream⟩ :=
      (chunk_reassembly (sampleMetadata true)).1 sampleEvents {} frames encoder hrun (by decide)
    exact ⟨frames, object, view, rfl, hobject, hview, hstream⟩

end CpaGateway.Chat.Reassembly
