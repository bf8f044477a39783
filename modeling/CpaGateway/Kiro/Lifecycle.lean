import CpaGateway.Kiro.EventSemantics

/-! # The Kiro mapper against the canonical lifecycle

The mapper remembers the open tool calls, the canonical lifecycle every tool call of the response.
The two agree (`Agrees`) as long as no `toolUseEvent` names a call that an earlier one stopped: such
a frame makes the mapper declare the call again. -/

namespace CpaGateway.Kiro.Lifecycle

open Core.Error Core.Events Core.Json Kiro.EventStream Kiro.EventSemantics Lib.Effect Lib.Fallible
open CanonicalEventState
open KiroEventSemanticMapper (pushFrames mapResponse declareTool appendInput closeTool toolEvents)

/-! ### The tool calls a response names -/

/-- A `toolUseEvent`: the call it names, and whether it stops it. -/
structure ToolUse where
  callId : String
  stop : Bool

/-- The tool call a frame names. -/
def toolUse (serde : SerdeJson) (frame : KiroEventStreamFrame) : Option ToolUse := do
  guard (frame.headers.eventType = some "toolUseEvent")
  let payload ← (strictPayloadObject serde frame.payload).toOption
  let callId ← (requiredString payload "toolUseId").toOption
  let stop ← (readStop payload).toOption
  return { callId, stop }

/-- The tool calls that the frames name, in order. -/
def toolUses (serde : SerdeJson) (frames : List KiroEventStreamFrame) : List ToolUse :=
  frames.filterMap (toolUse serde)

/-- No call is named after it was stopped. -/
def NoReuse (uses : List ToolUse) : Prop :=
  uses.Pairwise fun earlier later => earlier.stop = true → later.callId ≠ earlier.callId

/-! ### What one frame does -/

/-- The argument fragment of a `toolUseEvent`. -/
def fragment (callId input : String) : List CanonicalEvent :=
  if input.isEmpty then [] else [.toolCallArgumentsDelta { callId, delta := input }]

/-- The end of a stopped tool call. -/
def ending (callId : String) (stop : Bool) (arguments : RawJson) : List CanonicalEvent :=
  if stop then [.toolCallEnd { callId, arguments }] else []

structure UsesTool (m m' : KiroEventSemanticMapper) (use : ToolUse) (events : List CanonicalEvent) :
    Prop where
  emits : ∃ name input arguments, (m.openTools.contains use.callId = false → name ≠ "") ∧
    events = (if m.openTools.contains use.callId then [] else
      [.toolCallStart { callId := use.callId, name }]) ++ fragment use.callId input ++
        ending use.callId use.stop arguments
  named : use.callId ≠ ""
  others : ∀ id, id ≠ use.callId → m'.openTools.contains id = m.openTools.contains id
  itself : m'.openTools.contains use.callId = !use.stop

/-- A frame without a tool call leaves `m` alone and emits non-empty text or reasoning. -/
inductive Speaks : CanonicalEvent → Prop
  | text {t : String} : t ≠ "" → Speaks (.textDelta { text := t })
  | reasoning {t : String} : t ≠ "" → Speaks (.reasoningDelta { text := t })

variable {m m' : KiroEventSemanticMapper} {serde : SerdeJson} {es : List CanonicalEvent}
  {id : String}

section Frame

variable {payload : Map} {frame : KiroEventStreamFrame}

theorem nonempty_of_valid {value : String} {bound : ℕ} (h : isValidIdentifier value bound = true) :
    value ≠ "" := by
  rintro rfl
  simp [isValidIdentifier] at h

theorem compare_beq (a b : String) : (compare a b == .eq) = (b == a) := by
  by_cases h : b = a
  · simp [h]
  · rw [beq_eq_false_iff_ne.mpr h, beq_eq_false_iff_ne]
    exact fun hab => h (Std.compare_eq_iff_eq.mp hab).symm

theorem declareTool_ok {isNew : Bool} (h : (declareTool payload id).call m = (.ok isNew, m')) :
    isNew = !m.openTools.contains id ∧
      (∀ i, m'.openTools.contains i = (i == id || m.openTools.contains i)) ∧
      (isNew = true → ∃ tool, m'.openTools[id]? = some tool ∧ tool.name ≠ "") := by
  unfold declareTool at h
  simp only [call_ok] at h
  have hopen := Std.TreeMap.contains_eq_isSome_getElem? (t := m.openTools) (a := id)
  split at h
  · rename_i hnone
    simp only [call_ok] at h
    obtain ⟨name, -, _, hvalid, _, rfl, rfl⟩ := h
    refine ⟨by simp [hopen, hnone], fun i => ?_, fun _ => ⟨{ name }, by simp, ?_⟩⟩
    · simp [compare_beq]
    · exact nonempty_of_valid hvalid
  · rename_i tool hsome
    simp only [call_ok] at h
    obtain ⟨_, -, rfl, rfl⟩ := h
    refine ⟨by simp [hopen, hsome], fun i => ?_, by simp⟩
    by_cases hi : i = id
    · simp [hi, hopen, hsome]
    · simp [hi]

theorem appendInput_ok {input : String} {tool : OpenTool}
    (h : (appendInput id input).call m = (.ok tool, m')) :
    (∃ old, m.openTools[id]? = some old ∧ tool.name = old.name) ∧
      ∀ i, m'.openTools.contains i = m.openTools.contains i := by
  unfold appendInput at h
  simp only [call_ok] at h
  obtain ⟨old, hold, _, -, _, rfl, rfl⟩ := h
  refine ⟨⟨old, hold, rfl⟩, fun i => ?_⟩
  have hopen := Std.TreeMap.contains_eq_isSome_getElem? (t := m.openTools) (a := id)
  by_cases hi : i = id
  · simp [hi, hopen, hold]
  · simp [Std.TreeMap.contains_insert, Ne.symm hi]

theorem closeTool_ok {stop : Bool} (h : (closeTool serde id stop).call m = (.ok es, m')) :
    (∃ arguments, es = ending id stop arguments) ∧
      ∀ i, m'.openTools.contains i = (m.openTools.contains i && !(stop && i == id)) := by
  unfold closeTool at h
  cases stop with
  | false =>
    simp only [Bool.false_eq_true, if_false] at h
    obtain ⟨rfl, rfl⟩ := h
    exact ⟨⟨⟨""⟩, rfl⟩, by simp⟩
  | true =>
    simp only [if_true, call_ok] at h
    obtain ⟨tool, -, _, arguments, -, rfl, rfl⟩ := h
    refine ⟨⟨arguments, rfl⟩, fun i => ?_⟩
    simp [Std.TreeMap.contains_erase, bne, compare_beq, Bool.and_comm]

theorem toolEvents_ok (h : (toolEvents serde payload).call m = (.ok es, m')) :
    ∃ use, requiredString payload "toolUseId" = .ok use.callId ∧
      readStop payload = .ok use.stop ∧ UsesTool m m' use es := by
  unfold toolEvents at h
  simp only [call_ok] at h
  obtain ⟨id, hid, _, hvalid, isNew, m₁, hdeclare, stop, hstop,
    input, -, tool, m₂, happend, ends, _, hclose, rfl, rfl⟩ := h
  obtain ⟨rfl, hopen₁, hnew⟩ := declareTool_ok hdeclare
  obtain ⟨⟨old, hold, hname⟩, hopen₂⟩ := appendInput_ok happend
  obtain ⟨⟨arguments, rfl⟩, hopen₃⟩ := closeTool_ok hclose
  refine ⟨⟨id, stop⟩, hid, hstop, ⟨tool.name, input, arguments, fun hclosed => ?_, ?_⟩,
    nonempty_of_valid hvalid, fun i hi => ?_, ?_⟩
  · obtain ⟨tool', htool, hne⟩ := hnew (by simp [hclosed])
    rw [hold, Option.some.injEq] at htool
    rwa [hname, htool]
  · cases m.openTools.contains id <;> simp [fragment]
  · simp [hopen₃, hopen₂, hopen₁, beq_eq_false_iff_ne.mpr hi]
  · simp [hopen₃, hopen₂, hopen₁]

theorem textField_ok {field : String} (h : textField payload field = .ok es) :
    ∀ e ∈ es, Speaks e := by
  unfold textField at h
  split at h
  · simp_all
  · rename_i value _
    obtain rfl := (Except.ok.inj h)
    by_cases hv : value = ""
    · simp [hv]
    · simpa [hv] using Speaks.text hv
  · simp at h

theorem textEvents_ok (h : textEvents payload = .ok es) : ∀ e ∈ es, Speaks e := by
  simp only [textEvents, except_ok] at h
  obtain ⟨content, hcontent, code, hcode, rfl⟩ := h
  intro e he
  rcases List.mem_append.mp he with he | he
  · exact textField_ok hcontent e he
  · exact textField_ok hcode e he

theorem reasoningEvents_ok (h : reasoningEvents payload = .ok es) : ∀ e ∈ es, Speaks e := by
  simp only [reasoningEvents, except_ok] at h
  obtain ⟨_, -, content, -, rfl⟩ := h
  by_cases hc : content = ""
  · simp [hc]
  · simpa [hc] using Speaks.reasoning hc

/-- **One frame**: a tool call, or text and reasoning. -/
theorem pushFrame_ok (h : (KiroEventSemanticMapper.pushFrame serde frame).call m = (.ok es, m')) :
    (∃ use, toolUse serde frame = some use ∧ UsesTool m m' use es) ∨
      (toolUse serde frame = none ∧ m' = m ∧ ∀ e ∈ es, Speaks e) := by
  unfold KiroEventSemanticMapper.pushFrame at h
  simp only [call_ok] at h
  obtain ⟨_, -, _, -, kind, hkind, payload, hpayload, h⟩ := h
  have hother : kind ≠ "toolUseEvent" → toolUse serde frame = none := by
    intro hne
    simp [toolUse, hkind, hne]
  split at h
  · simp only [call_lift_ok] at h
    exact .inr ⟨hother (by decide), h.2.symm, textEvents_ok h.1⟩
  · simp only [call_lift_ok] at h
    exact .inr ⟨hother (by decide), h.2.symm, textEvents_ok h.1⟩
  · simp only [call_lift_ok] at h
    exact .inr ⟨hother (by decide), h.2.symm, reasoningEvents_ok h.1⟩
  · obtain ⟨use, hid, hstop, huse⟩ := toolEvents_ok h
    refine .inl ⟨use, ?_, huse⟩
    simp [toolUse, hkind, hpayload, hid, hstop, Except.toOption]
  · obtain ⟨rfl, rfl⟩ := h
    exact .inr ⟨hother (by decide), rfl, by simp⟩
  · exact absurd h call_throw_ok

end Frame

/-! ### Agreement with the canonical lifecycle -/

/-- The call was declared and has not ended. -/
def Active (o : OpenResponse) (id : String) : Prop :=
  o.toolCalls[id]? = some .declared ∨ o.toolCalls[id]? = some .argumentsStreaming

/-- The call has ended. -/
def Emitted (o : OpenResponse) (id : String) : Prop := o.toolCalls[id]? = some .emitted

/-- The mapper's open tool calls are the active calls of the open message. -/
structure Agrees (m : KiroEventSemanticMapper) (o : OpenResponse) : Prop where
  messageOpen : o.messageOpen = true
  active : ∀ id, m.openTools.contains id = true ↔ Active o id

variable {o : OpenResponse}

theorem call_cases (o : OpenResponse) (id : String) :
    o.toolCalls[id]? = none ∨ Active o id ∨ Emitted o id := by
  unfold Active Emitted
  rcases o.toolCalls[id]? with _ | _ | _ | _ <;> simp

theorem not_active_of_emitted (h : Emitted o id) : ¬ Active o id := by
  simp [Active, show o.toolCalls[id]? = _ from h]

abbrev opened (o : OpenResponse) : CanonicalEventState := ⟨.opened o⟩

theorem applyAll_speaks (ho : o.messageOpen = true)
    (hes : ∀ e ∈ es, Speaks e) : (opened o).applyAll es = .ok (opened o) := by
  induction es with
  | nil => rfl
  | cons e es ih =>
    refine applyAll_cons_ok.mpr ⟨_, ?_, ih fun x hx => hes x (by simp [hx])⟩
    cases hes e (by simp) with
    | text ht | reasoning ht => simp [apply, OpenResponse.apply, ho, ht, Except.map]

/-- From `o` to `o'` nothing changed but the call `id`. -/
structure Touches (id : String) (o o' : OpenResponse) : Prop where
  messageOpen : o'.messageOpen = o.messageOpen
  others : ∀ i, i ≠ id → o'.toolCalls[i]? = o.toolCalls[i]?

theorem Touches.refl (id : String) (o : OpenResponse) : Touches id o o := ⟨rfl, fun _ _ => rfl⟩

theorem Touches.trans {o' o'' : OpenResponse} (h : Touches id o o') (h' : Touches id o' o'') :
    Touches id o o'' :=
  ⟨h'.messageOpen.trans h.messageOpen, fun i hi => (h'.others i hi).trans (h.others i hi)⟩

theorem touches_insert (id : String) (o : OpenResponse) (st : ToolCallLifecycle) :
    Touches id o { o with toolCalls := o.toolCalls.insert id st } := by
  refine ⟨rfl, fun i hi => ?_⟩
  simp [Std.TreeMap.getElem?_insert, Ne.symm hi]

theorem start_ok {name : String} (ho : o.messageOpen = true) (hid : id ≠ "") (hname : name ≠ "")
    (hnew : o.toolCalls[id]? = none) :
    ∃ o', (opened o).apply (.toolCallStart { callId := id, name }) = .ok (opened o') ∧
      Touches id o o' ∧ Active o' id := by
  have hc : o.toolCalls.contains id = false := by
    rw [Std.TreeMap.contains_eq_isSome_getElem?, hnew]; rfl
  refine ⟨_, ?_, touches_insert id o .declared, .inl (by simp)⟩
  simp [apply, OpenResponse.apply, OpenResponse.startToolCall, ho, hid, hname,
    hc, Except.map]

theorem fragment_ok (input : String) (ho : o.messageOpen = true) (ha : Active o id) :
    ∃ o', (opened o).applyAll (fragment id input) = .ok (opened o') ∧ Touches id o o' ∧
      Active o' id := by
  unfold fragment
  split_ifs with hempty
  · exact ⟨o, rfl, .refl id o, ha⟩
  · simp only [applyAll_cons_ok, applyAll_nil, Except.ok.injEq]
    rcases ha with ha | ha
    · refine ⟨_, ?_, touches_insert id o .argumentsStreaming, .inr (by simp)⟩
      simp [apply, OpenResponse.apply, OpenResponse.appendToolArguments, ho, ha,
        Except.map]
    · refine ⟨o, ?_, .refl id o, .inr ha⟩
      simp [apply, OpenResponse.apply, OpenResponse.appendToolArguments, ho, ha,
        Except.map]

theorem ending_ok (stop : Bool) (arguments : RawJson) (ho : o.messageOpen = true)
    (ha : Active o id) :
    ∃ o', (opened o).applyAll (ending id stop arguments) = .ok (opened o') ∧ Touches id o o' ∧
      (stop = true → Emitted o' id) ∧ (stop = false → Active o' id) := by
  cases stop with
  | false => exact ⟨o, rfl, .refl id o, by simp, fun _ => ha⟩
  | true =>
    refine ⟨_, ?_, touches_insert id o .emitted, fun _ => by simp [Emitted], by simp⟩
    refine applyAll_cons_ok.mpr ⟨_, ?_, rfl⟩
    rcases ha with ha | ha <;>
      simp [apply, OpenResponse.apply, OpenResponse.endToolCall, ho, ha,
        Except.map]

section Agreement

variable {use : ToolUse}

theorem use_accepted (hA : Agrees m o) (hu : UsesTool m m' use es) (hne : ¬ Emitted o use.callId) :
    ∃ o', (opened o).applyAll es = .ok (opened o') ∧ Agrees m' o' ∧
      ∀ id, Emitted o' id ↔ Emitted o id ∨ (use.stop = true ∧ id = use.callId) := by
  obtain ⟨name, input, arguments, hname, rfl⟩ := hu.emits
  -- the call is active once it is declared
  obtain ⟨o₁, hstart, ht₁, ha₁⟩ : ∃ o₁, (opened o).applyAll
      (if m.openTools.contains use.callId then [] else
        [.toolCallStart { callId := use.callId, name }]) = .ok (opened o₁) ∧
      Touches use.callId o o₁ ∧ Active o₁ use.callId := by
    split_ifs with hopen
    · exact ⟨o, rfl, .refl _ o, (hA.active _).mp hopen⟩
    · have hnew : o.toolCalls[use.callId]? = none := by
        rcases call_cases o use.callId with h | h | h
        · exact h
        · exact absurd ((hA.active _).mpr h) hopen
        · exact absurd h hne
      obtain ⟨o₁, happly, hrest⟩ :=
        start_ok hA.messageOpen hu.named (hname (Bool.eq_false_iff.mpr hopen)) hnew
      exact ⟨o₁, applyAll_cons_ok.mpr ⟨_, happly, rfl⟩, hrest⟩
  have ho₁ := ht₁.messageOpen.trans hA.messageOpen
  obtain ⟨o₂, hfrag, ht₂, ha₂⟩ := fragment_ok input ho₁ ha₁
  obtain ⟨o₃, hend, ht₃, hstop, hgoes⟩ :=
    ending_ok use.stop arguments (ht₂.messageOpen.trans ho₁) ha₂
  have ht := (ht₁.trans ht₂).trans ht₃
  refine ⟨o₃, ?_, ⟨ht.messageOpen.trans hA.messageOpen, fun id => ?_⟩, fun id => ?_⟩
  · exact applyAll_append_ok.mpr
      ⟨_, applyAll_append_ok.mpr ⟨_, hstart, hfrag⟩, hend⟩
  · by_cases hid : id = use.callId
    · subst hid
      rw [hu.itself]
      cases hs : use.stop with
      | false => simpa using hgoes hs
      | true => simpa using not_active_of_emitted (hstop hs)
    · rw [hu.others id hid, hA.active]
      simp [Active, ht.others id hid]
  · by_cases hid : id = use.callId
    · subst hid
      cases hs : use.stop with
      | false =>
        simp only [hne, Bool.false_eq_true, false_and, or_self, iff_false]
        exact fun he => not_active_of_emitted he (hgoes hs)
      | true => simpa using hstop hs
    · simp [hid, Emitted, ht.others id hid]

/-- A call that is over is declared again, which the canonical lifecycle rejects. -/
theorem use_rejected (hA : Agrees m o) (hu : UsesTool m m' use es) (he : Emitted o use.callId)
    (t : CanonicalEventState) : (opened o).applyAll es ≠ .ok t := by
  obtain ⟨name, input, arguments, -, rfl⟩ := hu.emits
  have hclosed : ¬ m.openTools.contains use.callId = true :=
    fun hopen => not_active_of_emitted he ((hA.active _).mp hopen)
  rw [if_neg hclosed]
  intro h
  obtain ⟨_, happly, -⟩ := applyAll_cons_ok.mp h
  have hc : o.toolCalls.contains use.callId = true := by
    rw [Std.TreeMap.contains_eq_isSome_getElem?, show o.toolCalls[use.callId]? = _ from he]; rfl
  simp [apply, OpenResponse.apply, OpenResponse.startToolCall, hc, Except.map] at happly

/-- No named call is over, now or when it is named. -/
def Fresh (o : OpenResponse) (uses : List ToolUse) : Prop :=
  (∀ use ∈ uses, ¬ Emitted o use.callId) ∧ NoReuse uses

theorem fresh_cons {o' : OpenResponse} {uses : List ToolUse}
    (h : ∀ id, Emitted o' id ↔ Emitted o id ∨ (use.stop = true ∧ id = use.callId)) :
    Fresh o (use :: uses) ↔ ¬ Emitted o use.callId ∧ Fresh o' uses := by
  simp only [Fresh, NoReuse, List.pairwise_cons, List.forall_mem_cons, h, not_or, not_and]
  constructor
  · rintro ⟨⟨hnow, hlater⟩, hsep, hrest⟩
    exact ⟨hnow, fun u hu => ⟨hlater u hu, hsep u hu⟩, hrest⟩
  · rintro ⟨hnow, hlater, hrest⟩
    exact ⟨⟨hnow, fun u hu => (hlater u hu).1⟩, fun u hu => (hlater u hu).2, hrest⟩

/-- **All frames**: accepted iff no call is named after it is over. -/
theorem pushFrames_agrees : ∀ (frames : List KiroEventStreamFrame) (m m' : KiroEventSemanticMapper)
    (o : OpenResponse) (es : List CanonicalEvent), Agrees m o →
      (pushFrames serde frames).call m = (.ok es, m') →
      (Fresh o (toolUses serde frames) →
        ∃ o', (opened o).applyAll es = .ok (opened o') ∧ Agrees m' o') ∧
      ∀ t, (opened o).applyAll es = .ok t → Fresh o (toolUses serde frames)
  | [], m, m', o, es, hA, h => by
    simp only [pushFrames] at h
    obtain ⟨rfl, rfl⟩ := h
    exact ⟨fun _ => ⟨o, rfl, hA⟩, fun _ _ => ⟨by simp [toolUses], .nil⟩⟩
  | frame :: frames, m, m', o, es, hA, h => by
    simp only [pushFrames, call_ok] at h
    obtain ⟨first, m₁, hfirst, rest, _, hrest, rfl, rfl⟩ := h
    rcases pushFrame_ok hfirst with ⟨use, hname, hu⟩ | ⟨hname, rfl, hspeaks⟩
    · have huses : toolUses serde (frame :: frames) = use :: toolUses serde frames := by
        simp [toolUses, hname]
      rw [huses]
      by_cases he : Emitted o use.callId
      · refine ⟨fun hf => absurd he (hf.1 use (by simp)), fun t ht => ?_⟩
        obtain ⟨t₁, ht₁, -⟩ := applyAll_append_ok.mp ht
        exact absurd ht₁ (use_rejected hA hu he t₁)
      · obtain ⟨o₁, happly, hA₁, hem⟩ := use_accepted hA hu he
        obtain ⟨hgood, hback⟩ := pushFrames_agrees frames m₁ _ o₁ rest hA₁ hrest
        rw [fresh_cons hem, applyAll_append_of_ok happly]
        exact ⟨fun hf => hgood hf.2, fun t ht => ⟨he, hback t ht⟩⟩
    · have huses : toolUses serde (frame :: frames) = toolUses serde frames := by
        simp [toolUses, hname]
      rw [huses, applyAll_append_of_ok (applyAll_speaks hA.messageOpen hspeaks)]
      exact pushFrames_agrees frames _ _ o rest hA hrest

end Agreement

/-! ### Whole responses -/

section Response

variable {frames : List KiroEventStreamFrame} {events : List CanonicalEvent}

/-- The state after `start`: an open message without tool calls. -/
def opening : OpenResponse := { messageOpen := true }

def framed (id : ResponseId) (body : List CanonicalEvent) : List CanonicalEvent :=
  [.responseStart { responseId := id }, .messageStart { role := ⟨"assistant"⟩ }] ++ body ++
    [.messageEnd {}, .responseEnd {}]

theorem mapResponse_ok (h : (mapResponse serde frames).call m = (.ok events, m')) :
    ∃ body m₁, (pushFrames serde frames).call
        { m with started := true } = (.ok body, m₁) ∧ m₁.openTools.isEmpty = true ∧
      events = framed m.responseId body := by
  unfold mapResponse KiroEventSemanticMapper.start
    KiroEventSemanticMapper.finish at h
  simp only [call_ok] at h
  obtain ⟨_, _, ⟨_, -, _, rfl, rfl⟩, body, m₁, hbody, _, _, ⟨_, -, _, hempty, _, rfl, rfl⟩,
    rfl, rfl⟩ := h
  exact ⟨body, m₁, hbody, hempty, rfl⟩

theorem opening_ok (r : ResponseStart) (s : MessageStart) :
    applyAll {} [.responseStart r, .messageStart s] = .ok (opened opening) := rfl

theorem closing_ok (ho : o.messageOpen = true) (hno : ∀ id, ¬ Active o id) :
    (opened o).applyAll [.messageEnd {}, .responseEnd {}] = .ok ⟨.completed⟩ := by
  have hdone : o.hasOpenToolCall = false := by
    simp only [OpenResponse.hasOpenToolCall, List.any_eq_false]
    rintro ⟨id, st⟩ hmem hst
    have hget := Std.TreeMap.mem_toList_iff_getElem?_eq_some.mp hmem
    refine hno id ?_
    cases st with
    | declared => exact .inl hget
    | argumentsStreaming => exact .inr hget
    | emitted => simp at hst
  have hmessage : (opened o).apply (.messageEnd {}) =
      .ok (opened { o with messageOpen := false }) := by
    simp [apply, OpenResponse.apply, OpenResponse.endMessage, ho, hdone,
      Except.map]
  have hready : OpenResponse.isReadyToEnd { o with messageOpen := false } = true := by
    simpa [OpenResponse.isReadyToEnd, OpenResponse.hasOpenToolCall] using hdone
  have hresponse : (opened { o with messageOpen := false }).apply (.responseEnd {}) =
      .ok ⟨.completed⟩ := by
    simp [apply, hready]
  exact applyAll_cons_ok.mpr
    ⟨_, hmessage, applyAll_cons_ok.mpr ⟨_, hresponse, rfl⟩⟩

/-- **When a completed Kiro response is canonical**: iff no `toolUseEvent` names a call that an
earlier one stopped. -/
theorem accepted_iff_no_reuse (serde : SerdeJson) (frames : List KiroEventStreamFrame)
    (id : ResponseId) (events : List CanonicalEvent)
    (h : ((mapResponse serde frames).call { responseId := id }).1 =
      .ok events) :
    (∃ t, applyAll {} events = .ok t ∧ t.isSuccess = true) ↔
      NoReuse (toolUses serde frames) := by
  obtain ⟨body, m₁, hbody, hempty, rfl⟩ := mapResponse_ok (Prod.ext h rfl)
  obtain ⟨hgood, hback⟩ := pushFrames_agrees frames _ m₁ opening body
    ⟨rfl, by simp [Active, opening]⟩ hbody
  have hfresh : Fresh opening (toolUses serde frames) ↔ NoReuse (toolUses serde frames) := by
    simp [Fresh, Emitted, opening]
  rw [← hfresh]
  constructor
  · rintro ⟨t, ht, -⟩
    obtain ⟨t₂, ht₂, -⟩ := applyAll_append_ok.mp ht
    obtain ⟨t₁, ht₁, ht₂⟩ := applyAll_append_ok.mp ht₂
    rw [opening_ok, Except.ok.injEq] at ht₁
    exact hback t₂ (ht₁ ▸ ht₂)
  · intro hf
    obtain ⟨o, happly, hA⟩ := hgood hf
    have hno : ∀ call, ¬ Active o call := by
      intro call hact
      have hopen := (hA.active call).mpr hact
      rw [Std.TreeMap.isEmpty_iff_forall_contains] at hempty
      simp [hempty call] at hopen
    refine ⟨⟨.completed⟩, ?_, rfl⟩
    exact applyAll_append_ok.mpr ⟨_, applyAll_append_ok.mpr
      ⟨_, opening_ok _ _, happly⟩, closing_ok hA.messageOpen hno⟩

end Response

def eventFrame (kind payload : String) : KiroEventStreamFrame where
  headers := (∅ : KiroEventStreamHeaders).insert ":message-type" (.string "event")
    |>.insert ":event-type" (.string kind)
  payload := payload.toUTF8.data.toList

/-- The payload of a text frame. -/
def helloPayload : String := "\x7b\"content\":\"hi\"\x7d"

def helloSerde : SerdeJson := .ofTable [(helloPayload, .object [("content", .string "hi")])]

/-- The payload of a plan-mode call that starts and stops in one frame. -/
def planPayload (id : String) : String :=
  "\x7b\"toolUseId\":\"" ++ id ++ "\",\"name\":\"EnterPlanMode\",\"stop\":true\x7d"

def planSerde : SerdeJson :=
  .ofTable (("\x7b\x7d", .object []) :: ["a", "b"].map fun id => (planPayload id,
    .object [("toolUseId", .string id), ("name", .string "EnterPlanMode"), ("stop", .bool true)]))

/-- One plan-mode call for each of the names. -/
def planFrames (ids : List String) : List KiroEventStreamFrame :=
  ids.map fun id => eventFrame "toolUseEvent" (planPayload id)

def planEvents (id : String) : List CanonicalEvent :=
  [.toolCallStart { callId := id, name := "EnterPlanMode" },
    .toolCallEnd { callId := id, arguments := ⟨"\x7b\x7d"⟩ }]

def sampleId : ResponseId := .lit "r"

/-- Two calls with names of their own make a canonical response. -/
theorem accepted_two_calls : ∃ t, applyAll {} (framed sampleId (planEvents "a" ++ planEvents "b")) =
      .ok t ∧ t.isSuccess = true :=
  (accepted_iff_no_reuse planSerde (planFrames ["a", "b"]) sampleId _ (by decide +kernel)).mpr
    (by unfold NoReuse; decide +kernel)

/-- The same call twice: the mapper completes, the canonical lifecycle rejects the second start. -/
theorem reused_call_rejected : ((mapResponse planSerde (planFrames ["a", "a"])).call
        { responseId := sampleId }).1 = .ok (framed sampleId (planEvents "a" ++ planEvents "a")) ∧
      checkResponse (framed sampleId (planEvents "a" ++ planEvents "a")) =
        .error streamProtocolError := by
  refine ⟨?_, ?_⟩
  · decide +kernel
  · decide +kernel

end CpaGateway.Kiro.Lifecycle
