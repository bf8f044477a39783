import CpaGateway.Anthropic.Coverage
import CpaGateway.Lib.History

/-! # The wire grammar of the Anthropic encoder

Whatever the order in which text, thinking and the fragments of open calls arrive, the frames of an
accepted response are one message start, whole blocks in their order and the end of the message. -/

namespace CpaGateway.Anthropic.WireGrammar

open Anthropic.Blocks Anthropic.Coverage Anthropic.Encoder Anthropic.Encoder.Assembly
open Bridge.Meaning Core.Error Core.Events Core.Json Lib.Effect Lib.History Lib.Serial
open AnthropicMessagesSseEncoder CanonicalEventState

variable {events : List CanonicalEvent} {frames out : List SseFrame} {serde : SerdeJson}
  {a a' : Assembly} {e : CanonicalEvent}

section Methods

variable {b : Assembly}

/-- The message takes in events without a flush. -/
structure Grown (serde : SerdeJson) (events : List CanonicalEvent) (a b : Assembly) : Prop where
  grows : (queue a).Grows (queue b)
  covers : Covers serde events (ledger b)
  same : envelope b = envelope a

/-- The message takes in events and writes frames. -/
structure Written (serde : SerdeJson) (events : List CanonicalEvent) (frames : List SseFrame)
    (a a' : Assembly) : Prop where
  covers : Covers serde events (ledger a')
  sound : (queue a').Sound
  transcript : (queue a').transcript writer = (queue a).transcript writer ++ frames
  same : envelope a' = envelope a

theorem Grown.flush (hgrown : Grown serde events a b) (hq : (queue a).Sound)
    (h : flush.call b = (.ok frames, a')) :
    Written serde events frames a a' ∧ ledger a' = ledger b := by
  have hsound := hgrown.grows.sound hq
  obtain ⟨hflush, hledger⟩ := flush_ok hgrown.covers.linked hsound h
  have hcovers : Covers serde events (ledger a') := by
    rw [hledger]
    exact hgrown.covers
  have htranscript : (queue a').transcript writer = (queue a).transcript writer ++ frames := by
    rw [hflush.transcript hsound, hgrown.grows.transcript hq]
  have henvelope : envelope a' = envelope a :=
    (congrArg Ledger.envelope hledger).trans hgrown.same
  exact ⟨⟨hcovers, hflush.sound hsound, htranscript, henvelope⟩, hledger⟩

theorem ledger_set (i : ℕ) (block : ContentBlock) :
    ledger { a with content := a.content.set i block } =
      { ledger a with content := (ledger a).content.set i (unsentBlock block) } := by
  simp [ledger, envelope]

variable {kind : ContentKind}

theorem active_last (hc : Covers serde events (ledger a)) {i : ℕ}
    (hactive : a.activeContentIndex = some i) {s : ContentState}
    (hb : a.content[i]? = some (.content kind s)) :
    ∃ before, (ledger a).content = before ++ [unsentBlock (.content kind s)] ∧ i = before.length ∧
      s.closed = false := by
  obtain ⟨before, kind', s', hcontent, rfl, hclosed⟩ := hc.active i hactive
  have hlast : (ledger a).content[before.length]? = some (unsentBlock (.content kind s)) := by
    simp [ledger, hb]
  rw [hcontent, List.getElem?_concat_length, Option.some.injEq] at hlast
  refine ⟨before, by rw [hcontent, hlast], rfl, ?_⟩
  cases hlast
  exact hclosed

theorem closeActiveContentBlock_ok (hc : Covers serde events (ledger a))
    (h : closeActiveContentBlock.call a = (.ok (), b)) :
    Grown serde events a b ∧ b.activeContentIndex = none ∧ b.tools = a.tools ∧
      b.message = a.message := by
  simp only [closeActiveContentBlock, call_ok] at h
  obtain ⟨_, h⟩ := h
  rcases hactive : a.activeContentIndex with _ | i
  · simp only [hactive, call_pure_ok, true_and] at h
    subst h
    exact ⟨⟨.refl _, hc.frame rfl rfl hactive.symm, rfl⟩, rfl, rfl, rfl⟩
  · simp only [hactive, call_ok] at h
    obtain ⟨block, hblock, rfl⟩ := h
    obtain ⟨old, hold, hclosed⟩ := Option.bind_eq_some_iff.mp hblock
    cases old with
    | tool => cases hclosed
    | content kind s =>
      cases hclosed
      obtain ⟨before, hcontent, rfl, hopen⟩ := active_last hc hactive hold
      have hgrows : (queue a).Grows (queue { a with
          content := a.content.set before.length (.content kind { s with closed := true }) }) :=
        grows_extend hold hopen rfl List.prefix_rfl
      refine ⟨⟨hgrows, ?_, rfl⟩, rfl, rfl, rfl⟩
      refine (hc.close hcontent hactive).frame ?_ rfl rfl
      have hset := congrArg Ledger.content
        (ledger_set (a := a) before.length (.content kind { s with closed := true }))
      exact hset.trans (by simp [hcontent, unsentBlock])

theorem Grown.trans (h : Grown serde events a b) (h' : Grown serde events b a') :
    Grown serde events a a' :=
  ⟨h.grows.trans h'.grows, h'.covers, h'.same.trans h.same⟩

theorem openNewBlock_ok {index : ℕ} (hc : Covers serde events (ledger a))
    (h : (openNewBlock kind).call a = (.ok index, b)) :
    Grown serde events a b ∧ b.activeContentIndex = some index ∧ b.message = .content ∧
      ∃ s, b.content[index]? = some (.content kind s) := by
  simp only [openNewBlock, call_ok] at h
  obtain ⟨_, a₁, hclose, _, rfl, rfl⟩ := h
  obtain ⟨hgrown, hactive, -, -⟩ := closeActiveContentBlock_ok hc hclose
  have hcovers : Covers serde events (ledger { a₁ with
      content := a₁.content ++ [.content kind {}]
      activeContentIndex := some a₁.content.length
      message := .content }) :=
    (hgrown.covers.open_ hactive kind).frame (by simp [ledger, unsentBlock]) rfl (by simp [ledger])
  exact ⟨hgrown.trans
    ⟨by simpa [queue, entry] using (queue _).grows_push (.content kind), hcovers, rfl⟩,
    rfl, rfl, {}, by simp⟩

theorem openContentBlock_ok {index : ℕ} (hc : Covers serde events (ledger a))
    (h : (openContentBlock kind).call a = (.ok index, b)) :
    Grown serde events a b ∧ b.activeContentIndex = some index ∧
      (b.message = a.message ∨ b.message = .content) ∧
      ∃ s, b.content[index]? = some (.content kind s) := by
  simp only [openContentBlock, call_ok] at h
  split at h
  · rename_i i hfilter
    obtain ⟨rfl, rfl⟩ := h
    obtain ⟨hactive, hkind⟩ := Option.filter_eq_some_iff.mp hfilter
    obtain ⟨block, hblock, hkind⟩ := Option.bind_eq_some_iff.mp (of_decide_eq_true hkind)
    cases block with
    | tool => cases hkind
    | content kind' s =>
      cases hkind
      exact ⟨⟨.refl _, hc, rfl⟩, hactive, .inl rfl, s, hblock⟩
  · obtain ⟨hgrown, hactive, hmessage, hblock⟩ := openNewBlock_ok hc h
    exact ⟨hgrown, hactive, .inr hmessage, hblock⟩

theorem appendContentDelta_ok {value : String} (hc : Covers serde events (ledger a))
    (hq : (queue a).Sound) (he : contentOf e = some (kind, value)) (hcall : callOf e = none)
    (hleaves : ∀ callId, Leaves callId e)
    (h : (appendContentDelta value kind).call a = (.ok frames, a')) :
    Written serde (events ++ [e]) frames a a' ∧ a.acceptsContent = true ∧
      (a'.message = a.message ∨ a'.message = .content) := by
  simp only [appendContentDelta, call_ok] at h
  obtain ⟨_, haccepts, index, a₁, hopen, block, hblock, _, hflush⟩ := h
  obtain ⟨hgrown, hactive, hmessage, s, hs⟩ := openContentBlock_ok hc hopen
  simp only [hs, Option.bind_some, appended, if_true, Option.some.injEq] at hblock
  subst hblock
  obtain ⟨before, hcontent, rfl, hunclosed⟩ := active_last hgrown.covers hactive hs
  have hgrows : (queue a₁).Grows (queue { a₁ with
      content := a₁.content.set before.length
        (.content kind { s with value := s.value ++ value, deltas := s.deltas ++ [value] }) }) :=
    grows_extend hs hunclosed rfl (List.prefix_append ..)
  have hset := congrArg Ledger.content (ledger_set (a := a₁) before.length
    (.content kind { s with value := s.value ++ value, deltas := s.deltas ++ [value] }))
  have hcovers := hgrown.covers.extend hcontent hactive he hcall hleaves
  have hnew : Grown serde (events ++ [e]) a _ :=
    ⟨hgrown.grows.trans hgrows, hcovers.frame (hset.trans (by simp [hcontent, unsentBlock]))
      rfl rfl, hgrown.same⟩
  obtain ⟨hwritten, hledger⟩ := hnew.flush hq hflush
  have hsame : a'.message = a₁.message := congrArg Ledger.message hledger
  exact ⟨hwritten, haccepts, hsame ▸ hmessage⟩

theorem ledger_insert (callId : String) (tool : ToolState) :
    (ledger { a with tools := a.tools.insert callId tool }).tools =
      Function.update (ledger a).tools callId (some (unsentTool tool)) := by
  funext callId'
  by_cases hne : callId' = callId
  · subst hne
    simp [ledger]
  · have hne' : callId ≠ callId' := fun h => hne h.symm
    simp [ledger, Std.TreeMap.getElem?_insert, hne, hne']

theorem startTool_ok {start : ToolCallStart} (hc : Covers serde events (ledger a))
    (hq : (queue a).Sound) (h : (startTool start.callId start.name).call a = (.ok frames, a')) :
    Written serde (events ++ [.toolCallStart start]) frames a a' ∧ a.acceptsContent = true ∧
      a'.message = .content := by
  simp only [startTool, call_ok, Bool.and_eq_true, Bool.not_eq_true'] at h
  obtain ⟨_, ⟨haccepts, hcontains⟩, _, a₁, hclose, _, hflush⟩ := h
  obtain ⟨hgrown, hactive, htools, -⟩ := closeActiveContentBlock_ok hc hclose
  have hnew : a₁.tools[start.callId]? = none := by
    rw [htools]
    exact Std.TreeMap.getElem?_eq_none_of_contains_eq_false hcontains
  have hgrows : (queue a₁).Grows (queue { a₁ with
      content := a₁.content ++ [.tool start.callId start.name none]
      tools := a₁.tools.insert start.callId { contentIndex := a₁.content.length } }) :=
    grows_tool hgrown.covers.linked hnew a₁.content.length
  have hlength : (ledger a₁).content.length = a₁.content.length := by simp [ledger]
  have hcovers := hgrown.covers.begin start hactive (by simp [ledger, hnew])
  rw [hlength] at hcovers
  have hafter : Grown serde (events ++ [.toolCallStart start]) a { a₁ with
      content := a₁.content ++ [.tool start.callId start.name none]
      tools := a₁.tools.insert start.callId { contentIndex := a₁.content.length }
      message := .content } :=
    ⟨hgrown.grows.trans hgrows, hcovers.frame (by simp [ledger, unsentBlock])
      (ledger_insert (a := a₁) start.callId { contentIndex := a₁.content.length }) rfl, hgrown.same⟩
  obtain ⟨hwritten, hledger⟩ := hafter.flush hq hflush
  exact ⟨hwritten, haccepts, congrArg Ledger.message hledger⟩

variable {callId : String} {delta : ToolCallArgumentsDelta}

theorem leaves_fragment (h : callId ≠ delta.callId ∨ delta.delta = "") :
    Leaves callId (.toolCallArgumentsDelta delta) := by
  refine ⟨?_, rfl⟩
  by_cases hid : delta.callId = callId
  · rcases h with hne | hempty
    · exact absurd hid.symm hne
    · simp [fragmentOf, hempty]
  · simp [fragmentOf, hid]

variable {tool : ToolState}

theorem pending_of_open (hc : Covers serde events (ledger a))
    (ht : a.tools[callId]? = some tool) (hopen : tool.completed = false) :
    ∃ name, a.content[tool.contentIndex]? = some (.tool callId name none) ∧
      Pending callId events tool := by
  obtain ⟨name, input, hb, hrecorded⟩ := hc.call callId (unsentTool tool) (by simp [ledger, ht])
  rw [Recorded, if_neg (by simp [unsentTool, hopen])] at hrecorded
  obtain ⟨rfl, hpending⟩ := hrecorded
  exact ⟨name, ledger_tool_iff.mp hb,
    ⟨hpending.deltas, hpending.json, hpending.saw, hpending.unended⟩⟩

theorem Covers.grown {name : String} {input' : Option Value}
    (hc : Covers serde events (ledger a)) (ht : a.tools[callId]? = some tool)
    (hb : a.content[tool.contentIndex]? = some (.tool callId name none))
    (hopen : tool.completed = false) {tool' : ToolState}
    (hrecorded : Recorded serde callId (events ++ [e]) (unsentTool tool') input')
    (hindex : tool'.contentIndex = tool.contentIndex)
    (hsent : tool'.emittedDeltas = tool.emittedDeltas)
    (hdeltas : tool.argumentDeltas <+: tool'.argumentDeltas)
    (hothers : ∀ callId', callId' ≠ callId → Leaves callId' e) (hcall : callOf e = none)
    (hcontent : contentOf e = none) : Grown serde (events ++ [e]) a { a with
      content := a.content.set tool.contentIndex (.tool callId name input')
      tools := a.tools.insert callId tool' } := by
  have hledger : (ledger a).tools callId = some (unsentTool tool) := by simp [ledger, ht]
  have hindex' : (unsentTool tool').contentIndex = (unsentTool tool).contentIndex := hindex
  have hcovers := hc.update hledger (ledger_tool_iff.mpr hb) hindex' hrecorded hothers
    hcall hcontent
  refine ⟨grows_call hc.linked ht hb hopen hsent hdeltas, hcovers.frame ?_ ?_ rfl, rfl⟩
  · simp [ledger, List.map_set, unsentBlock, unsentTool]
  · exact ledger_insert callId tool'

theorem appendToolArguments_ok (hc : Covers serde events (ledger a)) (hq : (queue a).Sound)
    (h : (appendToolArguments delta.callId delta.delta).call a = (.ok frames, a')) :
    (Written serde (events ++ [.toolCallArgumentsDelta delta]) frames a a' ∧
        a'.message = a.message ∧
        ∃ tool, a.tools[delta.callId]? = some tool ∧ tool.completed = false) ∨
      (frames = [] ∧ a' = a ∧ delta.delta = "") := by
  unfold appendToolArguments at h
  split_ifs at h with hempty
  · rw [call_pure_ok] at h
    exact .inr ⟨h.1.symm, h.2.symm, by simpa using hempty⟩
  · simp only [appendFragment, call_ok, Bool.not_eq_true'] at h
    obtain ⟨tool, ht, _, hopen, _, hflush⟩ := h
    obtain ⟨name, hb, hpending⟩ := pending_of_open hc ht hopen
    have hsent : sent delta.callId (events ++ [.toolCallArgumentsDelta delta]) =
        sent delta.callId events ++ [delta.delta] := by
      rw [sent_snoc]
      simp [fragmentOf, hempty]
    have hcompleted : completed delta.callId (events ++ [.toolCallArgumentsDelta delta]) =
        none := by
      rw [completed_snoc, hpending.unended]
      rfl
    have hrecorded : Recorded serde delta.callId (events ++ [.toolCallArgumentsDelta delta])
        (unsentTool { tool with
          sawArgumentsDelta := true
          partialJson := tool.partialJson ++ delta.delta
          argumentDeltas := tool.argumentDeltas ++ [delta.delta] }) none := by
      rw [Recorded, if_neg (by simp [unsentTool, hopen])]
      refine ⟨rfl, ?_, ?_, ?_, hcompleted⟩
      · rw [hsent, ← hpending.deltas]
        rfl
      · rw [hsent, String.join_append, ← hpending.json]
        simp [unsentTool]
      · rw [hsent]
        simp [unsentTool]
    have hgrown := Covers.grown hc ht hb hopen hrecorded rfl rfl (List.prefix_append ..)
      (fun callId hne => leaves_fragment (.inl hne)) rfl rfl
    have hset : a.content.set tool.contentIndex (.tool delta.callId name none) = a.content := by
      obtain ⟨hlt, hget⟩ := List.getElem?_eq_some_iff.mp hb
      rw [← hget, List.set_getElem_self]
    rw [hset] at hgrown
    obtain ⟨hwritten, hledger⟩ := hgrown.flush hq hflush
    exact .inl ⟨hwritten, congrArg Ledger.message hledger, tool, ht, hopen⟩

theorem sent_end (e : ToolCallEnd) :
    sent e.callId (events ++ [.toolCallEnd e]) = sent e.callId events := by
  rw [sent_snoc]
  exact List.append_nil _

theorem completed_end {e : ToolCallEnd} (hp : Pending e.callId events tool) :
    completed e.callId (events ++ [.toolCallEnd e]) = some e.arguments.get := by
  rw [completed_snoc, hp.unended]
  simp [argumentsOf]

theorem finishedTool_deltas {e : ToolCallEnd} (hp : Pending e.callId events tool) :
    (finishedTool tool (normalizeToolArguments serde e.arguments.get)).argumentDeltas =
      inputDeltas serde e.callId (events ++ [.toolCallEnd e]) := by
  unfold finishedTool inputDeltas
  rw [sent_end, completed_end hp, hp.saw, hp.deltas]
  by_cases hnone : sent e.callId events = []
  · by_cases hobject : normalizeToolArguments serde e.arguments.get = "\x7b\x7d"
    · simp [hnone, hobject]
    · simp [hnone, hobject]
  · simp [hnone]

theorem finishTool_ok {e : ToolCallEnd} (hc : Covers serde events (ledger a))
    (hq : (queue a).Sound)
    (h : (finishTool serde e.callId e.arguments.get).call a = (.ok frames, a')) :
    Written serde (events ++ [.toolCallEnd e]) frames a a' ∧ a'.message = a.message ∧
      ∃ tool, a.tools[e.callId]? = some tool ∧ tool.completed = false := by
  simp only [finishTool, call_ok, Bool.not_eq_true', Bool.or_eq_true, decide_eq_true_eq] at h
  obtain ⟨tool, ht, _, hopen, _, hagrees, value, hvalue, _, hobject, block, hblock, _, hflush⟩ := h
  obtain ⟨name, hb, hpending⟩ := pending_of_open hc ht hopen
  simp only [hb, Option.bind_some, withInput, if_true, Option.some.injEq] at hblock
  subst hblock
  have hrecorded : Recorded serde e.callId (events ++ [.toolCallEnd e])
      (unsentTool (finishedTool tool (normalizeToolArguments serde e.arguments.get)))
      (some value) := by
    refine ⟨value, rfl, finishedTool_deltas hpending, e.arguments.get, completed_end hpending,
      hvalue, hobject, ?_⟩
    intro hne
    rw [sent_end] at hne ⊢
    rcases hagrees with hsaw | hsame
    · rw [hpending.saw] at hsaw
      simp [hne] at hsaw
    · rw [← hpending.json, hsame]
  have hdeltas : tool.argumentDeltas <+:
      (finishedTool tool (normalizeToolArguments serde e.arguments.get)).argumentDeltas := by
    unfold finishedTool
    split_ifs
    · exact List.prefix_append ..
    · exact List.prefix_rfl
  have hgrown := Covers.grown hc ht hb hopen hrecorded rfl rfl hdeltas
    (fun callId hne => ⟨rfl, by simp [argumentsOf, Ne.symm hne]⟩) rfl rfl
  obtain ⟨hwritten, hledger⟩ := hgrown.flush hq hflush
  exact ⟨hwritten, congrArg Ledger.message hledger, tool, ht, hopen⟩

/-- Everything was written, and no call is open. -/
structure Complete (a : Assembly) : Prop where
  opened : (queue a).opened = false
  next : (queue a).next = (queue a).entries.length
  tools : ∀ (callId : String) (tool : ToolState), a.tools[callId]? = some tool →
    tool.completed = true

theorem endMessage_ok {m : MessageEnd} (hc : Covers serde events (ledger a)) (hq : (queue a).Sound)
    (h : endMessage.call a = (.ok frames, a')) :
    Written serde (events ++ [.messageEnd m]) frames a a' ∧ a.message = .content ∧
      a'.message = .ended ∧ Complete a' := by
  simp only [endMessage, call_ok, Bool.and_eq_true, decide_eq_true_eq, List.all_eq_true] at h
  obtain ⟨_, hmessage, _, hall, _, a₁, hclose, written, a₂, hflush, _, ⟨hactive, hnext⟩,
    _, rfl, rfl⟩ := h
  obtain ⟨hgrown, -, htools, -⟩ := closeActiveContentBlock_ok hc hclose
  obtain ⟨hwritten, hledger⟩ := hgrown.flush hq hflush
  have hcovers := hwritten.covers.silent (e := .messageEnd m) ⟨rfl, rfl, fun _ => ⟨rfl, rfl⟩⟩
  refine ⟨⟨hcovers.frame rfl rfl rfl, hwritten.sound, hwritten.transcript, hwritten.same⟩, hmessage,
    rfl, ?_, ?_, ?_⟩
  · simpa [queue] using hactive
  · simpa [queue] using hnext
  · intro callId tool ht
    have hsame := congrFun (congrArg Ledger.tools hledger) callId
    simp only [ledger, htools, ht] at hsame
    obtain ⟨tool', ht', hunsent⟩ := Option.map_eq_some_iff.mp hsame.symm
    have hdone := hall (callId, tool') (Std.TreeMap.mem_toList_iff_getElem?_eq_some.mpr ht')
    exact (congrArg ToolState.completed hunsent).symm.trans hdone

end Methods

/-! ### Runs -/

def usageStep (usage : Option Usage) : CanonicalEvent → Option Usage
  | .usageDelta delta => some (mergeUsage usage delta.usage)
  | _ => usage

/-- The usage that was reported. -/
def usageOf (events : List CanonicalEvent) : Option Usage := events.foldl usageStep none

def idStep (id : Option String) : CanonicalEvent → Option String
  | .responseStart start => some start.responseId.asStr
  | _ => id

/-- The identifier of the response. -/
def idOf (events : List CanonicalEvent) : Option String := events.foldl idStep none

def isMessageStart : CanonicalEvent → Bool
  | .messageStart _ => true
  | _ => false

/-- The events before the message. -/
def preamble (events : List CanonicalEvent) : List CanonicalEvent :=
  events.takeWhile fun e => !isMessageStart e

def HasStarted (events : List CanonicalEvent) : Prop := ∃ e ∈ events, isMessageStart e = true

/-- The frame of the message start, if the message was started. -/
def Opening (metadata : AnthropicResponseMetadata) (events : List CanonicalEvent) (a : Assembly)
    (opening : List SseFrame) : Prop :=
  if a.message = .notStarted then opening = [] ∧ a.content = [] ∧ ¬ HasStarted events
  else HasStarted events ∧
    a.deferredInputUsage = ((usageOf (preamble events)).bind (·.inputTokens)).isNone ∧
    ∃ id, idOf (preamble events) = some id ∧
      opening = [messageStartFrame id metadata (usageOf (preamble events))]

/-- The message has taken in the events and the frames were written. -/
structure Taken (serde : SerdeJson) (metadata : AnthropicResponseMetadata)
    (events : List CanonicalEvent) (out : List SseFrame) (a : Assembly) : Prop where
  covers : Covers serde events (ledger a)
  sound : (queue a).Sound
  usage : a.usage = usageOf events
  id : a.responseId = idOf events
  opening : ∃ opening, out = opening ++ (queue a).transcript writer ∧
    Opening metadata events a opening
  ended : a.message = .ended → Complete a

variable {metadata : AnthropicResponseMetadata}

section Runs

theorem usageOf_snoc : usageOf (events ++ [e]) = usageStep (usageOf events) e := by
  simp [usageOf]

theorem idOf_snoc : idOf (events ++ [e]) = idStep (idOf events) e := by
  simp [idOf]

theorem HasStarted.append (h : HasStarted events) (rest : List CanonicalEvent) :
    HasStarted (events ++ rest) := by
  obtain ⟨e, he, hstart⟩ := h
  exact ⟨e, by simp [he], hstart⟩

theorem preamble_append (h : HasStarted events) (rest : List CanonicalEvent) :
    preamble (events ++ rest) = preamble events := by
  obtain ⟨e, he, hstart⟩ := h
  have hne : (events.takeWhile fun e => !isMessageStart e).length ≠ events.length := by
    intro hlen
    have hall := List.takeWhile_eq_self_iff.mp ((List.takeWhile_prefix _).eq_of_length hlen) e he
    simp [hstart] at hall
  rw [preamble, List.takeWhile_append, if_neg hne]
  rfl

theorem preamble_of_not (h : ¬ HasStarted events) : preamble events = events := by
  refine List.takeWhile_eq_self_iff.mpr fun e he => ?_
  by_contra hstart
  exact h ⟨e, he, by simpa using hstart⟩

theorem Opening.keep {opening : List SseFrame} (h : Opening metadata events a opening)
    (hstarted : a.message ≠ .notStarted) (hmessage : a'.message ≠ .notStarted)
    (hdeferred : a'.deferredInputUsage = a.deferredInputUsage) (e : CanonicalEvent) :
    Opening metadata (events ++ [e]) a' opening := by
  rw [Opening, if_neg hstarted] at h
  obtain ⟨hhas, hdef, hid⟩ := h
  rw [Opening, if_neg hmessage, preamble_append hhas, hdeferred]
  exact ⟨hhas.append [e], hdef, hid⟩

section

variable (h : Taken serde metadata events out a)

include h

theorem Taken.written
    (hw : Written serde (events ++ [e]) frames a a') (hstarted : a.message ≠ .notStarted)
    (hmessage : a'.message ≠ .notStarted) (hended : a'.message = .ended → Complete a')
    (husage : ∀ u, usageStep u e = u) (hid : ∀ i, idStep i e = i) :
    Taken serde metadata (events ++ [e]) (out ++ frames) a' := by
  obtain ⟨opening, hout, hopening⟩ := h.opening
  have hdeferred : a'.deferredInputUsage = a.deferredInputUsage :=
    congrArg Envelope.deferredInputUsage hw.same
  refine ⟨hw.covers, hw.sound, ?_, ?_, ⟨opening, ?_, ?_⟩, hended⟩
  · rw [usageOf_snoc, husage, ← h.usage]
    exact congrArg Envelope.usage hw.same
  · rw [idOf_snoc, hid, ← h.id]
    exact congrArg Envelope.responseId hw.same
  · rw [hout, hw.transcript, List.append_assoc]
  · exact hopening.keep hstarted hmessage hdeferred e

theorem Taken.quiet (hs : Silent e) (hnot : isMessageStart e = false) :
    Taken serde metadata (events ++ [e]) out { a with
      usage := usageStep a.usage e
      responseId := idStep a.responseId e } := by
  obtain ⟨opening, hout, hopening⟩ := h.opening
  refine ⟨(h.covers.silent hs).frame rfl rfl rfl, h.sound, ?_, ?_, ⟨opening, hout, ?_⟩, ?_⟩
  · rw [usageOf_snoc, ← h.usage]
  · rw [idOf_snoc, ← h.id]
  · by_cases hstarted : a.message = .notStarted
    · rw [Opening, if_pos hstarted] at hopening
      obtain ⟨hempty, hnone, hhas⟩ := hopening
      rw [Opening, if_pos hstarted]
      refine ⟨hempty, hnone, ?_⟩
      rintro ⟨x, hx, hxstart⟩
      rcases List.mem_append.mp hx with hx | hx
      · exact hhas ⟨x, hx, hxstart⟩
      · rw [List.mem_singleton.mp hx, hnot] at hxstart
        cases hxstart
    · exact hopening.keep hstarted hstarted rfl e
  · intro hended
    have hcomplete := h.ended hended
    exact ⟨hcomplete.opened, hcomplete.next, hcomplete.tools⟩

theorem Taken.start {start : MessageStart}
    (hcall : (startMessage start.role.value metadata).call a = (.ok frames, a')) :
    Taken serde metadata (events ++ [.messageStart start]) (out ++ frames) a' ∧
      a'.terminal = a.terminal := by
  simp only [startMessage, call_ok, Bool.and_eq_true, decide_eq_true_eq] at hcall
  obtain ⟨_, ⟨-, hstarted⟩, id, hid, _, rfl, rfl⟩ := hcall
  obtain ⟨opening, hout, hopening⟩ := h.opening
  rw [Opening, if_pos hstarted] at hopening
  obtain ⟨rfl, hnone, hhas⟩ := hopening
  have hpreamble : preamble (events ++ [.messageStart start]) = events := by
    have hself := preamble_of_not hhas
    rw [preamble] at hself ⊢
    rw [List.takeWhile_append, if_pos (by rw [hself])]
    simp [isMessageStart]
  have hqueue : (queue a).transcript writer = [] := by
    have hlen : (queue a).entries = [] := by simp [queue, hnone]
    simp [Queue.transcript, hlen, Writer.blocks]
  have hsilent : Silent (.messageStart start) := ⟨rfl, rfl, fun _ => ⟨rfl, rfl⟩⟩
  refine ⟨⟨(h.covers.silent hsilent).frame rfl rfl rfl, h.sound, ?_, ?_, ?_, ?_⟩, rfl⟩
  · rw [usageOf_snoc]
    exact h.usage
  · rw [idOf_snoc]
    exact h.id
  · refine ⟨[messageStartFrame id metadata a.usage], ?_, ?_⟩
    · rw [hout, hqueue]
      exact congrArg (_ :: ·) hqueue.symm
    · rw [Opening, if_neg (by simp), hpreamble, ← h.usage, ← h.id]
      exact ⟨⟨.messageStart start, by simp, rfl⟩, rfl, id, hid, rfl⟩
  · intro hended
    cases hended

theorem Taken.continued (hw : Written serde (events ++ [e]) frames a a')
    (hphase : a.message ≠ .notStarted ∧ a.message ≠ .ended)
    (hafter : a'.message = a.message ∨ a'.message = .content) (husage : ∀ u, usageStep u e = u)
    (hid : ∀ i, idStep i e = i) :
    Taken serde metadata (events ++ [e]) (out ++ frames) a' ∧ a'.terminal = a.terminal := by
  have hmessage : a'.message ≠ .notStarted ∧ a'.message ≠ .ended := by
    rcases hafter with hsame | hcontent
    · rw [hsame]
      exact hphase
    · rw [hcontent]
      exact ⟨by simp, by simp⟩
  have htaken := h.written hw hphase.1 hmessage.1
    (fun hended => absurd hended hmessage.2) husage hid
  exact ⟨htaken, congrArg Envelope.terminal hw.same⟩

end

theorem phase_of_accepts (h : a.acceptsContent = true) :
    a.message ≠ .notStarted ∧ a.message ≠ .ended := by
  rcases hm : a.message <;> simp [acceptsContent, hm] at h ⊢

/-- **One event of a message that goes on.** -/
theorem Taken.apply (h : Taken serde metadata events out a) (hterminal : e.isTerminal = false)
    (hcall : (Assembly.apply serde metadata e).call a = (.ok frames, a')) :
    Taken serde metadata (events ++ [e]) (out ++ frames) a' ∧ a'.terminal = a.terminal := by
  -- a call that is not complete shows that the message is under way
  have hphase {tool : ToolState} {callId : String} (ht : a.tools[callId]? = some tool)
      (hopen : tool.completed = false) : a.message ≠ .notStarted ∧ a.message ≠ .ended := by
    obtain ⟨name, hb, -⟩ := pending_of_open h.covers ht hopen
    obtain ⟨opening, -, hopening⟩ := h.opening
    constructor
    · intro hmessage
      rw [Opening, if_pos hmessage] at hopening
      simp [hopening.2.1] at hb
    · intro hmessage
      have hdone := (h.ended hmessage).tools callId tool ht
      rw [hopen] at hdone
      cases hdone
  cases e with
  | responseStart | usageDelta =>
    obtain ⟨_, rfl, rfl⟩ := hcall
    rw [List.append_nil]
    exact ⟨h.quiet ⟨rfl, rfl, fun _ => ⟨rfl, rfl⟩⟩ rfl, rfl⟩
  | messageStart start => exact h.start hcall
  | textDelta delta =>
    obtain ⟨hw, haccepts, hmessage⟩ :=
      appendContentDelta_ok (e := .textDelta delta) h.covers h.sound
      rfl rfl (fun _ => ⟨rfl, rfl⟩) hcall
    exact h.continued hw (phase_of_accepts haccepts) hmessage (fun _ => rfl) fun _ => rfl
  | reasoningDelta delta =>
    obtain ⟨hw, haccepts, hmessage⟩ := appendContentDelta_ok (e := .reasoningDelta delta) h.covers
      h.sound rfl rfl (fun _ => ⟨rfl, rfl⟩) hcall
    exact h.continued hw (phase_of_accepts haccepts) hmessage (fun _ => rfl) fun _ => rfl
  | toolCallStart start =>
    obtain ⟨hw, haccepts, hmessage⟩ := startTool_ok h.covers h.sound hcall
    exact h.continued hw (phase_of_accepts haccepts) (.inr hmessage) (fun _ => rfl) fun _ => rfl
  | toolCallArgumentsDelta delta =>
    obtain ⟨hw, hmessage, tool, ht, hopen⟩ | ⟨rfl, rfl, hempty⟩ :=
      appendToolArguments_ok h.covers h.sound hcall
    · exact h.continued hw (hphase ht hopen) (.inl hmessage) (fun _ => rfl) fun _ => rfl
    · rw [List.append_nil]
      exact ⟨h.quiet ⟨rfl, rfl, fun callId => leaves_fragment (.inr hempty)⟩ rfl, rfl⟩
  | toolCallEnd e =>
    obtain ⟨hw, hmessage, tool, ht, hopen⟩ := finishTool_ok h.covers h.sound hcall
    exact h.continued hw (hphase ht hopen) (.inl hmessage) (fun _ => rfl) fun _ => rfl
  | messageEnd m =>
    obtain ⟨hw, hcontent, hended, hcomplete⟩ := endMessage_ok (m := m) h.covers h.sound hcall
    have hstarted : a.message ≠ .notStarted := by simp [hcontent]
    have hmessage : a'.message ≠ .notStarted := by simp [hended]
    have htaken := h.written hw hstarted hmessage (fun _ => hcomplete) (fun _ => rfl) fun _ => rfl
    exact ⟨htaken, congrArg Envelope.terminal hw.same⟩
  | responseEnd r => cases hterminal
  | streamError e => cases hterminal

variable {s s' : AnthropicMessagesSseEncoder}

theorem encodeEvent_ok (h : (encodeEvent serde e).call s = (.ok frames, s')) :
    s'.metadata = s.metadata ∧ s.lifecycle.apply e = .ok s'.lifecycle ∧
      (Assembly.apply serde s.metadata e).call s.assembly = (.ok frames, s'.assembly) := by
  simp only [encodeEvent, call_ok, call_onPart_ok] at h
  obtain ⟨_, -, lifecycle, hlifecycle, _, _, ⟨assembly, hassembly, rfl⟩, _, rfl, rfl⟩ := h
  exact ⟨rfl, hlifecycle, hassembly⟩

/-- What the encoder has done with the events so far, as long as the response goes on. -/
structure Encoded (serde : SerdeJson) (metadata : AnthropicResponseMetadata)
    (events : List CanonicalEvent) (out : List SseFrame) (s : AnthropicMessagesSseEncoder) :
    Prop where
  same : s.metadata = metadata
  lifecycle : applyAll {} events = .ok s.lifecycle
  taken : s.lifecycle.isTerminal = false →
    Taken serde metadata events out s.assembly ∧ s.assembly.terminal = .opened

theorem covers_nil : Covers serde [] (ledger {}) where
  tool i callId name input h := by simp [ledger] at h
  call callId tool h := by simp [ledger] at h
  unknown callId _ := ⟨rfl, rfl⟩
  active i h := by simp [ledger] at h
  closed i kind s h := by simp [ledger] at h
  value i kind s h := by simp [ledger] at h
  calls := rfl
  nodup := List.nodup_nil
  contents := rfl

theorem encoded_new : Encoded serde metadata [] [] (.new metadata) where
  same := rfl
  lifecycle := rfl
  taken _ := by
    refine ⟨⟨covers_nil, ?_, rfl, rfl, ⟨[], rfl, ?_⟩, ?_⟩, rfl⟩
    · exact ⟨Nat.le_refl 0, by simp [queue, new],
        by simp [queue, new],
        by simp [queue, new],
        by simp [queue, new]⟩
    · refine ⟨rfl, rfl, ?_⟩
      rintro ⟨x, hx, -⟩
      cases hx
    · intro hended
      cases hended

theorem Encoded.step (h : Encoded serde metadata events out s)
    (hcall : (encodeEvent serde e).call s = (.ok frames, s')) :
    Encoded serde metadata (events ++ [e]) (out ++ frames) s' := by
  obtain ⟨hmetadata, hlifecycle, hassembly⟩ := encodeEvent_ok hcall
  obtain ⟨htaken, hterminal⟩ := h.taken (not_terminal_of_apply hlifecycle)
  rw [h.same] at hassembly
  refine ⟨hmetadata.trans h.same,
    applyAll_snoc_ok.mpr ⟨s.lifecycle, h.lifecycle, hlifecycle⟩, ?_⟩
  intro hopen
  rw [isTerminal_of_apply hlifecycle] at hopen
  obtain ⟨htaken', hterminal'⟩ := htaken.apply hopen hassembly
  exact ⟨htaken', hterminal'.trans hterminal⟩

/-- **A run**: what the encoder has done with events that it accepted one by one. -/
theorem encoded_of_run
    (h : (Method.collect (encodeEvent serde) events).call (.new metadata) =
      (.ok out, s)) : Encoded serde metadata events out s :=
  collect_invariant Encoded.step encoded_new h

end Runs

/-! ### The grammar -/

/-- The call of a block. -/
def headCall : Head × List String → Option (String × String)
  | (.tool callId name, _) => some (callId, name)
  | (.content _, _) => none

/-- The text and thinking fragments of a block. -/
def headContents : Head × List String → List (ContentKind × String)
  | (.content kind, deltas) => deltas.map (Prod.mk kind)
  | (.tool .., _) => []

/-- The blocks carry what the events say: each call has one block, in order, with the fragments of
the call; the text and thinking fragments are those of the events, in order and under their kind. -/
structure Transcribes (serde : SerdeJson) (events : List CanonicalEvent)
    (blocks : List (Head × List String)) : Prop where
  calls : blocks.filterMap headCall = calls events
  distinct : ((Coverage.calls events).map Prod.fst).Nodup
  inputs : ∀ (callId name : String) (deltas : List String), (.tool callId name, deltas) ∈ blocks →
    deltas = inputDeltas serde callId events
  contents : blocks.flatMap headContents = contents events

section Grammar

variable {encoder : AnthropicMessagesSseEncoder} {r : ResponseEnd}

theorem finished_of_block (hc : Covers serde events (ledger a))
    (hdone : ∀ (callId : String) (tool : ToolState), a.tools[callId]? = some tool →
      tool.completed = true) {callId name : String} {input : Option Value}
    (hb : .tool callId name input ∈ (ledger a).content) :
    ∃ tool value, (ledger a).tools callId = some tool ∧ input = some value ∧
      Finished serde callId events tool value := by
  obtain ⟨i, hi⟩ := List.getElem?_of_mem hb
  obtain ⟨tool, ht, rfl⟩ := hc.tool i callId name input hi
  obtain ⟨name', input', hb', hrecorded⟩ := hc.call callId tool ht
  rw [hi, Option.some.injEq] at hb'
  obtain ⟨-, -, rfl⟩ := hb'
  obtain ⟨tool', ht', rfl⟩ := Option.map_eq_some_iff.mp ht
  have hcompleted : (unsentTool tool').completed = true := hdone callId tool' ht'
  rw [Recorded, if_pos hcompleted] at hrecorded
  obtain ⟨value, hinput, hfinished⟩ := hrecorded
  exact ⟨unsentTool tool', value, ht, hinput, hfinished⟩

theorem transcribes_of_covers (hc : Covers serde events (ledger a))
    (hdone : ∀ (callId : String) (tool : ToolState), a.tools[callId]? = some tool →
      tool.completed = true) : Transcribes serde events (queue a).blocks where
  calls := by
    rw [blocks_queue, List.filterMap_map, ← hc.calls]
    refine List.filterMap_congr fun b _ => ?_
    cases b <;> rfl
  distinct := hc.nodup
  inputs callId name deltas hmem := by
    rw [blocks_queue] at hmem
    obtain ⟨b, hb, hblock⟩ := List.mem_map.mp hmem
    cases b with
    | content kind s => cases hblock
    | tool callId' name' input =>
      obtain ⟨tool, value, ht, -, hfinished⟩ := finished_of_block hc hdone hb
      simp only [Ledger.block, ht, Prod.mk.injEq] at hblock
      obtain ⟨⟨rfl, rfl⟩, rfl⟩ := hblock
      exact hfinished.deltas
  contents := by
    rw [blocks_queue, List.flatMap_map, ← hc.contents]
    refine List.flatMap_congr fun b _ => ?_
    cases b <;> rfl

/-- What is known when a response was accepted to its end: the message `a` before its last event,
and the usage that was written with it. -/
structure Ended (serde : SerdeJson) (metadata : AnthropicResponseMetadata)
    (events : List CanonicalEvent) (r : ResponseEnd) (frames : List SseFrame) (a : Assembly)
    (id reason : String) (usage : Usage) (value : Value) : Prop where
  covers : Covers serde events (ledger a)
  complete : Complete a
  named : idOf (preamble events) = some id
  response : a.responseId = idOf events
  counted : a.usage = usageOf events
  stopped : r.stopReason = some reason
  reported : usageOf events = some usage
  repaid : outputUsageValue usage ((usageOf (preamble events)).bind (·.inputTokens)).isNone =
    .ok value
  written : frames = messageStartFrame id metadata (usageOf (preamble events)) ::
    writer.blocks (queue a).blocks ++
      [messageDeltaFrame reason r.stopSequence value, messageStopFrame]

/-- **A run to the end.** -/
theorem ended_of_run (h : (Method.collect (encodeEvent serde)
      (events ++ [.responseEnd r])).call (.new metadata) = (.ok frames, encoder)) :
    ∃ a id reason usage value, Ended serde metadata events r frames a id reason usage value ∧
      applyAll {} (events ++ [.responseEnd r]) = .ok encoder.lifecycle ∧
      encoder.metadata = metadata ∧ encoder.assembly = { a with
        stopReason := some reason, stopSequence := r.stopSequence, terminal := .completed } := by
  have hall := encoded_of_run h
  simp only [collect_snoc, call_ok] at h
  obtain ⟨out, s, hrun, last, encoder, hlast, rfl, rfl⟩ := h
  have hencoded := encoded_of_run hrun
  obtain ⟨-, hlifecycle, hassembly⟩ := encodeEvent_ok hlast
  obtain ⟨htaken, -⟩ := hencoded.taken (not_terminal_of_apply hlifecycle)
  simp only [Assembly.apply, endResponse, call_ok, Bool.and_eq_true, decide_eq_true_eq] at hassembly
  obtain ⟨_, ⟨hended, -⟩, usage, husage, value, hvalue, reason, hreason, _, rfl, hafter⟩ :=
    hassembly
  have hcomplete := htaken.ended hended
  obtain ⟨opening, hout, hopening⟩ := htaken.opening
  rw [Opening, if_neg (by simp [hended])] at hopening
  obtain ⟨-, hdeferred, id, hid, rfl⟩ := hopening
  rw [Queue.transcript_complete hcomplete.opened hcomplete.next] at hout
  rw [hdeferred] at hvalue
  rw [htaken.usage] at husage
  refine ⟨s.assembly, id, reason, usage, value, ?_, hall.lifecycle, hall.same, hafter.symm⟩
  exact ⟨htaken.covers, hcomplete, hid, htaken.id, htaken.usage, hreason, husage, hvalue,
    by rw [hout, List.singleton_append]⟩

/-- **The wire grammar.** The frames of a response that was accepted to its end are one message
start, the blocks one after another under their numbers, one message delta and one message stop. -/
theorem wire_grammar (h : (Method.collect (encodeEvent serde)
      (events ++ [.responseEnd r])).call (.new metadata) = (.ok frames, encoder)) :
    ∃ id reason usage blocks, idOf (preamble events) = some id ∧ r.stopReason = some reason ∧
      frames = messageStartFrame id metadata (usageOf (preamble events)) :: writer.blocks blocks ++
        [messageDeltaFrame reason r.stopSequence usage, messageStopFrame] ∧
      Transcribes serde events blocks := by
  obtain ⟨a, id, reason, usage, value, hended, -⟩ := ended_of_run h
  exact ⟨id, reason, value, (queue a).blocks, hended.named, hended.stopped, hended.written,
    transcribes_of_covers hended.covers hended.complete.tools⟩

end Grammar

/-! ### Samples -/

def sampleMetadata : AnthropicResponseMetadata := ⟨"m", sampleName_ne⟩

def sampleArguments : String := "\x7b\"x\":1\x7d"

def sampleSerde : SerdeJson :=
  .ofTable [(sampleArguments, .object [("x", .ofU64 1)]), ("\x7b\x7d", .object [])]

def sampleResponse (content : List CanonicalEvent) : List CanonicalEvent :=
  [.responseStart { responseId := .lit "r" },
    .usageDelta { usage := { inputTokens := some 1 }, isFinal := false },
    .messageStart { role := ⟨"assistant"⟩ }] ++ content ++
  [.messageEnd {}, .usageDelta { usage := { outputTokens := some 2 }, isFinal := true }]

def sampleEnd : ResponseEnd := { stopReason := some "tool_use" }

def sampleRun (content : List CanonicalEvent) : Except GatewayError (List SseFrame) :=
  ((Method.collect (encodeEvent sampleSerde)
    (sampleResponse content ++ [.responseEnd sampleEnd])).call (.new sampleMetadata)).1

/-- Two calls that are open at the same time, with text and thinking between their fragments. -/
def interleaved : List CanonicalEvent :=
  [.textDelta { text := "a" }, .toolCallStart { callId := "1", name := "f" },
    .toolCallStart { callId := "2", name := "g" },
    .toolCallArgumentsDelta { callId := "2", delta := "\x7b\"x\"" }, .textDelta { text := "b" },
    .reasoningDelta { text := "c" },
    .toolCallArgumentsDelta { callId := "1", delta := sampleArguments },
    .toolCallArgumentsDelta { callId := "2", delta := ":1\x7d" },
    .toolCallEnd { callId := "2", arguments := ⟨sampleArguments⟩ },
    .toolCallEnd { callId := "1", arguments := ⟨sampleArguments⟩ }, .textDelta { text := "d" }]

/-- The interleaved sample is written as six blocks. -/
theorem wire_grammar_interleaved :
    ∃ frames usage blocks, sampleRun interleaved = .ok frames ∧
      frames = messageStartFrame "r" sampleMetadata
        (usageOf (preamble (sampleResponse interleaved))) ::
        writer.blocks blocks ++ [messageDeltaFrame "tool_use" none usage, messageStopFrame] ∧
      Transcribes sampleSerde (sampleResponse interleaved) blocks := by
  have haccepted : (sampleRun interleaved).isOk = true := by decide +kernel
  rcases hrun : (Method.collect (encodeEvent sampleSerde)
      (sampleResponse interleaved ++ [.responseEnd sampleEnd])).call (.new sampleMetadata)
    with ⟨_ | frames, encoder⟩
  · rw [sampleRun, hrun] at haccepted
    cases haccepted
  · obtain ⟨id, reason, usage, blocks, hid, hreason, hframes, hblocks⟩ := wire_grammar hrun
    cases hid
    cases hreason
    exact ⟨frames, usage, blocks, by rw [sampleRun, hrun], hframes, hblocks⟩

/-- The fragment a frame carries. -/
def partialJson (frame : SseFrame) : Option String :=
  (frame.data.get "delta").bind fun delta => (delta.get "partial_json").bind Value.asStr

/-- A call that is completed with these arguments after these fragments. -/
def sampleCall (fragments : List String) (arguments : String) : List CanonicalEvent :=
  [.toolCallStart { callId := "1", name := "f" }] ++
  fragments.map (fun delta => .toolCallArgumentsDelta { callId := "1", delta }) ++
  [.toolCallEnd { callId := "1", arguments := ⟨arguments⟩ }]

/-- The fragments that are written for the sample call. -/
def writtenFragments (fragments : List String) (arguments : String) : Option (List String) :=
  (sampleRun (sampleCall fragments arguments)).toOption.map (·.filterMap partialJson)

/-- A call without a fragment gets one with its complete arguments, and an empty fragment of a call
is not written. -/
theorem written_fragments_differ :
    fragments "1" (sampleResponse (sampleCall [] sampleArguments)) = [] ∧
    writtenFragments [] sampleArguments = some [sampleArguments] ∧
    fragments "1" (sampleResponse (sampleCall [""] "\x7b\x7d")) = [""] ∧
    writtenFragments [""] "\x7b\x7d" = some [] := by
  decide +kernel

end CpaGateway.Anthropic.WireGrammar
