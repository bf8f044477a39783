import CpaGateway.Anthropic.Blocks
import CpaGateway.Bridge.Meaning

/-! # What the Anthropic encoder has taken in

`Covers` relates the events that were encoded to the ledger of the message: which blocks there are,
in which order, and with which fragments. Each change of the ledger is a lemma; what the events of a
run amount to follows by induction. -/

namespace CpaGateway.Anthropic.Coverage

open Anthropic.Blocks Anthropic.Encoder Bridge.Meaning Core.Events Core.Json

/-! ### What events say -/

def callOf : CanonicalEvent → Option (String × String)
  | .toolCallStart start => some (start.callId, start.name)
  | _ => none

/-- The calls, in order. -/
def calls (events : List CanonicalEvent) : List (String × String) := events.filterMap callOf

def contentOf : CanonicalEvent → Option (ContentKind × String)
  | .textDelta delta => some (.text, delta.text)
  | .reasoningDelta delta => some (.thinking, delta.text)
  | _ => none

/-- The text and thinking fragments, in order. -/
def contents (events : List CanonicalEvent) : List (ContentKind × String) :=
  events.filterMap contentOf

/-- The argument fragments of a call that are not empty, in order. -/
def sent (callId : String) (events : List CanonicalEvent) : List String :=
  (fragments callId events).filter fun fragment => !fragment.isEmpty

def argumentsOf (callId : String) : CanonicalEvent → Option String
  | .toolCallEnd e => if e.callId = callId then some e.arguments.get else none
  | _ => none

def completed (callId : String) (events : List CanonicalEvent) : Option String :=
  events.findSome? (argumentsOf callId)

/-- The fragments of the block of a call: those of the call, or its complete arguments if it has
none and they are not the empty object. -/
def inputDeltas (serde : SerdeJson) (callId : String) (events : List CanonicalEvent) :
    List String :=
  if sent callId events = [] then
    ((completed callId events).map (normalizeToolArguments serde)).toList.filter (· ≠ "\x7b\x7d")
  else sent callId events

variable {events : List CanonicalEvent} {e : CanonicalEvent} {callId : String}

theorem calls_snoc : calls (events ++ [e]) = calls events ++ (callOf e).toList := by
  simp only [calls]
  cases h : callOf e <;> simp [h]

theorem contents_snoc : contents (events ++ [e]) = contents events ++ (contentOf e).toList := by
  simp only [contents]
  cases h : contentOf e <;> simp [h]

theorem sent_snoc : sent callId (events ++ [e]) =
    sent callId events ++ (fragmentOf callId e).toList.filter fun fragment =>
      !fragment.isEmpty := by
  simp only [sent, fragments_append]
  cases h : fragmentOf callId e <;> simp [fragments, h]

theorem completed_snoc :
    completed callId (events ++ [e]) = (completed callId events).or (argumentsOf callId e) := by
  simp [completed]

/-- The event does not touch the call. -/
structure Leaves (callId : String) (e : CanonicalEvent) : Prop where
  fragment : (fragmentOf callId e).toList.filter (fun fragment => !fragment.isEmpty) = []
  arguments : argumentsOf callId e = none

/-- The event touches no block. -/
structure Silent (e : CanonicalEvent) : Prop where
  call : callOf e = none
  content : contentOf e = none
  leaves : ∀ callId, Leaves callId e

theorem Leaves.sent (h : Leaves callId e) : sent callId (events ++ [e]) = sent callId events := by
  rw [sent_snoc, h.fragment, List.append_nil]

theorem Leaves.completed (h : Leaves callId e) :
    completed callId (events ++ [e]) = completed callId events := by
  rw [completed_snoc, h.arguments, Option.or_none]

/-! ### Blocks and calls -/

def blockCall : ContentBlock → Option (String × String)
  | .content .. => none
  | .tool callId name _ => some (callId, name)

/-- The text and thinking fragments of a block. -/
def blockContents : ContentBlock → List (ContentKind × String)
  | .content kind s => s.deltas.map (Prod.mk kind)
  | .tool .. => []

/-- A call that is not complete has the fragments it was sent. -/
structure Pending (callId : String) (events : List CanonicalEvent) (tool : ToolState) : Prop where
  deltas : tool.argumentDeltas = sent callId events
  json : tool.partialJson = String.join (sent callId events)
  saw : tool.sawArgumentsDelta = !(sent callId events).isEmpty
  unended : completed callId events = none

structure Finished (serde : SerdeJson) (callId : String) (events : List CanonicalEvent)
    (tool : ToolState) (input : Value) : Prop where
  deltas : tool.argumentDeltas = inputDeltas serde callId events
  ended : ∃ arguments, completed callId events = some arguments ∧
    serde.fromStr (normalizeToolArguments serde arguments) = some input ∧ input.isObject = true ∧
    (sent callId events ≠ [] → normalizeToolArguments serde (String.join (sent callId events)) =
      normalizeToolArguments serde arguments)

/-- What the ledger has of a call. -/
def Recorded (serde : SerdeJson) (callId : String) (events : List CanonicalEvent) (tool : ToolState)
    (input : Option Value) : Prop :=
  if tool.completed then ∃ value, input = some value ∧ Finished serde callId events tool value
  else input = none ∧ Pending callId events tool

structure Covers (serde : SerdeJson) (events : List CanonicalEvent) (l : Ledger) : Prop where
  tool : ∀ (i : ℕ) (callId name : String) (input : Option Value),
    l.content[i]? = some (.tool callId name input) →
      ∃ tool, l.tools callId = some tool ∧ tool.contentIndex = i
  call : ∀ (callId : String) (tool : ToolState), l.tools callId = some tool →
    ∃ name input, l.content[tool.contentIndex]? = some (.tool callId name input) ∧
      Recorded serde callId events tool input
  unknown : ∀ callId : String, l.tools callId = none →
    sent callId events = [] ∧ completed callId events = none
  active : ∀ i : ℕ, l.activeContentIndex = some i →
    ∃ before kind s, l.content = before ++ [.content kind s] ∧ i = before.length ∧ s.closed = false
  closed : ∀ (i : ℕ) (kind : ContentKind) (s : ContentState),
    l.content[i]? = some (.content kind s) → s.closed = true ∨ l.activeContentIndex = some i
  value : ∀ (i : ℕ) (kind : ContentKind) (s : ContentState),
    l.content[i]? = some (.content kind s) → s.value = String.join s.deltas
  calls : l.content.filterMap blockCall = calls events
  nodup : ((Coverage.calls events).map Prod.fst).Nodup
  contents : l.content.flatMap blockContents = contents events

theorem Covers.linked {serde : SerdeJson} {l : Ledger} (h : Covers serde events l) : Linked l where
  tool := h.tool
  block callId tool ht := by
    obtain ⟨name, input, hb, -⟩ := h.call callId tool ht
    exact ⟨name, input, hb⟩

/-! ### Changes of the ledger -/

/-- The same calls, with the same fragments and arguments. -/
structure SameCalls (events events' : List CanonicalEvent) : Prop where
  sent : ∀ callId, sent callId events' = sent callId events
  completed : ∀ callId, completed callId events' = completed callId events
  calls : calls events' = calls events

theorem SameCalls.refl (events : List CanonicalEvent) : SameCalls events events :=
  ⟨fun _ => rfl, fun _ => rfl, rfl⟩

theorem sameCalls_snoc (events : List CanonicalEvent) (hcall : callOf e = none)
    (hleaves : ∀ callId, Leaves callId e) : SameCalls events (events ++ [e]) where
  sent callId := (hleaves callId).sent
  completed callId := (hleaves callId).completed
  calls := by rw [calls_snoc, hcall, Option.toList_none, List.append_nil]

section Change

variable {serde : SerdeJson} {events' : List CanonicalEvent} {l : Ledger} {name : String}
  {tool : ToolState} {input : Option Value}

/-- A record depends only on what the events say about its call. -/
theorem Recorded.congr (h : Recorded serde callId events tool input)
    (hsent : sent callId events' = sent callId events)
    (hcompleted : completed callId events' = completed callId events) :
    Recorded serde callId events' tool input := by
  unfold Recorded at h ⊢
  split_ifs at h ⊢
  · obtain ⟨value, hinput, hdeltas, hended⟩ := h
    refine ⟨value, hinput, ?_, ?_⟩
    · rw [hdeltas, inputDeltas, inputDeltas, hsent, hcompleted]
    · rw [hsent, hcompleted]
      exact hended
  · obtain ⟨hinput, hp⟩ := h
    refine ⟨hinput, ?_, ?_, ?_, ?_⟩
    · rw [hsent, hp.deltas]
    · rw [hsent, hp.json]
    · rw [hsent, hp.saw]
    · rw [hcompleted, hp.unended]

theorem Covers.retext {content : List ContentBlock} {active : Option ℕ} (h : Covers serde events l)
    (hsame : SameCalls events events')
    (htools : ∀ (i : ℕ) (callId name : String) (input : Option Value),
      content[i]? = some (.tool callId name input) ↔ l.content[i]? = some (.tool callId name input))
    (hcalls : content.filterMap blockCall = l.content.filterMap blockCall)
    (hactive : ∀ i : ℕ, active = some i →
      ∃ before kind s, content = before ++ [.content kind s] ∧ i = before.length ∧ s.closed = false)
    (hclosed : ∀ (i : ℕ) (kind : ContentKind) (s : ContentState),
      content[i]? = some (.content kind s) → s.closed = true ∨ active = some i)
    (hvalue : ∀ (i : ℕ) (kind : ContentKind) (s : ContentState),
      content[i]? = some (.content kind s) → s.value = String.join s.deltas)
    (hcontents : content.flatMap blockContents = Coverage.contents events') :
    Covers serde events' { l with content := content, activeContentIndex := active } where
  tool i callId name input hb := h.tool i callId name input ((htools ..).mp hb)
  call callId tool ht := by
    obtain ⟨name, input, hb, hrecorded⟩ := h.call callId tool ht
    exact ⟨name, input, (htools ..).mpr hb,
      hrecorded.congr (hsame.sent callId) (hsame.completed callId)⟩
  unknown callId ht := by
    rw [hsame.sent, hsame.completed]
    exact h.unknown callId ht
  active := hactive
  closed := hclosed
  value := hvalue
  calls := by rw [hcalls, h.calls, hsame.calls]
  nodup := by
    rw [hsame.calls]
    exact h.nodup
  contents := hcontents

theorem Covers.silent (h : Covers serde events l) (hs : Silent e) :
    Covers serde (events ++ [e]) l :=
  h.retext (sameCalls_snoc events hs.call hs.leaves) (fun _ _ _ _ => Iff.rfl) rfl h.active h.closed
    h.value (by rw [h.contents, contents_snoc, hs.content, Option.toList_none, List.append_nil])

theorem Covers.frame {l' : Ledger} (h : Covers serde events l) (hcontent : l'.content = l.content)
    (htools : l'.tools = l.tools) (hactive : l'.activeContentIndex = l.activeContentIndex) :
    Covers serde events l' := by
  obtain ⟨content, tools, active, message, env⟩ := l'
  obtain rfl : content = l.content := hcontent
  obtain rfl : tools = l.tools := htools
  obtain rfl : active = l.activeContentIndex := hactive
  exact ⟨h.tool, h.call, h.unknown, h.active, h.closed, h.value, h.calls, h.nodup, h.contents⟩

variable {before : List ContentBlock} {i : ℕ}

theorem getElem?_last {b c : ContentBlock} (h : (before ++ [c])[i]? = some b) :
    (i < before.length ∧ before[i]? = some b) ∨ (i = before.length ∧ c = b) := by
  rcases Nat.lt_or_ge i before.length with hlt | hge
  · rw [List.getElem?_append_left hlt] at h
    exact .inl ⟨hlt, h⟩
  · rw [List.getElem?_append_right hge, List.getElem?_singleton] at h
    split_ifs at h with hi
    · have hi' : i = before.length := by omega
      exact .inr ⟨hi', Option.some.inj h⟩

variable {kind : ContentKind} {s : ContentState}

theorem getElem?_last_tool :
    (before ++ [.content kind s])[i]? = some (.tool callId name input) ↔
      before[i]? = some (.tool callId name input) := by
  constructor
  · intro h
    rcases getElem?_last h with ⟨-, h'⟩ | ⟨-, h'⟩
    · exact h'
    · cases h'
  · intro h
    rw [List.getElem?_append_left (List.getElem?_eq_some_iff.mp h).1, h]

theorem Covers.close (h : Covers serde events l)
    (hcontent : l.content = before ++ [.content kind s])
    (hactive : l.activeContentIndex = some before.length) : Covers serde events { l with
      content := before ++ [.content kind { s with closed := true }]
      activeContentIndex := none } := by
  refine h.retext (.refl events) ?_ ?_ (fun i hi => by cases hi) ?_ ?_ ?_
  · intro i callId name input
    rw [hcontent, getElem?_last_tool, getElem?_last_tool]
  · rw [hcontent, List.filterMap_append, List.filterMap_append]
    rfl
  · intro i kind' s' hb
    rcases getElem?_last hb with ⟨hlt, hb'⟩ | ⟨-, hb'⟩
    · have hold : l.content[i]? = some (.content kind' s') := by
        rw [hcontent, List.getElem?_append_left hlt, hb']
      rcases h.closed i kind' s' hold with hclosed | hi
      · exact .inl hclosed
      · rw [hactive, Option.some.injEq] at hi
        omega
    · cases hb'
      exact .inl rfl
  · intro i kind' s' hb
    rcases getElem?_last hb with ⟨hlt, hb'⟩ | ⟨-, hb'⟩
    · exact h.value i kind' s' (by rw [hcontent, List.getElem?_append_left hlt, hb'])
    · cases hb'
      exact h.value before.length kind s (by rw [hcontent]; simp)
  · rw [← h.contents, hcontent]
    simp [blockContents]

theorem Covers.open_ (h : Covers serde events l) (hactive : l.activeContentIndex = none)
    (kind : ContentKind) :
    Covers serde events { l with
      content := l.content ++ [.content kind {}]
      activeContentIndex := some l.content.length } := by
  refine h.retext (.refl events) ?_ (by simp [blockCall]) ?_ ?_ ?_ ?_
  · intro i callId name input
    rw [getElem?_last_tool]
  · intro i hi
    exact ⟨l.content, kind, {}, rfl, (Option.some.inj hi).symm, rfl⟩
  · intro i kind' s' hb
    rcases getElem?_last hb with ⟨-, hb'⟩ | ⟨rfl, -⟩
    · rcases h.closed i kind' s' hb' with hclosed | hi
      · exact .inl hclosed
      · rw [hactive] at hi
        cases hi
    · exact .inr rfl
  · intro i kind' s' hb
    rcases getElem?_last hb with ⟨-, hb'⟩ | ⟨-, hb'⟩
    · exact h.value i kind' s' hb'
    · cases hb'
      rfl
  · rw [← h.contents]
    simp [blockContents]

theorem Covers.extend {value : String} (h : Covers serde events l)
    (hcontent : l.content = before ++ [.content kind s])
    (hactive : l.activeContentIndex = some before.length) (he : contentOf e = some (kind, value))
    (hcall : callOf e = none) (hleaves : ∀ callId, Leaves callId e) :
    Covers serde (events ++ [e]) { l with
      content := before ++
        [.content kind { s with value := s.value ++ value, deltas := s.deltas ++ [value] }] } := by
  have hopen : s.closed = false := by
    obtain ⟨before', kind', s', hcontent', -, hclosed⟩ := h.active _ hactive
    rw [hcontent] at hcontent'
    obtain ⟨-, hlast⟩ := List.append_inj' hcontent' rfl
    cases hlast
    exact hclosed
  refine h.retext (sameCalls_snoc events hcall hleaves) ?_ ?_ ?_ ?_ ?_ ?_
  · intro i callId name input
    rw [hcontent, getElem?_last_tool, getElem?_last_tool]
  · rw [hcontent, List.filterMap_append, List.filterMap_append]
    rfl
  · intro i hi
    rw [hactive, Option.some.injEq] at hi
    exact ⟨before, kind, _, rfl, hi.symm, hopen⟩
  · intro i kind' s' hb
    rcases getElem?_last hb with ⟨hlt, hb'⟩ | ⟨rfl, -⟩
    · exact h.closed i kind' s' (by rw [hcontent, List.getElem?_append_left hlt, hb'])
    · exact .inr hactive
  · intro i kind' s' hb
    rcases getElem?_last hb with ⟨hlt, hb'⟩ | ⟨-, hb'⟩
    · exact h.value i kind' s' (by rw [hcontent, List.getElem?_append_left hlt, hb'])
    · cases hb'
      have hold : s.value = String.join s.deltas :=
        h.value before.length kind s (by rw [hcontent]; simp)
      simp [hold, String.join_append]
  · rw [contents_snoc, he, ← h.contents, hcontent]
    simp [blockContents]

theorem leaves_start (start : ToolCallStart) (callId : String) :
    Leaves callId (.toolCallStart start) := ⟨rfl, rfl⟩

theorem Covers.tools_of_mem_calls (h : Covers serde events l)
    (hmem : callId ∈ (Coverage.calls events).map Prod.fst) : l.tools callId ≠ none := by
  rw [← h.calls, List.mem_map] at hmem
  obtain ⟨⟨callId', name⟩, hmem, rfl⟩ := hmem
  obtain ⟨b, hb, hcall⟩ := List.mem_filterMap.mp hmem
  cases b with
  | content kind s => cases hcall
  | tool callId'' name' input =>
    obtain ⟨rfl, rfl⟩ := Prod.mk.inj (Option.some.inj hcall)
    obtain ⟨i, hi⟩ := List.getElem?_of_mem hb
    obtain ⟨tool, ht, -⟩ := h.tool i _ _ _ hi
    rw [ht]
    exact Option.some_ne_none tool

theorem Covers.begin (h : Covers serde events l) (start : ToolCallStart)
    (hactive : l.activeContentIndex = none) (hnew : l.tools start.callId = none) :
    Covers serde (events ++ [.toolCallStart start]) { l with
      content := l.content ++ [.tool start.callId start.name none]
      tools := Function.update l.tools start.callId
        (some { contentIndex := l.content.length }) } where
  tool i callId name input hb := by
    rcases getElem?_last hb with ⟨-, hb'⟩ | ⟨rfl, hb'⟩
    · obtain ⟨tool, ht, hindex⟩ := h.tool i callId name input hb'
      have hne : callId ≠ start.callId := by
        rintro rfl
        rw [hnew] at ht
        cases ht
      exact ⟨tool, (Function.update_of_ne hne ..).trans ht, hindex⟩
    · cases hb'
      exact ⟨_, Function.update_self .., rfl⟩
  call callId tool ht := by
    dsimp only at ht ⊢
    by_cases hne : callId = start.callId
    · subst hne
      rw [Function.update_self, Option.some.injEq] at ht
      subst ht
      obtain ⟨hsent, hcompleted⟩ := h.unknown _ hnew
      have hleaves := leaves_start start start.callId
      refine ⟨start.name, none, by simp, ?_⟩
      refine ⟨rfl, ?_, ?_, ?_, ?_⟩
      · rw [hleaves.sent, hsent]
      · rw [hleaves.sent, hsent]
        rfl
      · rw [hleaves.sent, hsent]
        rfl
      · rw [hleaves.completed, hcompleted]
    · rw [Function.update_of_ne hne] at ht
      obtain ⟨name, input, hb, hrecorded⟩ := h.call callId tool ht
      have hlt := (List.getElem?_eq_some_iff.mp hb).1
      have hleaves := leaves_start start callId
      exact ⟨name, input, by rw [List.getElem?_append_left hlt, hb],
        hrecorded.congr hleaves.sent hleaves.completed⟩
  unknown callId ht := by
    dsimp only at ht
    have hne : callId ≠ start.callId := by
      rintro rfl
      rw [Function.update_self] at ht
      cases ht
    rw [Function.update_of_ne hne] at ht
    have hleaves := leaves_start start callId
    rw [hleaves.sent, hleaves.completed]
    exact h.unknown callId ht
  active i hi := by
    rw [hactive] at hi
    cases hi
  closed i kind s hb := by
    rcases getElem?_last hb with ⟨-, hb'⟩ | ⟨-, hb'⟩
    · exact h.closed i kind s hb'
    · cases hb'
  value i kind s hb := by
    rcases getElem?_last hb with ⟨-, hb'⟩ | ⟨-, hb'⟩
    · exact h.value i kind s hb'
    · cases hb'
  calls := by
    rw [calls_snoc, ← h.calls, List.filterMap_append]
    rfl
  nodup := by
    rw [calls_snoc, List.map_append, List.nodup_append]
    refine ⟨h.nodup, List.pairwise_singleton .., ?_⟩
    intro callId hmem callId' hmem' heq
    obtain rfl : callId' = start.callId := List.mem_singleton.mp hmem'
    exact h.tools_of_mem_calls (heq ▸ hmem) hnew
  contents := by
    rw [contents_snoc, ← h.contents]
    simp [blockContents, contentOf]

theorem map_set_eq {α β : Type} {f : α → β} {blocks : List α} {b c : α}
    (hb : blocks[i]? = some b) (hf : f c = f b) : (blocks.set i c).map f = blocks.map f := by
  rw [List.map_set, hf]
  refine List.ext_getElem? fun j => ?_
  rw [List.getElem?_set]
  split_ifs with hj hlen
  · subst hj
    rw [List.getElem?_map, hb]
    rfl
  · subst hj
    rw [List.getElem?_eq_none (Nat.not_lt.mp hlen)]
  · rfl

theorem Covers.update {tool' : ToolState} {input' : Option Value} (h : Covers serde events l)
    (ht : l.tools callId = some tool)
    (hb : l.content[tool.contentIndex]? = some (.tool callId name input))
    (hindex : tool'.contentIndex = tool.contentIndex)
    (hrecorded : Recorded serde callId (events ++ [e]) tool' input')
    (hothers : ∀ callId', callId' ≠ callId → Leaves callId' e) (hcall : callOf e = none)
    (hcontent : contentOf e = none) :
    Covers serde (events ++ [e]) { l with
      content := l.content.set tool.contentIndex (.tool callId name input')
      tools := Function.update l.tools callId (some tool') } where
  tool i callId' name' inp hb' := by
    by_cases hi : tool.contentIndex = i
    · subst hi
      rw [List.getElem?_set_self (List.getElem?_eq_some_iff.mp hb).1] at hb'
      cases hb'
      exact ⟨tool', Function.update_self .., hindex⟩
    · rw [List.getElem?_set_ne hi] at hb'
      obtain ⟨tool₁, ht₁, hindex₁⟩ := h.tool i callId' name' inp hb'
      have hne : callId' ≠ callId := by
        rintro rfl
        rw [ht, Option.some.injEq] at ht₁
        exact hi (ht₁ ▸ hindex₁)
      exact ⟨tool₁, (Function.update_of_ne hne ..).trans ht₁, hindex₁⟩
  call callId' tool₁ ht₁ := by
    dsimp only at ht₁ ⊢
    by_cases hne : callId' = callId
    · subst hne
      rw [Function.update_self, Option.some.injEq] at ht₁
      subst ht₁
      refine ⟨name, input', ?_, hrecorded⟩
      rw [hindex, List.getElem?_set_self (List.getElem?_eq_some_iff.mp hb).1]
    · rw [Function.update_of_ne hne] at ht₁
      obtain ⟨name₁, input₁, hb₁, hrecorded₁⟩ := h.call callId' tool₁ ht₁
      have hi : tool.contentIndex ≠ tool₁.contentIndex := by
        intro heq
        rw [heq, hb₁] at hb
        cases hb
        exact hne rfl
      have hleaves := hothers callId' hne
      exact ⟨name₁, input₁, by rw [List.getElem?_set_ne hi, hb₁],
        hrecorded₁.congr hleaves.sent hleaves.completed⟩
  unknown callId' ht' := by
    dsimp only at ht'
    have hne : callId' ≠ callId := by
      rintro rfl
      rw [Function.update_self] at ht'
      cases ht'
    rw [Function.update_of_ne hne] at ht'
    have hleaves := hothers callId' hne
    rw [hleaves.sent, hleaves.completed]
    exact h.unknown callId' ht'
  active i hi := by
    obtain ⟨before, kind, s, hbefore, rfl, hclosed⟩ := h.active i hi
    rw [hbefore] at hb
    rcases getElem?_last hb with ⟨hlt, -⟩ | ⟨-, hb'⟩
    · exact ⟨_, kind, s, by rw [hbefore, List.set_append_left _ _ hlt], by simp, hclosed⟩
    · cases hb'
  closed i kind s hb' := by
    have hne : tool.contentIndex ≠ i := by
      rintro rfl
      rw [List.getElem?_set_self (List.getElem?_eq_some_iff.mp hb).1] at hb'
      cases hb'
    rw [List.getElem?_set_ne hne] at hb'
    exact h.closed i kind s hb'
  value i kind s hb' := by
    have hne : tool.contentIndex ≠ i := by
      rintro rfl
      rw [List.getElem?_set_self (List.getElem?_eq_some_iff.mp hb).1] at hb'
      cases hb'
    rw [List.getElem?_set_ne hne] at hb'
    exact h.value i kind s hb'
  calls := by
    have hmap := map_set_eq (f := blockCall) (c := .tool callId name input') hb rfl
    have hsame := congrArg (List.filterMap id) hmap
    rw [List.filterMap_map, List.filterMap_map, Function.id_comp] at hsame
    rw [calls_snoc, hcall, Option.toList_none, List.append_nil, ← h.calls, hsame]
  nodup := by
    rw [calls_snoc, hcall, Option.toList_none, List.append_nil]
    exact h.nodup
  contents := by
    have hmap := map_set_eq (f := blockContents) (c := .tool callId name input') hb rfl
    rw [contents_snoc, hcontent, Option.toList_none, List.append_nil, ← h.contents,
      List.flatMap_def, List.flatMap_def, hmap]

end Change

end CpaGateway.Anthropic.Coverage
