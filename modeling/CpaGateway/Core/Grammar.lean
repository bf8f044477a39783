import CpaGateway.Core.Events
import Mathlib.Data.List.Chain
import Mathlib.Data.List.Infix

/-! # The grammar of a complete response

`ResponseGrammar` says, without any state, which event lists are complete responses: conditions on
what stands before and after each event. The validator `CanonicalEventState.apply` is incremental
and remembers one flag, one map of tool calls and one usage mark. The bridge is `Tracks`: after a
prefix `p` the flag, the map and the mark are exactly the facts `MessageOpen p`, `Started id p`,
`Ended id p` and `FinalUsage p`, so an event is accepted after `p` iff it is `Legal p`. -/

namespace CpaGateway.Core.Grammar

open Core.Events Lib.Fallible CanonicalEventState CanonicalEvent CanonicalResponse

/-! ### What a prefix has seen -/

/-- The last message mark of `p` is a `MessageStart`. -/
def MessageOpen (p : List CanonicalEvent) : Prop :=
  ∃ p₁ m p₂, p = p₁ ++ .messageStart m :: p₂ ∧ ∀ e, messageEnd e ∉ p₂

/-- The tool call `id` was declared in `p`. -/
def Started (id : String) (p : List CanonicalEvent) : Prop :=
  ∃ s, toolCallStart s ∈ p ∧ s.callId = id

/-- The tool call `id` was completed in `p`. -/
def Ended (id : String) (p : List CanonicalEvent) : Prop :=
  ∃ e, toolCallEnd e ∈ p ∧ e.callId = id

def FinalUsage (p : List CanonicalEvent) : Prop :=
  ∃ u, usageDelta u ∈ p ∧ u.isFinal = true

def callOf : CanonicalEvent → Option String
  | .toolCallStart s => some s.callId
  | .toolCallArgumentsDelta d => some d.callId
  | .toolCallEnd e => some e.callId
  | _ => none

/-- The two marks of a message. -/
inductive Mark
  | starts
  | ends
  deriving DecidableEq

def markOf : CanonicalEvent → Option Mark
  | .messageStart _ => some .starts
  | .messageEnd _ => some .ends
  | _ => none

/-- The message marks of a list, in order. -/
def marks (p : List CanonicalEvent) : List Mark := p.filterMap markOf

/-- The marks strictly alternate, from a `MessageStart` to a `MessageEnd`. -/
structure Alternating (L : List Mark) : Prop where
  chain : L.IsChain (· ≠ ·)
  first : ∀ m ∈ L.head?, m = Mark.starts
  last : ∀ m ∈ L.getLast?, m = Mark.ends

/-- An event between `p` and `q` lies in a message: after a `MessageStart` with no `MessageEnd` in
between, and before the `MessageEnd` of that message. -/
def InMessage (p q : List CanonicalEvent) : Prop :=
  MessageOpen p ∧ ∃ e, messageEnd e ∈ q

/-- **The grammar** of a complete response. -/
structure ResponseGrammar (es : List CanonicalEvent) : Prop where
  starts : ∃ r tl, es = .responseStart r :: tl ∧ ∀ r', responseStart r' ∉ tl
  ends : ∃ p r, es = p ++ [.responseEnd r] ∧ (∀ r', responseEnd r' ∉ p) ∧
    r.stopReason ≠ some "" ∧ r.stopSequence ≠ some ""
  noError : ∀ e, streamError e ∉ es
  alternating : Alternating (marks es)
  text : ∀ p d q, es = p ++ .textDelta d :: q → d.text ≠ "" ∧ InMessage p q
  reasoning : ∀ p d q, es = p ++ .reasoningDelta d :: q → d.text ≠ "" ∧ InMessage p q
  callStart : ∀ p s q, es = p ++ .toolCallStart s :: q →
    s.callId ≠ "" ∧ s.name ≠ "" ∧ InMessage p q ∧ ¬ Started s.callId (p ++ q)
  callArguments : ∀ p d q, es = p ++ .toolCallArgumentsDelta d :: q → Started d.callId p
  callEnd : ∀ p e q, es = p ++ .toolCallEnd e :: q → Started e.callId p
  callClosed : ∀ p e q, es = p ++ .toolCallEnd e :: q → ∀ x ∈ q, callOf x ≠ some e.callId
  callCompleted : ∀ p s q, es = p ++ .toolCallStart s :: q →
    ∃ q₁ e q₂, q = q₁ ++ .toolCallEnd e :: q₂ ∧ e.callId = s.callId ∧
      ∀ m, messageEnd m ∉ q₁
  usage : ∀ p u q, es = p ++ .usageDelta u :: q → u.isFinal = true →
    ∀ u', usageDelta u' ∉ q

/-! ### One more event -/

@[simp] theorem marks_nil : marks [] = [] := rfl

@[simp] theorem marks_append (p q : List CanonicalEvent) : marks (p ++ q) = marks p ++ marks q :=
  List.filterMap_append

@[simp] theorem marks_cons_starts (m : MessageStart) (q : List CanonicalEvent) :
    marks (.messageStart m :: q) = .starts :: marks q := rfl

@[simp] theorem marks_cons_ends (m : MessageEnd) (q : List CanonicalEvent) :
    marks (.messageEnd m :: q) = .ends :: marks q := rfl

theorem marks_singleton (e : CanonicalEvent) : marks [e] = (markOf e).toList := by
  cases e <;> rfl

@[simp] theorem started_nil (id : String) : ¬ Started id [] := by simp [Started]

@[simp] theorem ended_nil (id : String) : ¬ Ended id [] := by simp [Ended]

variable {q p es : List CanonicalEvent} {id : String}

theorem started_append : Started id (p ++ q) ↔ Started id p ∨ Started id q := by
  simp only [Started, List.mem_append, or_and_right, exists_or]

theorem ended_append : Ended id (p ++ q) ↔ Ended id p ∨ Ended id q := by
  simp only [Ended, List.mem_append, or_and_right, exists_or]

theorem finalUsage_append : FinalUsage (p ++ q) ↔ FinalUsage p ∨ FinalUsage q := by
  simp [FinalUsage, List.mem_append, or_and_right, exists_or]

variable {e : CanonicalEvent}

theorem started_singleton : Started id [e] ↔ ∃ s, e = .toolCallStart s ∧ s.callId = id := by
  simp only [Started, List.mem_singleton, eq_comm]

theorem ended_singleton : Ended id [e] ↔ ∃ x, e = .toolCallEnd x ∧ x.callId = id := by
  simp only [Ended, List.mem_singleton, eq_comm]

theorem finalUsage_singleton : FinalUsage [e] ↔ ∃ u, e = .usageDelta u ∧ u.isFinal = true := by
  simp only [FinalUsage, List.mem_singleton, eq_comm]

@[simp] theorem messageOpen_nil : ¬ MessageOpen [] := by
  rintro ⟨p₁, m, p₂, h, -⟩
  simp at h

theorem messageOpen_snoc_starts (p : List CanonicalEvent) (m : MessageStart) :
    MessageOpen (p ++ [.messageStart m]) := ⟨p, m, [], rfl, by simp⟩

theorem not_messageOpen_snoc_ends (p : List CanonicalEvent) (m : MessageEnd) :
    ¬ MessageOpen (p ++ [.messageEnd m]) := by
  rintro ⟨p₁, s, p₂, h, hno⟩
  rcases List.eq_nil_or_concat p₂ with rfl | ⟨p₃, x, rfl⟩
  · have := (List.append_inj' h rfl).2
    simp at this
  · rw [List.concat_eq_append, ← List.cons_append, ← List.append_assoc] at h
    obtain rfl : messageEnd m = x := by simpa using (List.append_inj' h rfl).2
    exact hno m (by simp)

theorem messageOpen_snoc_other (he : markOf e = none) : MessageOpen (p ++ [e]) ↔ MessageOpen p := by
  constructor
  · rintro ⟨p₁, s, p₂, h, hno⟩
    rcases List.eq_nil_or_concat p₂ with rfl | ⟨p₃, x, rfl⟩
    · obtain rfl : e = .messageStart s := by simpa using (List.append_inj' h rfl).2
      simp [markOf] at he
    · rw [List.concat_eq_append, ← List.cons_append, ← List.append_assoc] at h
      obtain ⟨rfl, -⟩ := List.append_inj' h rfl
      exact ⟨p₁, s, p₃, rfl, fun m hm => hno m (by simp [hm])⟩
  · rintro ⟨p₁, s, p₂, rfl, hno⟩
    refine ⟨p₁, s, p₂ ++ [e], by simp, fun m hm => ?_⟩
    rcases List.mem_append.mp hm with hm | hm
    · exact hno m hm
    · rw [← List.mem_singleton.mp hm] at he
      simp [markOf] at he

theorem messageOpen_iff_marks (p : List CanonicalEvent) :
    MessageOpen p ↔ (marks p).getLast? = some .starts := by
  induction p using List.reverseRecOn with
  | nil => simp
  | append_singleton p e ih =>
    rcases h : markOf e with _ | ⟨_ | _⟩
    · rw [messageOpen_snoc_other h, ih, marks_append, marks_singleton, h]
      simp
    · obtain ⟨m, rfl⟩ : ∃ m, e = .messageStart m := by cases e <;> simp_all [markOf]
      simp [messageOpen_snoc_starts]
    · obtain ⟨m, rfl⟩ : ∃ m, e = .messageEnd m := by cases e <;> simp_all [markOf]
      simp [not_messageOpen_snoc_ends]

/-! ### The validator tracks the prefix -/

/-- The event may follow `p`, the events of the response so far. -/
def Legal (p : List CanonicalEvent) : CanonicalEvent → Prop
  | .responseStart _ | .streamError _ => False
  | .messageStart _ => ¬ MessageOpen p
  | .textDelta d => MessageOpen p ∧ d.text ≠ ""
  | .reasoningDelta d => MessageOpen p ∧ d.text ≠ ""
  | .toolCallStart s => MessageOpen p ∧ s.callId ≠ "" ∧ s.name ≠ "" ∧ ¬ Started s.callId p
  | .toolCallArgumentsDelta d => MessageOpen p ∧ Started d.callId p ∧ ¬ Ended d.callId p
  | .toolCallEnd e => MessageOpen p ∧ Started e.callId p ∧ ¬ Ended e.callId p
  | .usageDelta _ => ¬ FinalUsage p
  | .messageEnd _ => MessageOpen p ∧ ∀ id, Started id p → Ended id p
  | .responseEnd r => ¬ MessageOpen p ∧ (∀ id, Started id p → Ended id p) ∧
      r.stopReason ≠ some "" ∧ r.stopSequence ≠ some ""

/-- The open state holds exactly what the prefix has seen. -/
structure Tracks (p : List CanonicalEvent) (o : OpenResponse) : Prop where
  message : o.messageOpen = true ↔ MessageOpen p
  started : ∀ id, (∃ l, o.toolCalls[id]? = some l) ↔ Started id p
  ended : ∀ id, o.toolCalls[id]? = some .emitted ↔ Ended id p
  usage : o.usage = .final ↔ FinalUsage p

variable {o : OpenResponse}

theorem Tracks.hasOpenToolCall (h : Tracks p o) :
    o.hasOpenToolCall = false ↔ ∀ id, Started id p → Ended id p := by
  simp only [OpenResponse.hasOpenToolCall, List.any_eq_false, Prod.forall,
    Std.TreeMap.mem_toList_iff_getElem?_eq_some]
  constructor
  · intro hall id hs
    obtain ⟨l, hl⟩ := (h.started id).mpr hs
    have hemitted : l = .emitted := by simpa using hall id l hl
    exact (h.ended id).mp (hemitted ▸ hl)
  · intro hall id l hl
    have hend := (h.ended id).mpr (hall id ((h.started id).mp ⟨l, hl⟩))
    rw [hl] at hend
    simpa using hend

theorem Tracks.keep (h : Tracks p o) (hm : markOf e = none)
    (hc : ∀ id, ¬ Started id [e]) (he : ∀ id, ¬ Ended id [e]) (hu : ¬ FinalUsage [e]) :
    Tracks (p ++ [e]) o where
  message := by rw [messageOpen_snoc_other hm]; exact h.message
  started id := by rw [started_append, or_iff_left (hc id)]; exact h.started id
  ended id := by rw [ended_append, or_iff_left (he id)]; exact h.ended id
  usage := by rw [finalUsage_append, or_iff_left hu]; exact h.usage

theorem getElem?_insert_call (m : Std.TreeMap String ToolCallLifecycle) (id a : String)
    (v : ToolCallLifecycle) : (m.insert id v)[a]? = if id = a then some v else m[a]? := by
  simp only [Std.TreeMap.getElem?_insert, Std.compare_eq_iff_eq]

section

variable (h : Tracks p o)

include h

theorem Tracks.set {l : ToolCallLifecycle}
    (hm : markOf e = none) (hu : ¬ FinalUsage [e]) (hs : ∀ a, Started a [e] → a = id)
    (hs' : Started id (p ++ [e])) (he : ∀ a, Ended a [e] ↔ a = id ∧ l = .emitted)
    (hp : ¬ Ended id p) : Tracks (p ++ [e]) { o with toolCalls := o.toolCalls.insert id l } where
  message := by rw [messageOpen_snoc_other hm]; exact h.message
  started a := by
    simp only [getElem?_insert_call]
    by_cases ha : id = a
    · subst ha
      simpa using hs'
    · rw [if_neg ha, h.started a, started_append, or_iff_left fun hx => ha (hs a hx).symm]
  ended a := by
    rw [getElem?_insert_call, ended_append, he]
    by_cases ha : id = a
    · subst ha
      simp [hp]
    · rw [if_neg ha, h.ended a, or_iff_left fun hx => ha hx.1.symm]
  usage := by rw [finalUsage_append, or_iff_left hu]; exact h.usage

/-- The call of an arguments or end event is in the map and not yet emitted. -/
theorem Tracks.lookup_open (hs : Started id p) (he : ¬ Ended id p) :
    o.toolCalls[id]? = some .declared ∨ o.toolCalls[id]? = some .argumentsStreaming := by
  obtain ⟨l, hl⟩ := (h.started id).mpr hs
  cases l with
  | declared => exact Or.inl hl
  | argumentsStreaming => exact Or.inr hl
  | emitted => exact absurd ((h.ended id).mp hl) he

variable {s : ToolCallStart}

theorem Tracks.startToolCall (hl : Legal p (.toolCallStart s)) :
    ∃ o', o.apply (.toolCallStart s) = .ok o' ∧ Tracks (p ++ [.toolCallStart s]) o' := by
  obtain ⟨hopen, hid, hname, hnew⟩ := hl
  have hnone : o.toolCalls[s.callId]? = none := by
    rw [Option.eq_none_iff_forall_ne_some]
    exact fun l hlk => hnew ((h.started _).mp ⟨l, hlk⟩)
  have hended : ¬ Ended s.callId p := fun he => by
    have := (h.ended _).mpr he
    simp [hnone] at this
  refine ⟨{ o with toolCalls := o.toolCalls.insert s.callId .declared }, ?_,
    h.set rfl (by simp [finalUsage_singleton]) ?_ ?_ ?_ hended⟩
  · simp only [OpenResponse.apply, OpenResponse.startToolCall]
    simp [h.message.mpr hopen, hid, hname, Std.TreeMap.mem_iff_isSome_getElem?, hnone]
  · intro a ha
    obtain ⟨s', hs', rfl⟩ := started_singleton.mp ha
    simp only [toolCallStart.injEq] at hs'
    rw [hs']
  · exact started_append.mpr (Or.inr (started_singleton.mpr ⟨s, rfl, rfl⟩))
  · simp [ended_singleton]

theorem Tracks.appendToolArguments {d : ToolCallArgumentsDelta}
    (hl : Legal p (.toolCallArgumentsDelta d)) :
    ∃ o', o.apply (.toolCallArgumentsDelta d) = .ok o' ∧
      Tracks (p ++ [.toolCallArgumentsDelta d]) o' := by
  obtain ⟨hopen, hs, he⟩ := hl
  rcases h.lookup_open hs he with hlk | hlk
  · refine ⟨{ o with toolCalls := o.toolCalls.insert d.callId .argumentsStreaming }, ?_,
      h.set rfl (by simp [finalUsage_singleton]) ?_ ?_ ?_ he⟩
    · simp [OpenResponse.apply, OpenResponse.appendToolArguments, h.message.mpr hopen, hlk]
    · simp [started_singleton]
    · exact started_append.mpr (Or.inl hs)
    · simp [ended_singleton]
  · refine ⟨o, ?_, h.keep rfl (by simp [started_singleton]) (by simp [ended_singleton])
      (by simp [finalUsage_singleton])⟩
    simp [OpenResponse.apply, OpenResponse.appendToolArguments, h.message.mpr hopen, hlk]

theorem Tracks.endToolCall {e : ToolCallEnd} (hl : Legal p (.toolCallEnd e)) :
    ∃ o', o.apply (.toolCallEnd e) = .ok o' ∧ Tracks (p ++ [.toolCallEnd e]) o' := by
  obtain ⟨hopen, hs, he⟩ := hl
  refine ⟨{ o with toolCalls := o.toolCalls.insert e.callId .emitted }, ?_,
    h.set rfl (by simp [finalUsage_singleton]) ?_ ?_ ?_ he⟩
  · simp only [OpenResponse.apply, OpenResponse.endToolCall, h.message.mpr hopen]
    rcases h.lookup_open hs he with hlk | hlk <;> rw [hlk] <;> rfl
  · simp [started_singleton]
  · exact started_append.mpr (Or.inl hs)
  · simp [ended_singleton, eq_comm]

theorem Tracks.recordUsage {u : UsageDelta} (hl : Legal p (.usageDelta u)) :
    ∃ o', o.apply (.usageDelta u) = .ok o' ∧ Tracks (p ++ [.usageDelta u]) o' := by
  have hno : o.usage ≠ .final := fun hf => hl (h.usage.mp hf)
  simp only [OpenResponse.apply, OpenResponse.recordUsage, if_neg hno]
  refine ⟨_, rfl, ?_, ?_, ?_, ?_⟩
  · rw [messageOpen_snoc_other rfl]; exact h.message
  · intro id
    rw [started_append, or_iff_left (by simp [started_singleton])]
    exact h.started id
  · intro id
    rw [ended_append, or_iff_left (by simp [ended_singleton])]
    exact h.ended id
  · rw [finalUsage_append, or_iff_right hl, finalUsage_singleton]
    cases hu : u.isFinal <;> simp [hu]

theorem Tracks.markMessage {b : Bool}
    (hb : b = true ↔ MessageOpen (p ++ [e])) (hm : markOf e ≠ none) :
    Tracks (p ++ [e]) { o with messageOpen := b } where
  message := hb
  started id := by
    rw [started_append, or_iff_left]
    · exact h.started id
    · rw [started_singleton]
      rintro ⟨s, rfl, -⟩
      exact hm rfl
  ended id := by
    rw [ended_append, or_iff_left]
    · exact h.ended id
    · rw [ended_singleton]
      rintro ⟨x, rfl, -⟩
      exact hm rfl
  usage := by
    rw [finalUsage_append, or_iff_left]
    · exact h.usage
    · rw [finalUsage_singleton]
      rintro ⟨u, rfl, -⟩
      exact hm rfl

/-- **A legal event is accepted**, and the next state tracks the longer prefix. -/
theorem Tracks.apply_legal (hl : Legal p e)
    (hend : ∀ r, e ≠ .responseEnd r) : ∃ o', o.apply e = .ok o' ∧ Tracks (p ++ [e]) o' := by
  cases e with
  | responseStart r => exact hl.elim
  | streamError e => exact hl.elim
  | responseEnd r => exact absurd rfl (hend r)
  | messageStart m =>
    have hclosed : o.messageOpen = false := by
      rw [← Bool.not_eq_true, h.message]; exact hl
    refine ⟨{ o with messageOpen := true }, by simp [OpenResponse.apply, hclosed], ?_⟩
    exact h.markMessage (by simp [messageOpen_snoc_starts]) (by simp [markOf])
  | textDelta | reasoningDelta =>
    refine ⟨o, ?_, h.keep rfl (by simp [started_singleton]) (by simp [ended_singleton])
      (by simp [finalUsage_singleton])⟩
    simp [OpenResponse.apply, h.message.mpr hl.1, hl.2]
  | toolCallStart s => exact h.startToolCall hl
  | toolCallArgumentsDelta d => exact h.appendToolArguments hl
  | toolCallEnd e => exact h.endToolCall hl
  | usageDelta u => exact h.recordUsage hl
  | messageEnd m =>
    refine ⟨{ o with messageOpen := false }, ?_,
      h.markMessage (by simp [not_messageOpen_snoc_ends]) (by simp [markOf])⟩
    simp [OpenResponse.apply, OpenResponse.endMessage, h.message.mpr hl.1,
      h.hasOpenToolCall.mpr hl.2]

/-- **An accepted event is legal.** -/
theorem Tracks.legal_of_apply {o' : OpenResponse} (ha : o.apply e = .ok o') : Legal p e := by
  have hopen : ∀ {b : Bool}, (!o.messageOpen || b) = false → MessageOpen p := fun hb =>
    h.message.mp (by simp at hb; exact hb.1)
  have hlookup : ∀ id l, o.toolCalls[id]? = some l → l ≠ .emitted →
      Started id p ∧ ¬ Ended id p := by
    intro id l hl hne
    refine ⟨(h.started id).mp ⟨l, hl⟩, fun he => hne ?_⟩
    rw [(h.ended id).mpr he] at hl
    exact (Option.some.inj hl).symm
  cases e with
  | responseStart | responseEnd | streamError => simp [OpenResponse.apply] at ha
  | messageStart m =>
    simp only [OpenResponse.apply] at ha
    split_ifs at ha with hm
    exact fun hp => hm (h.message.mpr hp)
  | textDelta | reasoningDelta =>
    simp only [OpenResponse.apply] at ha
    split_ifs at ha with hm
    rw [Bool.not_eq_true] at hm
    exact ⟨hopen hm, by simpa using (Bool.or_eq_false_iff.mp hm).2⟩
  | toolCallStart s =>
    simp only [OpenResponse.apply, OpenResponse.startToolCall] at ha
    split_ifs at ha with hm
    simp only [Bool.or_eq_true, Bool.not_eq_true', not_or, Bool.not_eq_false, String.isEmpty_iff,
      Std.TreeMap.contains_iff_mem, Std.TreeMap.mem_iff_isSome_getElem?,
      Option.isSome_iff_exists] at hm
    obtain ⟨⟨⟨hm, hid⟩, hname⟩, hnew⟩ := hm
    exact ⟨h.message.mp hm, hid, hname, fun hs => hnew ((h.started _).mpr hs)⟩
  | toolCallArgumentsDelta | toolCallEnd =>
    simp only [OpenResponse.apply, OpenResponse.appendToolArguments, OpenResponse.endToolCall] at ha
    split_ifs at ha with hm
    refine ⟨h.message.mp (by simpa using hm), ?_⟩
    split at ha
    · cases ha
    · exact hlookup _ _ ‹_› (by simp)
    · exact hlookup _ _ ‹_› (by simp)
    · cases ha
  | usageDelta u =>
    intro hf
    simp [OpenResponse.apply, OpenResponse.recordUsage, h.usage.mpr hf] at ha
  | messageEnd m =>
    simp only [OpenResponse.apply, OpenResponse.endMessage] at ha
    split_ifs at ha with hm ht
    exact ⟨h.message.mp (by simpa using hm), h.hasOpenToolCall.mp (by simpa using ht)⟩

end

/-! ### Whole runs -/

/-- The events of a response that is still open: each is legal after those before it. -/
inductive Body : List CanonicalEvent → Prop
  | start (r : ResponseStart) : Body [.responseStart r]
  | snoc {p : List CanonicalEvent} {e : CanonicalEvent} (hp : Body p) (hl : Legal p e)
      (hend : ∀ r, e ≠ .responseEnd r) : Body (p ++ [e])

theorem tracks_start (r : ResponseStart) : Tracks [.responseStart r] {} where
  message := by
    rw [show [responseStart r] = [] ++ [.responseStart r] from rfl,
      messageOpen_snoc_other rfl]
    simp
  started id := by simp [started_singleton]
  ended id := by simp [ended_singleton]
  usage := by simp [finalUsage_singleton]

theorem apply_opened (hstart : ∀ r, e ≠ .responseStart r)
    (hend : ∀ r, e ≠ .responseEnd r) (herr : ∀ x, e ≠ .streamError x) :
    apply ⟨.opened o⟩ e = (o.apply e).map fun o' => ⟨.opened o'⟩ := by
  cases e <;> first | rfl | simp_all

theorem apply_responseEnd (h : Tracks p o) (r : ResponseEnd) (s : CanonicalEventState) :
    apply ⟨.opened o⟩ (.responseEnd r) = .ok s ↔ Legal p (.responseEnd r) ∧ s = ⟨.completed⟩ := by
  have hready : o.isReadyToEnd = true ↔ ¬ MessageOpen p ∧ ∀ id, Started id p → Ended id p := by
    rw [OpenResponse.isReadyToEnd, ← h.message, ← h.hasOpenToolCall]
    simp
  have hstop : ∀ x : Option String, x.any (·.isEmpty) = false ↔ x ≠ some "" := by
    intro x
    cases x <;> simp
  simp only [apply, Legal, ← and_assoc, ← hready]
  rw [← hstop, ← hstop]
  cases o.isReadyToEnd <;> cases r.stopReason.any (·.isEmpty) <;>
    cases r.stopSequence.any (·.isEmpty) <;> simp [eq_comm]

theorem Body.run (h : Body p) : ∃ o, applyAll {} p = .ok ⟨.opened o⟩ ∧ Tracks p o := by
  induction h with
  | start r => exact ⟨{}, rfl, tracks_start r⟩
  | @snoc p e _ hl hend ih =>
    obtain ⟨o, hrun, ho⟩ := ih
    obtain ⟨o', happ, ho'⟩ := ho.apply_legal hl hend
    refine ⟨o', applyAll_snoc_ok.mpr ⟨_, hrun, ?_⟩, ho'⟩
    rw [apply_opened _ hend, happ]
    · rfl
    · rintro x rfl; exact hl
    · rintro x rfl; exact hl

/-- What a run of the validator says about the events it took. -/
theorem run_inv : ∀ (p : List CanonicalEvent) (s : CanonicalEventState),
    applyAll {} p = .ok s →
      match s.lifecycle with
      | .initial => p = []
      | .opened o => Body p ∧ Tracks p o
      | .completed => ∃ q r, p = q ++ [.responseEnd r] ∧ Body q ∧ Legal q (.responseEnd r)
      | .failed _ => True := by
  intro p
  induction p using List.reverseRecOn with
  | nil => intro s h; cases h; rfl
  | append_singleton p e ih =>
    intro s h
    obtain ⟨t, ht, hs⟩ := applyAll_snoc_ok.mp h
    have hinv := ih t ht
    rcases t with ⟨_ | o | _ | err⟩
    · obtain rfl : p = [] := hinv
      cases e <;> simp [apply] at hs
      subst hs
      exact ⟨.start _, tracks_start _⟩
    · obtain ⟨hbody, ho⟩ := hinv
      by_cases hend : ∃ r, e = .responseEnd r
      · obtain ⟨r, rfl⟩ := hend
        obtain ⟨hl, rfl⟩ := (apply_responseEnd ho r s).mp hs
        exact ⟨p, r, rfl, hbody, hl⟩
      by_cases herr : ∃ x, e = .streamError x
      · obtain ⟨x, rfl⟩ := herr
        cases hs
        trivial
      have hstart : ∀ r, e ≠ .responseStart r := by rintro r rfl; cases hs
      rw [apply_opened hstart (fun r hr => hend ⟨r, hr⟩) fun x hx => herr ⟨x, hx⟩] at hs
      obtain ⟨o', happ, rfl⟩ := map_ok hs
      have hl := ho.legal_of_apply happ
      obtain ⟨o'', happ', ho''⟩ := ho.apply_legal hl fun r hr => hend ⟨r, hr⟩
      rw [happ] at happ'
      cases happ'
      exact ⟨hbody.snoc hl fun r hr => hend ⟨r, hr⟩, ho''⟩
    · cases hs
    · cases hs

theorem legal_of_run {s : CanonicalEventState}
    (h : applyAll {} (p ++ [e]) = .ok s) (hstart : ∀ r, e ≠ .responseStart r)
    (herr : ∀ x, e ≠ .streamError x) : Legal p e := by
  obtain ⟨t, ht, hs⟩ := applyAll_snoc_ok.mp h
  have hinv := run_inv p t ht
  rcases t with ⟨_ | o | _ | err⟩
  · cases e <;> simp_all [apply]
  · by_cases hend : ∃ r, e = .responseEnd r
    · obtain ⟨r, rfl⟩ := hend
      exact ((apply_responseEnd hinv.2 r s).mp hs).1
    · rw [apply_opened hstart (fun r hr => hend ⟨r, hr⟩) herr] at hs
      obtain ⟨o', happ, -⟩ := map_ok hs
      exact hinv.2.legal_of_apply happ
  · cases hs
  · cases hs

/-- **The validator is stepwise**: it accepts iff each event is legal after those before it and the
last one ends the response. -/
theorem checkResponse_iff_body (es : List CanonicalEvent) :
    checkResponse es = .ok () ↔
      ∃ p r, es = p ++ [.responseEnd r] ∧ Body p ∧ Legal p (.responseEnd r) := by
  constructor
  · intro h
    obtain ⟨s, hrun, hs⟩ : ∃ s, applyAll {} es = .ok s ∧
        s.requireSuccess = .ok () := by
      cases hrun : applyAll {} es with
      | error err => simp [checkResponse, hrun, bind, Except.bind] at h
      | ok s => exact ⟨s, rfl, by simpa [checkResponse, hrun] using h⟩
    have hinv := run_inv es s hrun
    rcases s with ⟨_ | o | _ | err⟩
    · cases hs
    · cases hs
    · exact hinv
    · cases hs
  · rintro ⟨p, r, rfl, hbody, hl⟩
    obtain ⟨o, hrun, ho⟩ := hbody.run
    have hend : applyAll {} (p ++ [.responseEnd r]) = .ok ⟨.completed⟩ :=
      applyAll_snoc_ok.mpr ⟨_, hrun, (apply_responseEnd ho r _).mpr ⟨hl, rfl⟩⟩
    simp [checkResponse, hend, bind, Except.bind, requireSuccess]

/-! ### From legal steps to the grammar -/

theorem Body.legal (h : Body es) :
    ∀ p e q, es = p ++ e :: q → p ≠ [] → Legal p e ∧ ∀ r, e ≠ .responseEnd r := by
  induction h with
  | start r =>
    intro p e q heq hp
    obtain ⟨x, p', rfl⟩ := List.exists_cons_of_ne_nil hp
    simp at heq
  | @snoc b x _ hl hend ih =>
    intro p e q heq hp
    rcases List.eq_nil_or_concat q with rfl | ⟨q', y, rfl⟩
    · obtain ⟨rfl, hx⟩ := List.append_inj' heq rfl
      obtain rfl : x = e := by simpa using hx
      exact ⟨hl, hend⟩
    · rw [List.concat_eq_append, ← List.cons_append, ← List.append_assoc] at heq
      exact ih p e q' (List.append_inj' heq rfl).1 hp

theorem Body.head (h : Body es) : ∃ r tl, es = .responseStart r :: tl := by
  induction h with
  | start r => exact ⟨r, [], rfl⟩
  | snoc _ _ _ ih =>
    obtain ⟨r, tl, rfl⟩ := ih
    exact ⟨r, tl ++ [_], rfl⟩

theorem messageOpen_append (h : MessageOpen p)
    (hq : ∀ m, messageEnd m ∉ q) : MessageOpen (p ++ q) := by
  obtain ⟨p₁, m, p₂, rfl, hno⟩ := h
  refine ⟨p₁, m, p₂ ++ q, by simp, fun x hx => ?_⟩
  rcases List.mem_append.mp hx with hx | hx
  · exact hno x hx
  · exact hq x hx

theorem started_of_mem {s : ToolCallStart} (h : .toolCallStart s ∈ p) : Started s.callId p :=
  ⟨s, h, rfl⟩

theorem ended_of_mem {e : ToolCallEnd} (h : .toolCallEnd e ∈ p) : Ended e.callId p := ⟨e, h, rfl⟩

/-- A complete response: legal steps up to a legal `ResponseEnd`. -/
structure Complete (es : List CanonicalEvent) : Prop where
  head : ∃ r tl, es = .responseStart r :: tl
  legal : ∀ p e q, es = p ++ e :: q → p ≠ [] → Legal p e
  tail : ∃ b r, es = b ++ [.responseEnd r] ∧ Legal b (.responseEnd r) ∧
    ∀ r', responseEnd r' ∉ b

theorem complete_iff_body (es : List CanonicalEvent) :
    Complete es ↔ ∃ p r, es = p ++ [.responseEnd r] ∧ Body p ∧ Legal p (.responseEnd r) := by
  constructor
  · rintro ⟨⟨r₀, tl, hhead⟩, hlegal, b, r, rfl, hl, hno⟩
    refine ⟨b, r, rfl, ?_, hl⟩
    -- every non-empty prefix of `b` is a body
    have hpre : ∀ a c, b = a ++ c → a ≠ [] → Body a := by
      intro a
      induction a using List.reverseRecOn with
      | nil => intro c _ h; exact absurd rfl h
      | append_singleton a e ih =>
        rintro c rfl -
        by_cases ha : a = []
        · subst ha
          obtain rfl : e = .responseStart r₀ := (List.cons.inj hhead).1
          exact .start r₀
        · refine (ih (e :: c) (by simp) ha).snoc
            (hlegal a e (c ++ [.responseEnd r]) (by simp) ha) ?_
          rintro r' rfl
          exact hno r' (by simp)
    refine hpre b [] (by simp) ?_
    rintro rfl
    simp at hhead
  · rintro ⟨b, r, rfl, hbody, hl⟩
    obtain ⟨r₀, tl, hhead⟩ := hbody.head
    refine ⟨⟨r₀, tl ++ [.responseEnd r], by simp [hhead]⟩, ?_, b, r, rfl, hl, ?_⟩
    · intro p e q heq hp
      rcases List.eq_nil_or_concat q with rfl | ⟨q', y, rfl⟩
      · obtain ⟨rfl, hx⟩ := List.append_inj' heq rfl
        obtain rfl : responseEnd r = e := by simpa using hx
        exact hl
      · rw [List.concat_eq_append, ← List.cons_append, ← List.append_assoc] at heq
        exact (hbody.legal p e q' (List.append_inj' heq rfl).1 hp).1
    · intro r' hr'
      obtain ⟨p, q, hb⟩ := List.append_of_mem hr'
      refine (hbody.legal p _ q hb ?_).2 r' rfl
      rintro rfl
      rw [hb] at hhead
      simp at hhead

namespace Complete

variable (h : Complete es)

include h

theorem legal_at (heq : es = p ++ e :: q) (he : ∀ r, e ≠ .responseStart r) : Legal p e := by
  refine h.legal p e q heq ?_
  rintro rfl
  obtain ⟨r, tl, hhead⟩ := h.head
  rw [hhead] at heq
  exact he r (List.cons.inj heq).1.symm

theorem legal_after {x : CanonicalEvent} {a c : List CanonicalEvent}
    (heq : es = p ++ x :: (a ++ e :: c)) (he : ∀ r, e ≠ .responseStart r) :
    Legal (p ++ x :: a) e := h.legal_at (by simpa using heq) he

theorem closes (heq : es = p ++ e :: q) (hp : MessageOpen p)
    (he : markOf e = none) : InMessage p q := by
  refine ⟨hp, ?_⟩
  by_contra hno
  push Not at hno
  have hopen : MessageOpen es := by
    rw [heq]
    refine messageOpen_append hp fun m hm => ?_
    rcases List.mem_cons.mp hm with rfl | hm
    · simp [markOf] at he
    · exact hno m hm
  obtain ⟨b, r, rfl, hl, -⟩ := h.tail
  exact hl.1 ((messageOpen_snoc_other rfl).mp hopen)

theorem marks_chain : ∀ a c, es = a ++ c →
    (marks a).IsChain (· ≠ ·) ∧ ∀ m ∈ (marks a).head?, m = Mark.starts := by
  intro a
  induction a using List.reverseRecOn with
  | nil => simp
  | append_singleton a e ih =>
    intro c heq
    have heq' : es = a ++ e :: c := by simpa using heq
    obtain ⟨hchain, hfirst⟩ := ih (e :: c) heq'
    rw [marks_append, marks_singleton]
    rcases hm : markOf e with _ | m
    · simpa using ⟨hchain, hfirst⟩
    have hlegal := h.legal_at heq' (by rintro r rfl; simp [markOf] at hm)
    -- the new mark differs from the last one, by the legality of the event
    have hlast : ∀ x ∈ (marks a).getLast?, x ≠ m := by
      rintro x hx rfl
      cases e <;> simp only [markOf, reduceCtorEq, Option.some.injEq] at hm
      · subst hm
        exact hlegal ((messageOpen_iff_marks a).mpr hx)
      · subst hm
        have := (messageOpen_iff_marks a).mp hlegal.1
        simp_all
    refine ⟨List.isChain_append.mpr ⟨hchain, by simp, ?_⟩, ?_⟩
    · intro x hx y hy
      simp only [Option.toList_some, List.head?_cons, Option.mem_def, Option.some.injEq] at hy
      exact hy ▸ hlast x hx
    · intro x hx
      rcases ha : marks a with _ | ⟨y, ys⟩
      · rw [ha] at hx
        simp only [Option.toList_some, List.nil_append, List.head?_cons, Option.mem_def,
          Option.some.injEq] at hx
        subst hx
        cases e <;> simp only [markOf, reduceCtorEq, Option.some.injEq] at hm
        · exact hm.symm
        · have := (messageOpen_iff_marks a).mp hlegal.1
          simp [ha] at this
      · exact hfirst x (by simpa [ha] using hx)

theorem alternating : Alternating (marks es) := by
  obtain ⟨hchain, hfirst⟩ := h.marks_chain es [] (by simp)
  refine ⟨hchain, hfirst, fun m hm => ?_⟩
  obtain ⟨b, r, rfl, hl, -⟩ := h.tail
  cases m with
  | ends => rfl
  | starts =>
    have := (messageOpen_iff_marks _).mpr hm
    exact absurd ((messageOpen_snoc_other rfl).mp this) hl.1

theorem callCompleted {s : ToolCallStart} (heq : es = p ++ .toolCallStart s :: q) :
    ∃ q₁ e q₂, q = q₁ ++ .toolCallEnd e :: q₂ ∧ e.callId = s.callId ∧
      ∀ m, messageEnd m ∉ q₁ := by
  have hstart : ¬ Started s.callId p := (h.legal_at heq (by simp)).2.2.2
  have hbefore : ¬ Ended s.callId p := by
    rintro ⟨e, he, hid⟩
    obtain ⟨a, c, rfl⟩ := List.append_of_mem he
    have hs := (h.legal_at (heq.trans (List.append_assoc a _ _)) (by simp)).2.1
    exact hstart (started_append.mpr (Or.inl (hid ▸ hs)))
  -- any end of the call in `q` that no other end of the call precedes
  have hall : Started s.callId es := started_of_mem (by simp [heq])
  obtain ⟨b, r, hb, hl, -⟩ := h.tail
  have hend : Ended s.callId q := by
    have hended : Ended s.callId es := by
      rw [hb, started_append, or_iff_left (by simp [started_singleton])] at hall
      exact hb ▸ ended_append.mpr (Or.inl (hl.2.1 _ hall))
    rw [heq, ended_append, or_iff_right hbefore] at hended
    rw [← List.singleton_append, ended_append] at hended
    exact hended.resolve_left (by simp [ended_singleton])
  obtain ⟨e, he, hid⟩ := hend
  obtain ⟨q₁, q₂, rfl⟩ := List.append_of_mem he
  refine ⟨q₁, e, q₂, rfl, hid, fun m hm => ?_⟩
  -- a `MessageEnd` in between would find the call open, or the call would end twice
  obtain ⟨a, c, rfl⟩ := List.append_of_mem hm
  have heq' : es = p ++ .toolCallStart s ::
      (a ++ .messageEnd m :: (c ++ .toolCallEnd e :: q₂)) := by
    simpa using heq
  have hclose := (h.legal_after heq' (by simp)).2 s.callId (started_of_mem (by simp))
  have hopen := (h.legal_after heq (by simp)).2.2
  refine hopen (hid ▸ ?_)
  rw [← List.cons_append, ← List.append_assoc]
  exact ended_append.mpr (Or.inl hclose)

theorem grammar : ResponseGrammar es where
  starts := by
    obtain ⟨r, tl, rfl⟩ := h.head
    refine ⟨r, tl, rfl, fun r' hr' => ?_⟩
    obtain ⟨a, c, rfl⟩ := List.append_of_mem hr'
    exact h.legal (.responseStart r :: a) (.responseStart r') c (by simp) (by simp)
  ends := by
    obtain ⟨b, r, rfl, hl, hno⟩ := h.tail
    exact ⟨b, r, rfl, hno, hl.2.2⟩
  noError e he := by
    obtain ⟨a, c, rfl⟩ := List.append_of_mem he
    exact h.legal_at rfl (by simp)
  alternating := h.alternating
  text p d q heq := by
    obtain ⟨hopen, hne⟩ := h.legal_at heq (by simp)
    exact ⟨hne, h.closes heq hopen rfl⟩
  reasoning p d q heq := by
    obtain ⟨hopen, hne⟩ := h.legal_at heq (by simp)
    exact ⟨hne, h.closes heq hopen rfl⟩
  callStart p s q heq := by
    obtain ⟨hopen, hid, hname, hnew⟩ := h.legal_at heq (by simp)
    refine ⟨hid, hname, h.closes heq hopen rfl, ?_⟩
    rw [started_append, or_iff_right hnew]
    rintro ⟨s', hs', hid'⟩
    obtain ⟨a, c, rfl⟩ := List.append_of_mem hs'
    exact (h.legal_after heq (by simp)).2.2.2 (hid' ▸ started_of_mem (by simp))
  callArguments p d q heq := (h.legal_at heq (by simp)).2.1
  callEnd p e q heq := (h.legal_at heq (by simp)).2.1
  callClosed p e q heq x hx hid := by
    obtain ⟨a, c, rfl⟩ := List.append_of_mem hx
    have hstarted := (h.legal_at heq (by simp)).2.1
    have hended : Ended e.callId (p ++ .toolCallEnd e :: a) := ended_of_mem (by simp)
    cases x <;> simp only [callOf, reduceCtorEq, Option.some.injEq] at hid
    · exact (h.legal_after heq (by simp)).2.2.2 (hid ▸ started_append.mpr (Or.inl hstarted))
    · exact (h.legal_after heq (by simp)).2.2 (hid ▸ hended)
    · exact (h.legal_after heq (by simp)).2.2 (hid ▸ hended)
  callCompleted p s q heq := h.callCompleted heq
  usage p u q heq hu u' hu' := by
    obtain ⟨a, c, rfl⟩ := List.append_of_mem hu'
    exact h.legal_after heq (by simp) ⟨u, by simp, hu⟩

end Complete

/-! ### From the grammar to legal steps -/

/-- Of two occurrences in one list, the second stands after the first or not before it. -/
theorem occurrence_cases {q₁ q₂ : List CanonicalEvent} {x y : CanonicalEvent}
    (h : p ++ x :: q = q₁ ++ y :: q₂) : (∃ c, p = q₁ ++ y :: c) ∨ ∃ a, q₁ = p ++ a := by
  rcases List.append_eq_append_iff.mp h with ⟨a, ha, -⟩ | ⟨c, hc, hx⟩
  · exact Or.inr ⟨a, ha⟩
  · rcases c with _ | ⟨z, c⟩
    · exact Or.inr ⟨[], by simp [hc]⟩
    · obtain ⟨rfl, -⟩ := List.cons.inj hx
      exact Or.inl ⟨c, hc⟩

namespace ResponseGrammar

variable {x : CanonicalEvent} (h : ResponseGrammar es)

include h

/-- A call that was started has ended, or ends in the message that is open. -/
theorem started_cases (heq : es = p ++ x :: q) (hs : Started id p) :
    Ended id p ∨ MessageOpen p ∧ ∃ a e q₂, x :: q = a ++ .toolCallEnd e :: q₂ ∧ e.callId = id ∧
      ∀ m, messageEnd m ∉ a := by
  obtain ⟨s, hs, rfl⟩ := hs
  obtain ⟨p₁, p₂, rfl⟩ := List.append_of_mem hs
  have heq' : es = p₁ ++ .toolCallStart s :: (p₂ ++ x :: q) := by simpa using heq
  obtain ⟨q₁, e, q₂, hq, hid, hno⟩ := h.callCompleted p₁ s _ heq'
  rcases occurrence_cases hq with ⟨c, rfl⟩ | ⟨a, rfl⟩
  · exact .inl (hid ▸ ended_of_mem (by simp))
  · rw [List.append_assoc, List.append_cancel_left_eq] at hq
    refine .inr ⟨messageOpen_append (h.callStart p₁ s _ heq').2.2.1.1 fun m hm => ?_,
      a, e, q₂, hq, hid, fun m hm => hno m (List.mem_append_right _ hm)⟩
    rcases List.mem_cons.mp hm with hm | hm
    · cases hm
    · exact hno m (List.mem_append_left _ hm)

/-- Before a `MessageEnd` or a `ResponseEnd` every started call has ended. -/
theorem ended_of_started (heq : es = p ++ x :: q)
    (hx : callOf x = none) (hclose : (∃ m, x = .messageEnd m) ∨ q = [])
    (hs : Started id p) : Ended id p := by
  obtain hended | ⟨-, a, e, q₂, hq, -, hno⟩ := h.started_cases heq hs
  · exact hended
  rcases a with _ | ⟨y, a⟩
  · obtain ⟨rfl, -⟩ := List.cons.inj hq
    simp [callOf] at hx
  · obtain ⟨rfl, hq⟩ := List.cons.inj hq
    rcases hclose with ⟨m, rfl⟩ | rfl
    · exact absurd (by simp) (hno m)
    · simp at hq

theorem not_ended (heq : es = p ++ x :: q) (hx : callOf x = some id) : ¬ Ended id p := by
  rintro ⟨e, he, rfl⟩
  obtain ⟨a, c, rfl⟩ := List.append_of_mem he
  exact h.callClosed a e (c ++ x :: q) (by simpa using heq) x (by simp) hx

theorem responseEnd_last {r : ResponseEnd} (heq : es = p ++ .responseEnd r :: q) :
    q = [] ∧ r.stopReason ≠ some "" ∧ r.stopSequence ≠ some "" := by
  obtain ⟨b, r', hb, hno, hstop⟩ := h.ends
  rw [heq] at hb
  rcases occurrence_cases hb with ⟨c, rfl⟩ | ⟨a, rfl⟩
  · have := congrArg List.length hb
    simp at this
  · rcases a with _ | ⟨y, a⟩
    · simp only [List.append_nil, List.append_cancel_left_eq, List.cons.injEq,
        responseEnd.injEq] at hb
      exact ⟨hb.2, hb.1 ▸ hstop⟩
    · simp only [List.append_assoc, List.append_cancel_left_eq, List.cons_append,
        List.cons.injEq] at hb
      exact absurd (by simp [hb.1]) (hno r)

theorem marks_split {m : Mark} (heq : es = p ++ x :: q) (hx : markOf x = some m) :
    (∀ y ∈ (marks p).getLast?, y ≠ m) ∧ (marks p = [] → m = .starts) := by
  have hm : marks es = marks p ++ m :: marks q := by
    rw [heq, marks_append, ← List.singleton_append, marks_append, marks_singleton, hx]
    rfl
  have halt := h.alternating
  rw [hm] at halt
  refine ⟨fun y hy => (List.isChain_append.mp halt.chain).2.2 y hy m (by simp), fun hp => ?_⟩
  exact halt.first m (by simp [hp])

theorem legal : ∀ p e q, es = p ++ e :: q → p ≠ [] → Legal p e := by
  intro p e q heq hp
  cases e with
  | responseStart r =>
    obtain ⟨r₀, tl, htl, hno⟩ := h.starts
    obtain ⟨x, p', rfl⟩ := List.exists_cons_of_ne_nil hp
    rw [heq] at htl
    exact hno r ((List.cons.inj htl).2 ▸ by simp)
  | streamError e => exact h.noError e (by simp [heq])
  | messageStart m =>
    intro hopen
    exact (h.marks_split heq rfl).1 _ ((messageOpen_iff_marks p).mp hopen) rfl
  | textDelta d => exact ⟨(h.text p d q heq).2.1, (h.text p d q heq).1⟩
  | reasoningDelta d => exact ⟨(h.reasoning p d q heq).2.1, (h.reasoning p d q heq).1⟩
  | toolCallStart s =>
    obtain ⟨hid, hname, hin, hnew⟩ := h.callStart p s q heq
    exact ⟨hin.1, hid, hname, fun hs => hnew (started_append.mpr (Or.inl hs))⟩
  | toolCallArgumentsDelta d =>
    have hs := h.callArguments p d q heq
    have he := h.not_ended heq rfl
    exact ⟨((h.started_cases heq hs).resolve_left he).1, hs, he⟩
  | toolCallEnd e =>
    have hs := h.callEnd p e q heq
    have he := h.not_ended heq rfl
    exact ⟨((h.started_cases heq hs).resolve_left he).1, hs, he⟩
  | usageDelta u =>
    rintro ⟨u₀, hu₀, hfinal⟩
    obtain ⟨a, c, rfl⟩ := List.append_of_mem hu₀
    exact h.usage a u₀ (c ++ .usageDelta u :: q) (by simpa using heq) hfinal u (by simp)
  | messageEnd m =>
    refine ⟨?_, fun id => h.ended_of_started heq rfl (Or.inl ⟨m, rfl⟩)⟩
    obtain ⟨hlast, hfirst⟩ := h.marks_split heq rfl
    rw [messageOpen_iff_marks]
    rcases hp' : (marks p).getLast? with _ | y
    · rw [List.getLast?_eq_none_iff] at hp'
      cases hfirst hp'
    · cases y with
      | starts => rfl
      | ends => exact absurd rfl (hlast _ hp')
  | responseEnd r =>
    obtain ⟨rfl, hstop⟩ := h.responseEnd_last heq
    refine ⟨fun hopen => ?_, fun id => h.ended_of_started heq rfl (Or.inr rfl), hstop⟩
    have hopen' : MessageOpen es := by
      rw [heq]
      exact (messageOpen_snoc_other rfl).mpr hopen
    cases h.alternating.last _ ((messageOpen_iff_marks es).mp hopen')

theorem complete : Complete es := by
  refine ⟨?_, h.legal, ?_⟩
  · obtain ⟨r, tl, htl, -⟩ := h.starts
    exact ⟨r, tl, htl⟩
  · obtain ⟨b, r, hb, hno, -⟩ := h.ends
    refine ⟨b, r, hb, h.legal b _ [] hb ?_, hno⟩
    rintro rfl
    obtain ⟨r₀, tl, htl, -⟩ := h.starts
    rw [hb] at htl
    simp at htl

end ResponseGrammar

/-- **The validator decides the grammar**: a finite event list is a `CanonicalResponse` iff it is in
the grammar, and the response then holds exactly that list. -/
theorem tryNew_iff_grammar (es : List CanonicalEvent) :
    (∃ response, tryNew es = .ok response ∧ response.events = es) ↔
      ResponseGrammar es := by
  have hcheck : (∃ response, tryNew es = .ok response ∧ response.events = es) ↔
      checkResponse es = .ok () := by
    unfold tryNew
    constructor
    · rintro ⟨response, h, -⟩
      split at h
      · assumption
      · cases h
    · intro h
      split
      · exact ⟨_, rfl, rfl⟩
      · rename_i hbad
        rw [h] at hbad
        cases hbad
  rw [hcheck, checkResponse_iff_body, ← complete_iff_body]
  exact ⟨Complete.grammar, ResponseGrammar.complete⟩

end CpaGateway.Core.Grammar
