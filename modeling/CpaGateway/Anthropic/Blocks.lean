import CpaGateway.Anthropic.Encoder
import CpaGateway.Lib.Serial

/-! # The content blocks of the Anthropic encoder

The encoder keeps the fragments of text and thinking blocks in the blocks, and those of tool blocks
with the calls. `queue` reads both as one queue of blocks, and `ledger` is what is left of the
message in the making when how far it was written is forgotten. -/

namespace CpaGateway.Anthropic.Blocks

open Anthropic.Encoder Anthropic.Encoder.Assembly Lib.Effect Lib.Serial Entry

/-! ### The queue -/

/-- What a block is, apart from its fragments. -/
inductive Head
  | content (kind : ContentKind)
  | tool (callId name : String)
  deriving DecidableEq

/-- The block as it starts. -/
def Head.block : Head → ContentBlock
  | .content kind => .content kind {}
  | .tool callId name => .tool callId name none

/-- The frames of a block. -/
def writer : Writer Head String SseFrame where
  start index head := startFrame index head.block
  part index head delta :=
    match head with
    | .content kind => contentDeltaFrame index kind delta
    | .tool .. => inputDeltaFrame index delta
  stop := stopFrame

def callEntry (callId name : String) (tool : ToolState) : Entry Head String :=
  ⟨.tool callId name, tool.argumentDeltas, tool.emittedDeltas, tool.completed⟩

def entry (tools : Std.TreeMap String ToolState) : ContentBlock → Entry Head String
  | .content kind s => ⟨.content kind, s.deltas, s.emittedDeltas, s.closed⟩
  | .tool callId name _ => callEntry callId name (tools[callId]?.getD { contentIndex := 0 })

/-- The blocks of a message in the making. -/
def queue (a : Assembly) : Queue Head String where
  entries := a.content.map (entry a.tools)
  next := a.nextSseIndex
  opened := a.activeSseIndex.isSome

/-! ### The ledger -/

/-- The block with nothing written. -/
def unsentBlock : ContentBlock → ContentBlock
  | .content kind s => .content kind { s with emittedDeltas := 0 }
  | .tool callId name input => .tool callId name input

/-- The call with nothing written. -/
def unsentTool (tool : ToolState) : ToolState := { tool with emittedDeltas := 0 }

/-- What is known about the message besides its content. -/
structure Envelope where
  terminal : TerminalPhase
  responseId : Option String
  usage : Option Core.Events.Usage
  deferredInputUsage : Bool
  stopReason : Option String
  stopSequence : Option String

def envelope (a : Assembly) : Envelope where
  terminal := a.terminal
  responseId := a.responseId
  usage := a.usage
  deferredInputUsage := a.deferredInputUsage
  stopReason := a.stopReason
  stopSequence := a.stopSequence

/-- A message in the making without how far it was written. -/
structure Ledger where
  content : List ContentBlock
  tools : String → Option ToolState
  activeContentIndex : Option ℕ
  message : MessagePhase
  envelope : Envelope

def ledger (a : Assembly) : Ledger where
  content := a.content.map unsentBlock
  tools callId := a.tools[callId]?.map unsentTool
  activeContentIndex := a.activeContentIndex
  message := a.message
  envelope := envelope a

def Ledger.block (l : Ledger) : ContentBlock → Head × List String
  | .content kind s => (.content kind, s.deltas)
  | .tool callId name _ => (.tool callId name, (l.tools callId).elim [] (·.argumentDeltas))

/-- The blocks of the queue can be read off the ledger. -/
theorem blocks_queue (a : Assembly) :
    (queue a).blocks = (ledger a).content.map (ledger a).block := by
  simp only [Queue.blocks, queue, ledger, List.map_map]
  refine List.map_congr_left fun b _ => ?_
  cases b with
  | content kind s => rfl
  | tool callId name input =>
    simp only [Function.comp_apply, entry, unsentBlock, Ledger.block]
    cases a.tools[callId]? <;> rfl

/-- Blocks and calls refer to each other. -/
structure Linked (l : Ledger) : Prop where
  tool : ∀ (i : ℕ) (callId name : String) (input : Option Core.Json.Value),
    l.content[i]? = some (.tool callId name input) →
      ∃ tool, l.tools callId = some tool ∧ tool.contentIndex = i
  block : ∀ (callId : String) (tool : ToolState), l.tools callId = some tool →
    ∃ name input, l.content[tool.contentIndex]? = some (.tool callId name input)

variable {a : Assembly}

section Linked

variable {callId name : String} {input : Option Core.Json.Value} {tool : ToolState} {i : ℕ}

theorem ledger_tool_iff : (ledger a).content[i]? = some (.tool callId name input) ↔
    a.content[i]? = some (.tool callId name input) := by
  simp only [ledger, List.getElem?_map, Option.map_eq_some_iff]
  constructor
  · rintro ⟨b, hb, hunsent⟩
    cases b with
    | content kind s => cases hunsent
    | tool => rw [hb]; exact congrArg some hunsent
  · exact fun h => ⟨_, h, rfl⟩

theorem Linked.index (hl : Linked (ledger a)) (ht : a.tools[callId]? = some tool)
    (hb : a.content[i]? = some (.tool callId name input)) : i = tool.contentIndex := by
  obtain ⟨tool', ht', rfl⟩ := hl.tool i callId name input (ledger_tool_iff.mpr hb)
  simp only [ledger, ht, Option.map_some, Option.some.injEq] at ht'
  rw [← ht']
  rfl

theorem entries_insert (hl : Linked (ledger a)) (ht : a.tools[callId]? = some tool)
    (hb : a.content[tool.contentIndex]? = some (.tool callId name input)) (tool' : ToolState) :
    a.content.map (entry (a.tools.insert callId tool')) =
      (a.content.map (entry a.tools)).set tool.contentIndex (callEntry callId name tool') := by
  refine List.ext_getElem? fun i => ?_
  rw [List.getElem?_set]
  split_ifs with hi hlen
  · subst hi
    simp [hb, entry]
  · have := (List.getElem?_eq_some_iff.mp hb).1
    simp only [List.length_map] at hlen
    omega
  · rw [List.getElem?_map, List.getElem?_map]
    rcases hbi : a.content[i]? with _ | ⟨kind, s⟩ | ⟨callId', name', input'⟩
    · rfl
    · rfl
    · have hne : callId ≠ callId' := by
        rintro rfl
        exact hi (hl.index ht hbi).symm
      simp [entry, Std.TreeMap.getElem?_insert, hne]

end Linked

/-! ### Flushing -/

variable {kind : ContentKind}

section Flush

variable {a' : Assembly} {frames : List SseFrame} {more : Bool}

theorem ledger_emitted {callId : String} {tool : ToolState} (ht : a.tools[callId]? = some tool)
    (n : ℕ) :
    ledger { a with tools := a.tools.insert callId { tool with emittedDeltas := n } } =
      ledger a := by
  simp only [ledger, envelope, Ledger.mk.injEq, and_true, true_and]
  funext callId'
  by_cases hne : callId = callId'
  · subst hne
    simp [ht, unsentTool]
  · simp [Std.TreeMap.getElem?_insert, hne]

theorem ledger_written {i : ℕ} {s : ContentState}
    (hb : a.content[i]? = some (.content kind s)) (n : ℕ) :
    ledger { a with content := a.content.set i (.content kind { s with emittedDeltas := n }) } =
      ledger a := by
  simp only [ledger, envelope, Ledger.mk.injEq, and_true, List.map_set]
  refine List.ext_getElem? fun j => ?_
  rw [List.getElem?_set]
  split_ifs with hj hlen
  · subst hj
    simp [hb, unsentBlock]
  · subst hj
    rw [List.getElem?_eq_none (Nat.not_lt.mp hlen)]
  · rfl

theorem sent_add_pending {e : Entry Head String} (h : e.sent ≤ e.parts.length) :
    e.sent + e.pending.length = e.parts.length := by
  rw [pending, List.length_drop]
  omega

/-- Writing the active block writes what is pending of its entry. -/
theorem flushActiveBlock_ok (hl : Linked (ledger a)) (hq : (queue a).Sound) {ready : Bool}
    (h : (flushActiveBlock a.nextSseIndex).call a = (.ok (frames, ready), a')) :
    ∃ e, (queue a).entries[(queue a).next]? = some e ∧ ready = e.closed ∧
      frames = e.pending.map (writer.part (queue a).next e.head) ∧
      queue a' = (queue a).flushed e ∧ ledger a' = ledger a := by
  simp only [flushActiveBlock] at h
  rcases hb : a.content[a.nextSseIndex]? with _ | ⟨kind, s⟩ | ⟨callId, name, input⟩
  · simp [hb] at h
  · simp only [hb, flushActiveContentBlock, call_ok] at h
    obtain ⟨_, ⟨rfl, rfl⟩, rfl⟩ := h
    have he : (queue a).entries[a.nextSseIndex]? = some (entry a.tools (.content kind s)) := by
      simp [queue, hb]
    refine ⟨_, he, rfl, rfl, ?_, ledger_written hb _⟩
    have hsent := sent_add_pending (hq.bound _ _ he)
    simp only [entry, pending] at hsent
    simp only [queue, Queue.flushed, flushed, entry, List.map_set, hsent]
  · simp only [hb, flushActiveToolBlock, call_ok] at h
    obtain ⟨tool, ht, _, _, -, ⟨rfl, rfl⟩, rfl⟩ := h
    have hindex := hl.index ht hb
    have he : (queue a).entries[a.nextSseIndex]? = some (callEntry callId name tool) := by
      simp [queue, hb, entry, ht]
    refine ⟨_, he, rfl, rfl, ?_, ledger_emitted ht _⟩
    have hsent := sent_add_pending (hq.bound _ _ he)
    simp only [callEntry, pending] at hsent
    rw [hindex] at hb
    simp only [queue, Queue.flushed, entries_insert hl ht hb, flushed, callEntry, hsent, hindex]

theorem flushRound_ok (hl : Linked (ledger a)) (hq : (queue a).Sound)
    (h : flushRound.call a = (.ok (frames, more), a')) : ledger a' = ledger a ∧
    ((frames = [] ∧ more = false ∧ (queue a).opened = false ∧
        (queue a).next = (queue a).entries.length ∧ queue a' = queue a) ∨
      ∃ e, (queue a).entries[(queue a).next]? = some e ∧
        ((frames = [writer.start (queue a).next e.head] ∧ more = true ∧
            (queue a).opened = false ∧ queue a' = { queue a with opened := true }) ∨
          (frames = e.pending.map (writer.part (queue a).next e.head) ∧ more = false ∧
            (queue a).opened = true ∧ e.closed = false ∧ queue a' = (queue a).flushed e) ∨
          (frames = e.pending.map (writer.part (queue a).next e.head) ++
              [writer.stop (queue a).next] ∧ more = true ∧ (queue a).opened = true ∧
            e.closed = true ∧ queue a' =
              { (queue a).flushed e with opened := false, next := (queue a).next + 1 }))) := by
  simp only [flushRound] at h
  rcases hactive : a.activeSseIndex with _ | index
  · simp only [hactive, startBlock, call_ok] at h
    split_ifs at h with hend
    · obtain ⟨⟨rfl, rfl⟩, rfl⟩ := h
      exact ⟨rfl, .inl ⟨rfl, rfl, by simp [queue, hactive], by simp [queue, hend], rfl⟩⟩
    · simp only [startNextSseBlock, call_ok, Prod.mk.injEq] at h
      obtain ⟨_, _, ⟨block, hb, _, rfl, rfl⟩, ⟨rfl, rfl⟩, rfl⟩ := h
      refine ⟨rfl, .inr ⟨entry a.tools block, by simp [queue, hb], .inl ⟨?_, rfl, ?_, rfl⟩⟩⟩
      · cases block <;> rfl
      · simp [queue, hactive]
  · simp only [hactive, flushBlock, call_ok, decide_eq_true_eq] at h
    obtain ⟨_, rfl, ⟨written, ready⟩, a₁, hflush, h⟩ := h
    obtain ⟨e, he, rfl, rfl, hqueue, hledger⟩ := flushActiveBlock_ok hl hq hflush
    have hopen : (queue a).opened = true := by simp [queue, hactive]
    cases hclosed : e.closed
    · simp only [hclosed, Bool.false_eq_true, if_false, call_pure_ok, Prod.mk.injEq] at h
      obtain ⟨⟨rfl, rfl⟩, rfl⟩ := h
      exact ⟨hledger, .inr ⟨e, he, .inr (.inl ⟨rfl, rfl, hopen, hclosed, hqueue⟩)⟩⟩
    · simp only [hclosed, if_true, stopActiveSseBlock, call_ok, Prod.mk.injEq] at h
      obtain ⟨_, _, ⟨_, rfl, rfl⟩, ⟨rfl, rfl⟩, rfl⟩ := h
      refine ⟨hledger, .inr ⟨e, he, .inr (.inr ⟨rfl, rfl, hopen, hclosed, ?_⟩)⟩⟩
      rw [← hqueue]
      simp only [queue, Option.isSome_none, Queue.mk.injEq, and_true, true_and]
      exact congrArg (· + 1) (congrArg Queue.next hqueue)

/-- **A flush of the message is a flush of its queue**, and changes nothing else. -/
theorem flush_ok {a a' : Assembly} {frames : List SseFrame} (hl : Linked (ledger a))
    (hq : (queue a).Sound) (h : flushSerializedBlocks a = (.ok frames, a')) :
    Queue.Flushes writer (queue a) frames (queue a') ∧ ledger a' = ledger a := by
  rw [flushSerializedBlocks] at h
  split at h
  · cases h
  · rename_i out a₁ hround
    cases h
    obtain ⟨hledger, ⟨rfl, -, hopen, hnext, hqueue⟩ | ⟨e, he, hcase⟩⟩ := flushRound_ok hl hq hround
    · rw [hqueue]
      exact ⟨.idle hopen hnext, hledger⟩
    · obtain ⟨-, ⟨⟩, -⟩ | ⟨rfl, -, hopen, hclosed, hqueue⟩ | ⟨-, ⟨⟩, -⟩ := hcase
      exact ⟨hqueue ▸ .wait hopen he hclosed, hledger⟩
  · rename_i out a₁ hround
    split at h
    · cases h
    · rename_i rest a₂ hrest
      cases h
      have hlt := flushRound_lt hround
      obtain ⟨hledger, ⟨-, ⟨⟩, -⟩ | ⟨e, he, hcase⟩⟩ := flushRound_ok hl hq hround
      obtain ⟨rfl, -, hopen, hqueue⟩ | ⟨-, ⟨⟩, -⟩ | ⟨rfl, -, hopen, hclosed, hqueue⟩ := hcase
      · obtain ⟨hflush, hsame⟩ := flush_ok (hledger ▸ hl) (hqueue ▸ hq.opened he) hrest
        rw [hqueue] at hflush
        exact ⟨.start hopen he hflush, hsame.trans hledger⟩
      · obtain ⟨hflush, hsame⟩ :=
          flush_ok (hledger ▸ hl) (hqueue ▸ hq.stopped hopen he hclosed) hrest
        rw [hqueue] at hflush
        rw [List.append_assoc]
        exact ⟨.stop hopen he hclosed hflush, hsame.trans hledger⟩
termination_by a.unwritten

end Flush

/-! ### Growing -/

section Grow

variable {i : ℕ}

theorem grows_extend {s s' : ContentState}
    (hb : a.content[i]? = some (.content kind s)) (hopen : s.closed = false)
    (hsent : s'.emittedDeltas = s.emittedDeltas) (hdeltas : s.deltas <+: s'.deltas) :
    (queue a).Grows (queue { a with content := a.content.set i (.content kind s') }) := by
  have he : (queue a).entries[i]? = some (entry a.tools (.content kind s)) := by simp [queue, hb]
  have hgrows := Queue.grows_set (d := entry a.tools (.content kind s')) he
    ⟨rfl, hsent, hdeltas, fun hclosed => by simp [entry, hopen] at hclosed⟩
  simpa only [queue, List.map_set] using hgrows

theorem grows_tool {callId name : String} (hl : Linked (ledger a)) (hnew : a.tools[callId]? = none)
    (index : ℕ) :
    (queue a).Grows (queue { a with
      content := a.content ++ [.tool callId name none]
      tools := a.tools.insert callId { contentIndex := index } }) := by
  have hsame : a.content.map (entry (a.tools.insert callId { contentIndex := index })) =
      a.content.map (entry a.tools) := by
    refine List.map_congr_left fun b hb => ?_
    cases b with
    | content kind s => rfl
    | tool callId' name' input' =>
      obtain ⟨j, hj⟩ := List.getElem?_of_mem hb
      obtain ⟨tool, ht, -⟩ := hl.tool j _ _ _ (ledger_tool_iff.mpr hj)
      have hne : callId ≠ callId' := by
        rintro rfl
        simp [ledger, hnew] at ht
      simp [entry, Std.TreeMap.getElem?_insert, hne]
  have hgrows := (queue a).grows_push (.tool callId name)
  simpa [queue, hsame, entry, callEntry] using hgrows

theorem grows_call {callId name : String} {input input' : Option Core.Json.Value}
    {tool tool' : ToolState} (hl : Linked (ledger a)) (ht : a.tools[callId]? = some tool)
    (hb : a.content[tool.contentIndex]? = some (.tool callId name input))
    (hopen : tool.completed = false) (hsent : tool'.emittedDeltas = tool.emittedDeltas)
    (hdeltas : tool.argumentDeltas <+: tool'.argumentDeltas) :
    (queue a).Grows (queue { a with
      content := a.content.set tool.contentIndex (.tool callId name input')
      tools := a.tools.insert callId tool' }) := by
  have he : (queue a).entries[tool.contentIndex]? = some (callEntry callId name tool) := by
    simp [queue, hb, entry, ht]
  have hgrows := Queue.grows_set (d := callEntry callId name tool') he
    ⟨rfl, hsent, hdeltas, fun hclosed => by simp [callEntry, hopen] at hclosed⟩
  have hentry : entry (a.tools.insert callId tool') (.tool callId name input') =
      callEntry callId name tool' := by simp [entry]
  simpa only [queue, List.map_set, entries_insert hl ht hb, hentry, List.set_set] using hgrows

end Grow

end CpaGateway.Anthropic.Blocks
