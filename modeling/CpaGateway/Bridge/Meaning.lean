import CpaGateway.Core.Grammar

/-! # What a response means

The identifier, the text, the reasoning, the calls, the usage and the end of a response, whatever
the fragments it came in. Two sequences of events that mean the same are the same response to a
client. -/

namespace CpaGateway.Bridge.Meaning

open Core.Events Core.Grammar

def fragmentOf (callId : String) : CanonicalEvent → Option String
  | .toolCallArgumentsDelta d => if d.callId = callId then some d.delta else none
  | _ => none

/-- The argument fragments of a call, in order. -/
def fragments (callId : String) (p : List CanonicalEvent) : List String :=
  p.filterMap (fragmentOf callId)

variable {e : CanonicalEvent} {callId : String}

section Fragments

variable {p q : List CanonicalEvent}

@[simp] theorem fragments_nil : fragments callId [] = [] := rfl

@[simp] theorem fragments_append :
    fragments callId (p ++ q) = fragments callId p ++ fragments callId q := List.filterMap_append

end Fragments

/-! ### Meanings -/

/-- A call with its arguments. -/
structure Call where
  id : String
  name : String
  arguments : String := ""
  deriving DecidableEq

/-- The call with a fragment of its arguments more. -/
def Call.append (delta : String) (call : Call) : Call :=
  { call with arguments := call.arguments ++ delta }

def Call.complete (arguments : String) (call : Call) : Call := { call with arguments }

/-- What a response says. -/
structure Summary where
  responseId : Option String := none
  text : String := ""
  reasoning : String := ""
  calls : List Call := []
  usage : Option Usage := none
  stopReason : Option String := none
  stopSequence : Option String := none
  deriving DecidableEq

def onCall (callId : String) (change : Call → Call) (calls : List Call) : List Call :=
  calls.map fun call => if call.id = callId then change call else call

/-- One event. The end of a call says its arguments once more. -/
def Summary.step (m : Summary) : CanonicalEvent → Summary
  | .responseStart start => { m with responseId := some start.responseId.asStr }
  | .textDelta delta => { m with text := m.text ++ delta.text }
  | .reasoningDelta delta => { m with reasoning := m.reasoning ++ delta.text }
  | .toolCallStart start =>
    { m with calls := m.calls ++ [{ id := start.callId, name := start.name }] }
  | .toolCallArgumentsDelta d => { m with calls := onCall d.callId (Call.append d.delta) m.calls }
  | .toolCallEnd e => { m with calls := onCall e.callId (Call.complete e.arguments.get) m.calls }
  | .usageDelta delta => { m with usage := some delta.usage }
  | .responseEnd e => { m with stopReason := e.stopReason, stopSequence := e.stopSequence }
  | .messageStart _ | .messageEnd _ | .streamError _ => m

/-- What events say, in order. -/
def meaning (events : List CanonicalEvent) : Summary := events.foldl Summary.step {}

section Calls

variable {calls : List Call} {change : Call → Call}

theorem map_id_onCall (h : ∀ call, (change call).id = call.id) :
    (onCall callId change calls).map Call.id = calls.map Call.id := by
  simp only [onCall, List.map_map]
  refine List.map_congr_left fun call _ => ?_
  by_cases hid : call.id = callId <;> simp [hid, h]

theorem onCall_eq_set {i : ℕ} {call : Call} (hnodup : (calls.map Call.id).Nodup)
    (hcall : calls[i]? = some call) : onCall call.id change calls = calls.set i (change call) := by
  refine List.ext_getElem? fun j => ?_
  rw [onCall, List.getElem?_map, List.getElem?_set]
  split_ifs with hij hlen
  · subst hij
    rw [hcall]
    simp
  · exact absurd (List.getElem?_eq_some_iff.mp hcall).1 hlen
  · rcases hj : calls[j]? with _ | other
    · rfl
    · have hne : other.id ≠ call.id := by
        intro heq
        have hi' : (calls.map Call.id)[i]? = some call.id := by simp [hcall]
        have hj' : (calls.map Call.id)[j]? = some call.id := by simp [hj, heq]
        have hlt := (List.getElem?_eq_some_iff.mp hi').1
        exact hij ((List.getElem?_inj hlt hnodup).mp (hi'.trans hj'.symm))
      simp [hne]

end Calls

section Runs

variable {events : List CanonicalEvent} {s : CanonicalEventState}

theorem meaning_snoc : meaning (events ++ [e]) = (meaning events).step e := by
  simp [meaning]

theorem calls_step_id (m : Summary) (e : CanonicalEvent) (h : ∀ start, e ≠ .toolCallStart start) :
    (m.step e).calls.map Call.id = m.calls.map Call.id := by
  cases e with
  | toolCallStart start => exact absurd rfl (h start)
  | toolCallArgumentsDelta | toolCallEnd => exact map_id_onCall fun _ => rfl
  | _ => rfl

theorem mem_calls_id : callId ∈ (meaning events).calls.map Call.id ↔ Started callId events := by
  induction events using List.reverseRecOn with
  | nil => simp [meaning]
  | append_singleton events e ih =>
    rw [meaning_snoc, started_append, started_singleton]
    by_cases h : ∃ start, e = .toolCallStart start
    · obtain ⟨start, rfl⟩ := h
      simp [Summary.step, ← ih, eq_comm]
    · rw [calls_step_id _ _ fun start heq => h ⟨start, heq⟩, ih]
      constructor
      · exact .inl
      · rintro (hstarted | ⟨start, rfl, -⟩)
        · exact hstarted
        · exact absurd ⟨start, rfl⟩ h

/-- **Every call has an identifier of its own.** -/
theorem calls_nodup (hrun : CanonicalEventState.applyAll {} events = .ok s) :
    ((meaning events).calls.map Call.id).Nodup := by
  induction events using List.reverseRecOn generalizing s with
  | nil => exact List.nodup_nil
  | append_singleton events e ih =>
    obtain ⟨t, ht, hstep⟩ := CanonicalEventState.applyAll_snoc_ok.mp hrun
    rw [meaning_snoc]
    by_cases h : ∃ start, e = .toolCallStart start
    · obtain ⟨start, rfl⟩ := h
      obtain ⟨-, -, -, hnew⟩ := legal_of_run hrun (by simp) (by simp)
      rw [Summary.step, List.map_append, List.nodup_append]
      refine ⟨ih ht, by simp, ?_⟩
      intro callId hmem callId' hmem' heq
      obtain rfl : callId' = start.callId := by simpa using hmem'
      exact hnew (mem_calls_id.mp (heq ▸ hmem))
    · rw [calls_step_id _ _ fun start heq => h ⟨start, heq⟩]
      exact ih ht

end Runs

/-- The name of the model in the samples of the three protocols. -/
theorem sampleName_ne : "m" ≠ "" := by decide

end CpaGateway.Bridge.Meaning
