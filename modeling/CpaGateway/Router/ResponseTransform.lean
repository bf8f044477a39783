import CpaGateway.Core.Events

/-! # Projection to a client protocol

Every provider event passes `ProtocolResponseProjector` before a client encoder sees it. The
projector runs the canonical lifecycle twice, over the events it receives and over the events it
lets through, narrows usage counters and stop reasons to what the client protocol can name, and
rejects the rest. A rejection commits neither lifecycle. -/

namespace CpaGateway.Router.ResponseTransform

open Core.Events Lib.Fallible CanonicalEventState

/-- The protocol a client speaks. -/
inductive ProtocolFormat
  | openAiChatCompletions
  | openAiResponses
  | anthropicMessages
  deriving DecidableEq

/-- Why an event cannot be encoded for a client protocol. -/
inductive ProtocolResponseRejection
  | reasoningUnsupported
  | unknownExtensions
  | stopReasonUnsupported
  | stopSequenceUnsupported
  | invalidCanonicalLifecycle
  deriving DecidableEq

def rejectExtensions (event : CanonicalEvent) : Except ProtocolResponseRejection Unit :=
  if event.extensionsEmpty then .ok () else .error .unknownExtensions

/-- The name a client protocol has for a stop reason. -/
def projectStopReason (target : ProtocolFormat) (reason : String) : Option String :=
  match target with
  | .openAiChatCompletions =>
    match reason with
    | "end_turn" | "stop" => some "stop"
    | "tool_use" | "tool_calls" => some "tool_calls"
    | "max_tokens" | "length" => some "length"
    | "refusal" | "content_filter" => some "content_filter"
    | _ => none
  | .openAiResponses =>
    match reason with
    | "end_turn" | "stop" => some "end_turn"
    | "tool_use" | "tool_calls" => some "tool_use"
    | "max_tokens" | "length" => some "max_tokens"
    | "refusal" | "content_filter" => some "refusal"
    | _ => none
  | .anthropicMessages =>
    match reason with
    | "end_turn" | "stop" => some "end_turn"
    | "tool_use" | "tool_calls" => some "tool_use"
    | "max_tokens" | "length" => some "max_tokens"
    | "refusal" | "content_filter" => some "refusal"
    | "stop_sequence" => some "stop_sequence"
    | "model_context_window_exceeded" => some "model_context_window_exceeded"
    | "pause_turn" => some "pause_turn"
    | _ => none

def projectResponseEnd (e : ResponseEnd) (target : ProtocolFormat) :
    Except ProtocolResponseRejection ResponseEnd :=
  if e.stopSequence.isSome && target ≠ .anthropicMessages then .error .stopSequenceUnsupported
  else
    match e.stopReason.bind (projectStopReason target) with
    | none => .error .stopReasonUnsupported
    | some reason => .ok { e with stopReason := some reason }

/-- The counters a client protocol can name. -/
def projectUsage (target : ProtocolFormat) (usage : Usage) : Usage :=
  match target with
  | .openAiChatCompletions | .openAiResponses =>
    { usage with cacheReadTokens := none, cacheCreationTokens := none }
  | .anthropicMessages => { usage with reasoningTokens := none, cachedTokens := none }

/-- One event for the client. Chat has no usage before the final one, so an earlier one is dropped.
-/
def projectEvent (event : CanonicalEvent) (target : ProtocolFormat) :
    Except ProtocolResponseRejection (Option CanonicalEvent) := do
  rejectExtensions event
  match event with
  | .reasoningDelta _ =>
    if target = .openAiChatCompletions then .error .reasoningUnsupported else .ok (some event)
  | .usageDelta delta =>
    if target ≠ .openAiChatCompletions || delta.isFinal then
      .ok (some (.usageDelta { delta with usage := projectUsage target delta.usage }))
    else .ok none
  | .responseEnd e => (projectResponseEnd e target).map fun e' => some (.responseEnd e')
  | _ => .ok (some event)

structure ProtocolResponseProjector where
  target : ProtocolFormat
  inputState : CanonicalEventState := {}
  outputState : CanonicalEventState := {}

namespace ProtocolResponseProjector

/-- The lifecycle after an event, with its errors as rejections. -/
def advance (state : CanonicalEventState) (event : CanonicalEvent) :
    Except ProtocolResponseRejection CanonicalEventState :=
  (state.apply event).mapError fun _ => .invalidCanonicalLifecycle

/-- The lifecycle of the client after what the projection let through. -/
def advanceOutput (p : ProtocolResponseProjector) (projected : Option CanonicalEvent) :
    Except ProtocolResponseRejection CanonicalEventState :=
  match projected with
  | some event => advance p.outputState event
  | none => .ok p.outputState

/-- One event: both lifecycles move only if the event is accepted. -/
def projectEvent (p : ProtocolResponseProjector) (event : CanonicalEvent) :
    Except ProtocolResponseRejection (Option CanonicalEvent × ProtocolResponseProjector) := do
  let nextInput ← advance p.inputState event
  let projected ← ResponseTransform.projectEvent event p.target
  let nextOutput ← p.advanceOutput projected
  return (projected, { p with inputState := nextInput, outputState := nextOutput })

/-- All events of a list in turn, stopping at the first rejected one. -/
def projectAll (p : ProtocolResponseProjector) : List CanonicalEvent →
    Except ProtocolResponseRejection (List CanonicalEvent × ProtocolResponseProjector)
  | [] => .ok ([], p)
  | event :: rest => do
    let (projected, p) ← p.projectEvent event
    let (events, p) ← p.projectAll rest
    return (projected.toList ++ events, p)

theorem projectAll_append (p : ProtocolResponseProjector) (xs ys : List CanonicalEvent) :
    p.projectAll (xs ++ ys) = do
      let (before, p) ← p.projectAll xs
      let (after, p) ← p.projectAll ys
      return (before ++ after, p) := by
  induction xs generalizing p with
  | nil =>
    simp only [List.nil_append, projectAll, ok_bind]
    cases p.projectAll ys <;> rfl
  | cons x xs ih =>
    simp only [List.cons_append, projectAll, ih, bind_assoc, pure_bind, List.append_assoc]

/-- Events that the target names as they are pass unchanged, as far as the lifecycle accepts them.
-/
theorem projectAll_passes (target : ProtocolFormat) : ∀ (es : List CanonicalEvent)
    (s : CanonicalEventState), (∀ e ∈ es, ResponseTransform.projectEvent e target = .ok (some e)) →
      projectAll ⟨target, s, s⟩ es =
        match s.applyAll es with
        | .ok t => .ok (es, ⟨target, t, t⟩)
        | .error _ => .error .invalidCanonicalLifecycle
  | [], s, _ => rfl
  | e :: es, s, h => by
    have he := h e (by simp)
    simp only [projectAll, projectEvent, advanceOutput, advance, he, applyAll,
      List.foldlM_cons]
    rcases hs : s.apply e with err | t
    · rfl
    · have htail := projectAll_passes target es t fun x hx => h x (by simp [hx])
      rw [applyAll] at htail
      simp only [Except.mapError, ok_bind, hs, pure, Except.pure, htail]
      cases List.foldlM apply t es <;> rfl

end ProtocolResponseProjector

end CpaGateway.Router.ResponseTransform
