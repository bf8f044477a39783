import CpaGateway.Kiro.Lifecycle
import CpaGateway.Router.ResponseTransform

/-! # Kiro responses at the client boundary

The Kiro mapper ends every response without a stop reason, and a Messages client requires one. So
`ProtocolResponseProjector` lets every event of a Kiro response pass unchanged (`pushFrames_plain`)
except its last one. -/

namespace CpaGateway.Kiro.Projection

open Core.Events Core.Json Kiro.EventStream Kiro.EventSemantics Kiro.Lifecycle Lib.Effect
open Lib.Fallible Router.ResponseTransform KiroEventSemanticMapper CanonicalEventState

/-- A Messages client gets the event as it is. -/
def Plain (e : CanonicalEvent) : Prop := projectEvent e .anthropicMessages = .ok (some e)

section Frames

variable {serde : SerdeJson} {m m' : KiroEventSemanticMapper} {es : List CanonicalEvent}

theorem Speaks.plain {e : CanonicalEvent} (h : Speaks e) : Plain e := by
  cases h <;> rfl

theorem UsesTool.plain {use : ToolUse} (h : UsesTool m m' use es) : ∀ e ∈ es, Plain e := by
  obtain ⟨name, input, arguments, -, rfl⟩ := h.emits
  intro e he
  simp only [fragment, ending, List.mem_append] at he
  rcases he with (he | he) | he
  all_goals
    split_ifs at he <;>
      simp_all [Plain, projectEvent, rejectExtensions, CanonicalEvent.extensionsEmpty]

theorem pushFrames_plain : ∀ (frames : List KiroEventStreamFrame) (m m' : KiroEventSemanticMapper)
    (es : List CanonicalEvent),
      (pushFrames serde frames).call m = (.ok es, m') → ∀ e ∈ es, Plain e
  | [], m, m', es, h => by
    simp only [pushFrames, call_pure_ok] at h
    simp [← h.1]
  | frame :: frames, m, m', es, h => by
    simp only [pushFrames, call_ok] at h
    obtain ⟨first, m₁, hfirst, rest, _, hrest, rfl, rfl⟩ := h
    intro e he
    rcases List.mem_append.mp he with he | he
    · rcases pushFrame_ok hfirst with ⟨use, -, hu⟩ | ⟨-, -, hspeaks⟩
      · exact UsesTool.plain hu e he
      · exact Speaks.plain (hspeaks e he)
    · exact pushFrames_plain frames m₁ _ rest hrest e he

end Frames

theorem end_refused (s : CanonicalEventState) :
    ∃ rejection, ProtocolResponseProjector.projectAll ⟨.anthropicMessages, s, s⟩ [.responseEnd {}] =
      .error rejection ∧
      (∀ t, s.apply (.responseEnd {}) = .ok t → rejection = .stopReasonUnsupported) := by
  rcases hs : s.apply (.responseEnd {}) with err | t
  · simp [ProtocolResponseProjector.projectAll, ProtocolResponseProjector.projectEvent,
      ProtocolResponseProjector.advance, hs, Except.mapError]
  · refine ⟨.stopReasonUnsupported, ?_, fun _ _ => rfl⟩
    simp [ProtocolResponseProjector.projectAll, ProtocolResponseProjector.projectEvent,
      ProtocolResponseProjector.advance, hs, Except.mapError, projectEvent, rejectExtensions,
      CanonicalEvent.extensionsEmpty, projectResponseEnd, Except.map]

/-- **A completed Kiro response never reaches a Messages client whole**: the projector refuses it,
and if the response is a canonical one it refuses the missing stop reason of its end. -/
theorem completed_rejected (serde : SerdeJson) (frames : List KiroEventStreamFrame)
    (id : ResponseId) (events : List CanonicalEvent)
    (h : ((mapResponse serde frames).call { responseId := id }).1 =
      .ok events) :
    ∃ rejection, ProtocolResponseProjector.projectAll { target := .anthropicMessages } events =
      .error rejection ∧
      ((∃ t, applyAll {} events = .ok t) → rejection = .stopReasonUnsupported) := by
  obtain ⟨body, m₁, hbody, -, rfl⟩ := mapResponse_ok (Prod.ext h rfl)
  -- everything but the last event passes as it is
  set front := [.responseStart { responseId := id }, .messageStart { role := ⟨"assistant"⟩ }] ++
    body ++ [.messageEnd {}] with hfront
  have hsplit : framed id body = front ++ [.responseEnd {}] := by simp [framed, hfront]
  have hplain : ∀ e ∈ front, Plain e := by
    intro e he
    rw [hfront] at he
    simp only [List.mem_append, List.mem_cons, List.not_mem_nil, or_false] at he
    rcases he with ((rfl | rfl) | he) | rfl
    · rfl
    · rfl
    · exact pushFrames_plain frames _ _ _ hbody e he
    · rfl
  have hpass := ProtocolResponseProjector.projectAll_passes .anthropicMessages front {} hplain
  rw [hsplit, ProtocolResponseProjector.projectAll_append]
  rcases hrun : applyAll {} front with err | t
  · rw [hrun] at hpass
    refine ⟨.invalidCanonicalLifecycle, by rw [hpass]; rfl, ?_⟩
    rintro ⟨u, hu⟩
    obtain ⟨v, hv, -⟩ := applyAll_append_ok.mp hu
    simp [hrun] at hv
  · rw [hrun] at hpass
    obtain ⟨rejection, hrej, hwhy⟩ := end_refused t
    refine ⟨rejection, by rw [hpass, ok_bind]; simp only [hrej]; rfl, ?_⟩
    rintro ⟨u, hu⟩
    obtain ⟨v, hv, hlast⟩ := applyAll_snoc_ok.mp hu
    rw [hrun, Except.ok.injEq] at hv
    exact hwhy u (hv ▸ hlast)

/-- A response of one text frame is refused. -/
theorem completed_rejected_hello :
    ∃ rejection, ProtocolResponseProjector.projectAll { target := .anthropicMessages }
      (framed sampleId [.textDelta { text := "hi" }]) = .error rejection := by
  obtain ⟨rejection, h, -⟩ := completed_rejected helloSerde
    [eventFrame "assistantResponseEvent" helloPayload] sampleId
    (framed sampleId [.textDelta { text := "hi" }]) (by decide +kernel)
  exact ⟨rejection, h⟩

/-- The provider completes a one-frame text response, and the projector refuses its end. -/
theorem hello_refused : ((mapResponse helloSerde
      [eventFrame "assistantResponseEvent" helloPayload]).call { responseId := sampleId }).1 =
        .ok (framed sampleId [.textDelta { text := "hi" }]) ∧
      (ProtocolResponseProjector.projectAll { target := .anthropicMessages }
        (framed sampleId [.textDelta { text := "hi" }])).map (·.1) =
          .error .stopReasonUnsupported := by
  refine ⟨?_, ?_⟩
  · decide +kernel
  · decide +kernel

end CpaGateway.Kiro.Projection
