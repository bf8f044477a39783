import CpaGateway.Responses.Writing

/-! # The wire grammar of the Responses encoder

The frames of a response that was accepted to its end are numbered from one without a gap. Between
the two opening frames and the last one stands the journal of the output items: the items are added
in their order, and what is said about one of them is its record. -/

namespace CpaGateway.Responses.WireGrammar

open Core.Events Core.Json Lib.Effect Lib.Journal Responses.Encoder Responses.Items
open Responses.Encoder.OpenAiResponsesSseEncoder Responses.Writing

section Grammar

variable {metadata : OpenAiResponseMetadata} {events : List CanonicalEvent} {items : List Output}
  {entries : List OutputEntry} {responseId : String} {frames : List SseFrame}
  {encoder : OpenAiResponsesSseEncoder}

theorem tells_of_story (h : Story responseId events items entries) : Tells items entries := by
  induction h with
  | start r => exact ⟨rfl, fun _ => by simp⟩
  | step _ _ hsteps ih => exact ih.steps hsteps

/-- **The wire grammar.** The frames of a response that was accepted to its end carry the numbers
`1, 2, 3, …`. They are the two opening frames, the journal of the items and the last frame. The
items are added in their order; what the journal says about an item is that it was added, then its
fragments, then that it is done (`Tells`). The text an item is done with is the concatenation of its
fragments, and so are the arguments of a call that had fragments (`Settled`). The output of the last
frame is the list of the items as they were done, and the last frame has the response object. -/
theorem numbered_journal {r : ResponseEnd}
    (h : (Method.collect encodeEvent (events ++ [.responseEnd r])).call (.new metadata) =
      (.ok frames, encoder)) :
    ∃ responseId items entries event response,
      frames = numbered 1 (openingFrames metadata responseId ++ entries.flatMap entryFrames ++
        [responseFrame event response]) ∧ frames.length + 1 < 2 ^ 64 ∧
      Tells items entries ∧ (∀ item ∈ items, item.last.isSome = true ∧ Settled item) ∧
      response.get "output" = some (.array (items.map fun item => (outputItem item).toValue)) ∧
      encoder.intoCompletedResponse = .ok response := by
  obtain ⟨s, items, entries, t, hfinished⟩ := finished_of_run h
  refine ⟨s.responseId, items, entries, t.event,
    s.responseValue metadata t.status t.incompleteReason, hfinished.written, hfinished.fits,
    tells_of_story hfinished.story, fun item hitem => ?_, ?_, hfinished.completed⟩
  · exact ⟨hfinished.closed item hitem, hfinished.holds.mirrors.settled item hitem⟩
  · rw [ResponseState.responseValue, Value.get_ofMembers]
    simp [ResponseState.responseMembers, hfinished.holds.mirrors.output]

/-- A message with text, reasoning and two calls whose fragments are interleaved. -/
def sampleEvents : List CanonicalEvent :=
  [.responseStart { responseId := .lit "r" }, .messageStart { role := ⟨"assistant"⟩ },
    .textDelta { text := "a" }, .toolCallStart { callId := "1", name := "f" },
    .reasoningDelta { text := "b" }, .toolCallStart { callId := "2", name := "g" },
    .toolCallArgumentsDelta { callId := "1", delta := "\x7b" }, .textDelta { text := "c" },
    .toolCallEnd { callId := "2", arguments := ⟨"\x7b\x7d"⟩ },
    .toolCallArgumentsDelta { callId := "1", delta := "\x7d" },
    .toolCallEnd { callId := "1", arguments := ⟨"\x7b\x7d"⟩ }, .messageEnd {}]

def sampleMetadata : OpenAiResponseMetadata := ⟨"m", 0, Bridge.Meaning.sampleName_ne⟩

/-- The sample is accepted, and its frames are a numbered journal. -/
theorem numbered_journal_sample :
    ∃ frames responseId items entries event response,
      ((Method.collect encodeEvent (sampleEvents ++ [.responseEnd {}])).call
        (.new sampleMetadata)).1 =
        .ok frames ∧
      frames = numbered 1 (openingFrames sampleMetadata responseId ++ entries.flatMap entryFrames ++
        [responseFrame event response]) ∧ Tells items entries ∧
      (∀ item ∈ items, item.last.isSome = true ∧ Settled item) := by
  have haccepted : ((Method.collect encodeEvent (sampleEvents ++ [.responseEnd {}])).call
      (.new sampleMetadata)).1.isOk = true := by decide +kernel
  rcases hrun : (Method.collect encodeEvent (sampleEvents ++ [.responseEnd {}])).call
      (.new sampleMetadata) with ⟨_ | frames, encoder⟩
  · rw [hrun] at haccepted
    cases haccepted
  · obtain ⟨responseId, items, entries, event, response, hframes, -, htells, hitems, -, -⟩ :=
      numbered_journal hrun
    exact ⟨frames, responseId, items, entries, event, response, by rw [hrun], hframes,
      htells, hitems⟩

end Grammar

end CpaGateway.Responses.WireGrammar
