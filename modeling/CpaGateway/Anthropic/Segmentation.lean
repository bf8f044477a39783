import CpaGateway.Anthropic.UpstreamResponse

/-! # Network segmentation of an Anthropic stream

A transport pushes each chunk and then drains and takes events until none is left. What it gets is
the `read` of all bytes, so the cuts between the chunks cannot be observed. -/

namespace CpaGateway.Anthropic.Segmentation

open Anthropic.UpstreamResponse Core.Error Core.Events Core.Json Core.Sse Lib.Effect Lib.Feed
open Lib.Framing Lib.Framing.FrameBuffer Anthropic.UpstreamResponse.AnthropicMessagesSseDecoder
  Intake
open Consumer

/-! ### Draining -/

variable {serde : SerdeJson}

section Pump

variable {d d' : AnthropicMessagesSseDecoder}

/-- The loop of a drain goes on. -/
def wants (m : MessagesMachine) : Bool := m.pending.isEmpty && !m.lifecycle.isFinished

/-- A drain that leaves events queued consumed a frame, or had nothing to do. -/
theorem drain_progress (d : AnthropicMessagesSseDecoder)
    (h : d.run (consumer serde) wants = (.ok (), d')) :
    d' = d ∨ d'.remaining < d.remaining ∨ d'.machine.pending = [] := by
  fun_induction d.run (consumer serde) wants with
  | case1 d hw =>
    cases h
    simp only [wants, Bool.and_eq_true, List.isEmpty_iff] at hw
    exact .inr (.inr hw.1)
  | case2 => cases h
  | case3 d _ frame ht machine _ ih =>
    have hlt := remaining_advanced machine ht
    rcases ih h with rfl | h' | h'
    · exact .inr (.inl hlt)
    · exact .inr (.inl (h'.trans hlt))
    · exact .inr (.inr h')
  | case4 =>
    cases h
    exact .inl rfl

/-- Drains and takes one event after the other until a drain leaves none, or fails. -/
def pump (serde : SerdeJson) (d : AnthropicMessagesSseDecoder) :
    Reading CanonicalEvent GatewayError AnthropicMessagesSseDecoder :=
  match _hd : drainBufferedFrames serde d with
  | (.error e, d') => { error := some e, object := d' }
  | (.ok (), d') =>
    match _ht : takeEvent d' with
    | (none, d'') => { object := d'' }
    | (some event, d'') => (pump serde d'').before [event]
termination_by (d.remaining, d.machine.pending.length)
decreasing_by
  simp only [takeEvent, Prod.mk.injEq] at _ht
  obtain ⟨hhead, rfl⟩ := _ht
  have hne : d'.machine.pending ≠ [] := by
    intro hnil
    rw [hnil] at hhead
    cases hhead
  have hlen := List.length_pos_of_ne_nil hne
  rcases drain_progress d _hd with rfl | hlt | hnil
  · refine Prod.Lex.right _ ?_
    rw [List.length_tail]
    omega
  · exact Prod.Lex.left _ _ hlt
  · exact absurd hnil hne

def queued (d : AnthropicMessagesSseDecoder) (events : List CanonicalEvent) :
    AnthropicMessagesSseDecoder :=
  { d with machine.pending := events }

theorem pump_failed {e : GatewayError} (h : drainBufferedFrames serde d = (.error e, d')) :
    pump serde d = { error := some e, object := d' } := by
  rw [pump]
  split <;> simp_all

theorem pump_drained (h : drainBufferedFrames serde d = (.ok (), d')) :
    pump serde d =
      match d'.machine.pending with
      | [] => { object := d' }
      | event :: rest => (pump serde (queued d' rest)).before [event] := by
  rw [pump]
  split
  · rename_i h'
    rw [h] at h'
    cases h'
  · rename_i d₁ h'
    rw [h, Prod.mk.injEq] at h'
    obtain ⟨-, rfl⟩ := h'
    split
    · rename_i d'' ht
      simp only [takeEvent, Prod.mk.injEq, List.head?_eq_none_iff] at ht
      obtain ⟨hnil, rfl⟩ := ht
      have hsame : queued d' [] = d' := by
        rw [← hnil]
        rfl
      simp only [hnil, List.tail_nil]
      exact congrArg (fun d => ({ object := d } : Reading _ _ _)) hsame
    · rename_i event d'' ht
      simp only [takeEvent, Prod.mk.injEq, List.head?_eq_some_iff] at ht
      obtain ⟨⟨rest, hcons⟩, rfl⟩ := ht
      rw [hcons, List.tail_cons]
      rfl

theorem pump_queued (events : List CanonicalEvent) :
    pump serde (queued d events) = (pump serde (queued d [])).before events := by
  induction events with
  | nil => rfl
  | cons event rest ih =>
    have hbusy : drainBufferedFrames serde (queued d (event :: rest)) =
        (.ok (), queued d (event :: rest)) := run_stop rfl
    rw [pump_drained hbusy]
    change (pump serde (queued d rest)).before [event] = _
    rw [ih]
    rfl

/-- What pumping promises: it reads the live bytes, and leaves what cannot be read. -/
structure Pumped (serde : SerdeJson) (d : AnthropicMessagesSseDecoder)
    (r : Reading CanonicalEvent GatewayError AnthropicMessagesSseDecoder) : Prop where
  reading : r.map id (fun d => (d.machine, d.frames.live)) =
    (consumer serde).read d.machine d.frames.live
  sound : Sound frameDelimiter r.object.frames
  idle : r.error = none → r.object.machine.pending = []

/-- **Draining reads the live bytes.** -/
theorem pump_spec (d : AnthropicMessagesSseDecoder) (hs : Sound frameDelimiter d.frames)
    (hp : d.machine.pending = []) : Pumped serde d (pump serde d) := by
  have hwants : wants d.machine = !d.machine.lifecycle.isFinished := by simp [wants, hp]
  rcases hf : d.machine.lifecycle.isFinished with _ | _
  · rw [hf] at hwants
    obtain ⟨hframe, hlive⟩ := takeFrame_spec hs
    have hsound := sound_takeFrame hs
    rcases hn : frameDelimiter.next d.frames.live with _ | ⟨frame, rest⟩
    · rw [hn] at hframe hlive
      have hdrain : drainBufferedFrames serde d = _ := run_none hwants hframe
      rw [pump_drained hdrain]
      simp only [advanced, hp]
      refine ⟨?_, hsound, fun _ => hp⟩
      rw [read_none (C := consumer serde) hn]
      exact congrArg (fun l => ({ object := (d.machine, l) } : Reading _ _ _)) hlive
    · rw [hn] at hframe hlive
      have hlt := remaining_advanced d.machine hframe
      have hdrain : drainBufferedFrames serde d = _ := run_some hwants hframe
      rcases hc : ((consumer serde).consume frame).call d.machine with ⟨e | _, machine⟩
      · rw [hc] at hdrain
        rw [pump_failed hdrain]
        refine ⟨?_, hsound, fun h => nomatch h⟩
        rw [read_failed (C := consumer serde) hf hn hc]
        exact congrArg (fun l => ({ error := some e, object := (machine, l) } : Reading _ _ _))
          hlive
      · rw [hc] at hdrain
        -- the frame's events are taken first, and the rest is pumped from a cleared queue
        have hpump : pump serde d =
            (pump serde (queued (d.advanced frameDelimiter machine) [])).before
              machine.pending := by
          rw [← pump_queued]
          rcases hd : drainBufferedFrames serde
              (queued (d.advanced frameDelimiter machine) machine.pending)
            with ⟨_ | _, d₁⟩
          · rw [pump_failed hd, pump_failed (hdrain.trans hd)]
          · rw [pump_drained hd, pump_drained (hdrain.trans hd)]
        have hrest : (queued (d.advanced frameDelimiter machine) []).frames.live = rest := hlive
        have ih := pump_spec (queued (d.advanced frameDelimiter machine) []) hsound rfl
        have hreading := ih.reading
        rw [hrest] at hreading
        rw [hpump]
        refine ⟨?_, ih.sound, ih.idle⟩
        rw [read_ok (C := consumer serde) hf hn hc]
        exact congrArg (·.before machine.pending) hreading
  · rw [hf] at hwants
    have hdrain : drainBufferedFrames serde d = _ := run_stop hwants
    rw [pump_drained hdrain, hp]
    refine ⟨?_, hs, fun _ => hp⟩
    rw [read_finished (C := consumer serde) hf]
    rfl
termination_by d.remaining
decreasing_by exact hlt

end Pump

/-! ### Driving -/

section Drive

/-- The call a drive stopped at. -/
inductive Stop
  | push (e : GatewayError)
  | drain (e : GatewayError)
  deriving DecidableEq

/-- Pushes each chunk and then pumps, up to the first error. -/
def drive (serde : SerdeJson) (d : AnthropicMessagesSseDecoder) : List (List UInt8) →
    Reading CanonicalEvent Stop AnthropicMessagesSseDecoder
  | [] => { object := d }
  | chunk :: rest =>
    match (pushChunk chunk).call d with
    | (.error e, d') => { error := some (.push e), object := d' }
    | (.ok (), d') => ((pump serde d').map .drain id).andThen fun d'' => drive serde d'' rest

/-- No push of the drive reported the bound on the live bytes. -/
def Admissible (r : Reading CanonicalEvent Stop AnthropicMessagesSseDecoder) : Prop :=
  ∀ e, r.error ≠ some (.push e)

variable {d : AnthropicMessagesSseDecoder} {chunk : List UInt8}

theorem call_pushChunk :
    (pushChunk chunk).call d =
      if d.frames.live.length + chunk.length ≤ maxFrameBytes then (.ok (), d.extended chunk)
      else (.error streamProtocolError, { d with frames := d.frames.compact }) := by
  rw [pushChunk, Method.onPart, call_of, call_append]
  split_ifs <;> rfl

theorem drive_room (rest : List (List UInt8))
    (h : d.frames.live.length + chunk.length ≤ maxFrameBytes) :
    drive serde d (chunk :: rest) =
      ((pump serde (d.extended chunk)).map .drain id).andThen fun d' => drive serde d' rest := by
  rw [drive, call_pushChunk, if_pos h]

theorem idle_fresh : Intake.Idle (consumer serde) new := idle_new rfl

theorem Pumped.idle_object {r : Reading CanonicalEvent GatewayError AnthropicMessagesSseDecoder}
    (h : Pumped serde d r) (he : r.error = none) : Intake.Idle (consumer serde) r.object := by
  have herr : ((consumer serde).read d.machine d.frames.live).error = none := by
    rw [← h.reading]
    simp [Reading.map, he]
  have hrest := read_stops _ _ herr
  rw [← h.reading] at hrest
  exact ⟨h.sound, h.idle he, hrest⟩

theorem pumped_extended (h : Intake.Idle (consumer serde) d) (chunk : List UInt8) :
    Pumped serde (d.extended chunk) (pump serde (d.extended chunk)) :=
  pump_spec _ (sound_extended h chunk) h.pending

theorem admissible_of_fits (chunks : List (List UInt8)) (d : AnthropicMessagesSseDecoder)
    (h : Intake.Idle (consumer serde) d)
    (hfits : d.frames.live.length + chunks.flatten.length ≤ maxFrameBytes) :
    Admissible (drive serde d chunks) := by
  induction chunks generalizing d with
  | nil => intro e he; cases he
  | cons chunk rest ih =>
    rw [List.flatten_cons, List.length_append] at hfits
    have hpump : Pumped serde (d.extended chunk) _ := pumped_extended h chunk
    have hlive := live_extended h chunk
    rw [drive_room rest (by omega)]
    generalize pump serde (d.extended chunk) = r at hpump ⊢
    rcases he : r.error with _ | e
    · have hle : r.object.frames.live.length ≤ (d.extended chunk).frames.live.length := by
        have := length_rest_le (C := consumer serde) (d.extended chunk).machine
          (d.extended chunk).frames.live
        rwa [← hpump.reading] at this
      rw [hlive, List.length_append] at hle
      rw [Reading.andThen_none (r := r.map Stop.drain id) (by simp [Reading.map, he])]
      exact ih r.object (hpump.idle_object he) (by omega)
    · have herr : (r.map Stop.drain id).error = some (.drain e) := by simp [Reading.map, he]
      rw [Reading.andThen_failed herr]
      intro e' h'
      rw [herr] at h'
      cases h'

/-- **Driving reads all bytes.** -/
theorem drive_spec (chunks : List (List UInt8)) (d : AnthropicMessagesSseDecoder)
    (h : Intake.Idle (consumer serde) d) (hadm : Admissible (drive serde d chunks)) :
    (drive serde d chunks).map id (·.machine) =
      ((consumer serde).read d.machine (d.frames.live ++ chunks.flatten)).map .drain (·.1) := by
  induction chunks generalizing d with
  | nil =>
    rw [List.flatten_nil, List.append_nil, h.drained]
    rfl
  | cons chunk rest ih =>
    by_cases hroom : d.frames.live.length + chunk.length ≤ maxFrameBytes
    · have hlive := live_extended h chunk
      have hpump : Pumped serde (d.extended chunk) _ := pumped_extended h chunk
      rw [drive_room rest hroom] at hadm ⊢
      rw [List.flatten_cons, ← List.append_assoc, ← hlive, read_append]
      change _ = ((more _ ((consumer serde).read (d.extended chunk).machine _)).andThen
        _).map _ _
      rw [← hpump.reading]
      generalize pump serde (d.extended chunk) = r at hadm hpump ⊢
      rcases he : r.error with _ | e
      · rw [Reading.andThen_none (r := r.map Stop.drain id) (by simp [Reading.map, he])] at hadm ⊢
        rw [Reading.andThen_none (by simp [more, Reading.map, he])]
        have hrest := ih r.object (hpump.idle_object he) hadm
        exact congrArg (·.before r.events) hrest
      · have hdrain : (r.map Stop.drain id).error = some (.drain e) := by simp [Reading.map, he]
        rw [Reading.andThen_failed hdrain,
          Reading.andThen_failed (e := e) (by simp [more, Reading.map, he])]
        simp [more, Reading.map]
    · exact absurd (by rw [drive, call_pushChunk, if_neg hroom]) (hadm _)

end Drive

/-! ### The offsets of the buffer -/

section Calls

/-- One call of the decoder's interface. -/
inductive Call
  | pushChunk (chunk : List UInt8)
  | drainBufferedFrames
  | takeEvent

/-- The decoder after a call, whether it failed or not. -/
def Call.run (serde : SerdeJson) (d : AnthropicMessagesSseDecoder) :
    Call → AnthropicMessagesSseDecoder
  | .pushChunk chunk => ((AnthropicMessagesSseDecoder.pushChunk chunk).call d).2
  | .drainBufferedFrames => (AnthropicMessagesSseDecoder.drainBufferedFrames serde d).2
  | .takeEvent => (AnthropicMessagesSseDecoder.takeEvent d).2

def after (serde : SerdeJson) (calls : List Call) : AnthropicMessagesSseDecoder :=
  calls.foldl (Call.run serde) new

variable {P : FrameBuffer UInt8 → Prop}

/-- What appends and taken frames keep, holds after any calls. -/
theorem after_keeps (h₀ : P {})
    (happend : ∀ b chunk, P b → P ((append maxFrameBytes streamProtocolError chunk).call b).2)
    (htake : ∀ b, P b → P (takeFrame frameDelimiter b).2) (calls : List Call) :
    P (after serde calls).frames := by
  have hall : ∀ (calls : List Call) (d : AnthropicMessagesSseDecoder), P d.frames →
      P (calls.foldl (Call.run serde) d).frames := by
    intro calls
    induction calls with
    | nil => exact fun d h => h
    | cons call rest ih =>
      intro d h
      refine ih _ ?_
      cases call with
      | pushChunk chunk => exact happend d.frames chunk h
      | drainBufferedFrames => exact run_keeps htake d h
      | takeEvent => exact h
  exact hall calls new h₀

/-- What the offsets of a buffer promise: no frame delimiter starts between `consumed` and
`scanned`, and the buffer holds at most twice the bound. -/
structure Offsets (b : FrameBuffer UInt8) : Prop where
  consumed_le : b.consumed ≤ b.scanned
  scanned_le : b.scanned ≤ b.buffer.length
  clear : ∀ p, b.consumed ≤ p → p < b.scanned → blankLine (b.buffer.drop p) = none
  within : b.buffer.length ≤ 2 * maxFrameBytes

theorem offsets_after (calls : List Call) : Offsets (after serde calls).frames := by
  have hsound : Sound frameDelimiter (after serde calls).frames :=
    after_keeps sound_empty (fun _ _ => sound_append) (fun _ => sound_takeFrame) calls
  have hwithin : Within maxFrameBytes (after serde calls).frames :=
    after_keeps ⟨Nat.zero_le _, Nat.zero_le _⟩ (fun _ _ => within_append)
      (fun _ => within_takeFrame) calls
  exact ⟨hsound.consumed_le, hsound.scanned_le, hsound.clear, hwithin.2⟩

end Calls

/-- **Cuts between chunks cannot be observed**, as long as no push reports the bound: the events,
the finished flag and the first error are the same. The offsets are sound after any calls. -/
theorem segmentation_unobservable (serde : SerdeJson) :
    (∀ cs ds : List (List UInt8), cs.flatten = ds.flatten →
      Admissible (drive serde new cs) → Admissible (drive serde new ds) →
        (drive serde new cs).events = (drive serde new ds).events ∧
        isFinished (drive serde new cs).object = isFinished (drive serde new ds).object ∧
        (drive serde new cs).error = (drive serde new ds).error) ∧
      ∀ calls : List Call, Offsets (after serde calls).frames := by
  refine ⟨fun cs ds hflat hcs hds => ?_, offsets_after⟩
  have hc := drive_spec cs new idle_fresh hcs
  have hd := drive_spec ds new idle_fresh hds
  rw [hflat, ← hd] at hc
  simp only [Reading.map, Option.map_id, Reading.mk.injEq] at hc
  obtain ⟨hevents, herror, hmachine⟩ := hc
  refine ⟨hevents, ?_, herror⟩
  rw [isFinished, hmachine]
  rfl

/-- The data of a frame that starts a message. -/
def startData : String :=
  "\x7b\"type\":\"message_start\",\"message\":\x7b\"type\":\"message\",\"role\":\"assistant\"," ++
    "\"id\":\"m\",\"usage\":\x7b\"input_tokens\":1\x7d\x7d\x7d"

def startSerde : SerdeJson := .ofTable [(startData, .object [("type", .string "message_start"),
  ("message", .object [("type", .string "message"), ("role", .string "assistant"),
    ("id", .string "m"), ("usage", .object [("input_tokens", .number (.posInt 1))])])])]

/-- A body of one frame. -/
def startBody : List UInt8 := ("data: " ++ startData ++ "\r\n\r\n").toUTF8.data.toList

/-- The body in one piece and byte by byte. -/
theorem segmentation_start :
    (drive startSerde new [startBody]).events =
      (drive startSerde new (startBody.map fun b => [b])).events := by
  have hlen : startBody.length ≤ maxFrameBytes := by decide +kernel
  have hflat : (startBody.map fun b => [b]).flatten = startBody := by
    rw [← List.flatMap_def, List.flatMap_singleton']
  refine ((segmentation_unobservable startSerde).1 _ _ ?_ ?_ ?_).1
  · rw [hflat, List.flatten_singleton]
  · exact admissible_of_fits _ _ idle_fresh (by simpa [live, new] using hlen)
  · exact admissible_of_fits _ _ idle_fresh (by rw [hflat]; simpa [live, new] using hlen)

end CpaGateway.Anthropic.Segmentation
