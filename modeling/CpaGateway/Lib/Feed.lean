import CpaGateway.Lib.Framing

/-! # Reading a text frame by frame

A `Consumer` takes frames one at a time, queues events and says when it is finished. Its `read` is
the meaning of a text: the events of all frames up to the first failure, or up to the frame that
finished it. An `Intake` is a frame buffer with such an object behind it. -/

namespace CpaGateway.Lib.Feed

open Lib.Effect Lib.Framing Lib.Framing.FrameBuffer Delimiter

variable {α ε η μ σ : Type}

/-- The events of a run, the failure that ended it, and the object afterwards. -/
structure Reading (η ε σ : Type) where
  events : List η := []
  error : Option ε := none
  object : σ

namespace Reading

def before (r : Reading η ε σ) (events : List η) : Reading η ε σ :=
  { r with events := events ++ r.events }

/-- A reading continued, unless it failed. -/
def andThen (r : Reading η ε σ) (next : σ → Reading η ε σ) : Reading η ε σ :=
  match r.error with
  | some _ => r
  | none => (next r.object).before r.events

/-- A reading with its failure and its object seen through `f` and `g`. -/
def map {ε' σ' : Type} (f : ε → ε') (g : σ → σ') (r : Reading η ε σ) : Reading η ε' σ' where
  events := r.events
  error := r.error.map f
  object := g r.object

def ofCall : Except ε (List η) × σ → Reading η ε σ
  | (.ok events, s) => { events, object := s }
  | (.error e, s) => { error := some e, object := s }

@[simp] theorem before_nil (r : Reading η ε σ) : r.before [] = r := rfl

@[simp] theorem before_before (r : Reading η ε σ) (xs ys : List η) :
    (r.before ys).before xs = r.before (xs ++ ys) := by
  simp [before]

variable {r : Reading η ε σ}

theorem andThen_failed {e : ε} (h : r.error = some e) (next : σ → Reading η ε σ) :
    r.andThen next = r := by
  rw [andThen, h]

theorem andThen_none (h : r.error = none) (next : σ → Reading η ε σ) :
    r.andThen next = (next r.object).before r.events := by
  rw [andThen, h]

theorem before_andThen (xs : List η) (next : σ → Reading η ε σ) :
    (r.before xs).andThen next = (r.andThen next).before xs := by
  rcases h : r.error with _ | e
  · rw [andThen_none h, andThen_none (r := r.before xs) h, before_before]
    rfl
  · rw [andThen_failed h, andThen_failed (r := r.before xs) h]

end Reading

/-! ### Queues -/

/-- The queue of events inside an object. -/
structure Queue (η μ : Type) where
  pending : μ → List η
  put : List η → μ → μ
  pending_put : ∀ xs m, pending (put xs m) = xs := by intros; rfl
  put_put : ∀ xs ys m, put xs (put ys m) = put xs m := by intros; rfl
  put_pending : ∀ m, put (pending m) m = m := by intros; rfl

namespace Queue

/-- The object with an empty queue. -/
def clear (Q : Queue η μ) (m : μ) : μ := Q.put [] m

/-- The object with events before those of its queue. -/
def queued (Q : Queue η μ) (xs : List η) (m : μ) : μ := Q.put (xs ++ Q.pending m) m

variable {Q : Queue η μ}

theorem queued_queued (xs ys : List η) (m : μ) :
    Q.queued xs (Q.queued ys m) = Q.queued (xs ++ ys) m := by
  simp only [queued, Q.pending_put, Q.put_put, List.append_assoc]

theorem queued_clear (m : μ) : Q.queued (Q.pending m) (Q.clear m) = m := by
  simp only [queued, clear, Q.pending_put, Q.put_put, List.append_nil, Q.put_pending]

end Queue

/-! ### Consumers -/

/-- An object of type `μ` that consumes frames and queues events. -/
structure Consumer (α ε η μ : Type) extends Queue η μ where
  delimiter : Delimiter α
  consume : List α → Method μ ε Unit
  finished : μ → Bool

namespace Consumer

/-- Reads the frames of a text, taking the events of each, until one fails, the object is finished,
or no frame is complete. The object afterwards comes with the text that is left. -/
def read (C : Consumer α ε η μ) (m : μ) (l : List α) : Reading η ε (μ × List α) :=
  if C.finished m then { object := (m, l) }
  else
    match _h : C.delimiter.next l with
    | none => { object := (m, l) }
    | some (frame, rest) =>
      match (C.consume frame).call m with
      | (.error e, m') => { error := some e, object := (m', rest) }
      | (.ok (), m') => (read C (C.clear m') rest).before (C.pending m')
termination_by l.length
decreasing_by exact next_lt _h

variable {C : Consumer α ε η μ} {m m' : μ} {l frame rest : List α} {e : ε}

theorem read_finished (h : C.finished m = true) (l : List α) :
    C.read m l = { object := (m, l) } := by
  rw [read, if_pos h]

theorem read_none (h : C.delimiter.next l = none) : C.read m l = { object := (m, l) } := by
  rw [read]
  split_ifs
  · rfl
  · split <;> simp_all

section

variable (hf : C.finished m = false) (h : C.delimiter.next l = some (frame, rest))

include hf h

theorem read_some :
    C.read m l =
      match (C.consume frame).call m with
      | (.error e, m') => { error := some e, object := (m', rest) }
      | (.ok (), m') => (C.read (C.clear m') rest).before (C.pending m') := by
  rw [read, if_neg (by simp [hf])]
  split
  · rename_i h'
    rw [h] at h'
    cases h'
  · rename_i h'
    rw [h, Option.some.injEq] at h'
    obtain ⟨rfl, rfl⟩ := h'
    rfl

theorem read_failed (hc : (C.consume frame).call m = (.error e, m')) :
    C.read m l = { error := some e, object := (m', rest) } := by
  rw [read_some hf h, hc]

theorem read_ok {u : Unit} (hc : (C.consume frame).call m = (.ok u, m')) :
    C.read m l = (C.read (C.clear m') rest).before (C.pending m') := by
  rw [read_some hf h, hc]

end

/-- More text behind what is left. -/
def more (text : List α) (r : Reading η ε (μ × List α)) : Reading η ε (μ × List α) :=
  r.map id fun s => (s.1, s.2 ++ text)

theorem more_before (text : List α) (r : Reading η ε (μ × List α)) (xs : List η) :
    more text (r.before xs) = (more text r).before xs := rfl

/-- **Reading in two parts.** -/
theorem read_append (m : μ) (l text : List α) :
    C.read m (l ++ text) = (more text (C.read m l)).andThen fun s => C.read s.1 s.2 := by
  fun_induction C.read m l with
  | case1 | case2 => rfl
  | case3 m l hf frame rest hn e m' hc =>
    rw [read_failed (by simpa using hf) (next_append hn) hc]
    rfl
  | case4 m l hf frame rest hn m' hc ih =>
    rw [read_ok (by simpa using hf) (next_append hn) hc, ih, more_before, Reading.before_andThen]

theorem read_append_ok (h : (C.read m l).error = none) (text : List α) :
    C.read m (l ++ text) = (C.read (C.read m l).object.1 ((C.read m l).object.2 ++ text)).before
      (C.read m l).events := by
  rw [read_append, Reading.andThen_none (by simp [more, Reading.map, h])]
  rfl

theorem read_append_failed (h : (C.read m l).error ≠ none) (text : List α) :
    C.read m (l ++ text) = more text (C.read m l) := by
  obtain ⟨e, he⟩ := Option.ne_none_iff_exists'.mp h
  rw [read_append, Reading.andThen_failed (e := e) (by simp [more, Reading.map, he])]

theorem read_stops (m : μ) (l : List α) (h : (C.read m l).error = none) :
    C.finished (C.read m l).object.1 = true ∨ C.delimiter.next (C.read m l).object.2 = none := by
  fun_induction C.read m l with
  | case1 m l hf => exact .inl hf
  | case2 m l _ hn => exact .inr hn
  | case3 => cases h
  | case4 m l _ frame rest _ m' _ ih => exact ih h

theorem length_rest_le (m : μ) (l : List α) : (C.read m l).object.2.length ≤ l.length := by
  fun_induction C.read m l with
  | case1 | case2 => exact le_rfl
  | case3 m l _ frame rest hn => exact (next_lt hn).le
  | case4 m l _ frame rest hn m' _ ih => exact ih.trans (next_lt hn).le

/-- A failure that one more element brings about comes without events. -/
theorem read_snoc_failed {a : α} (hn : C.delimiter.next l = none)
    (he : (C.read m (l ++ [a])).error = some e) : (C.read m (l ++ [a])).events = [] := by
  generalize htext : l ++ [a] = text at he
  fun_cases C.read m text with
  | case1 | case2 | case3 => rfl
  | case4 hf frame rest hn' m' hc =>
    obtain rfl := next_snoc hn (htext ▸ hn')
    rw [read_ok (by simpa using hf) hn' hc, read_none rfl] at he
    cases he

/-- Frames do not look at the queue. -/
structure Queues (C : Consumer α ε η μ) : Prop where
  consume : ∀ xs frame, Commutes (C.queued xs) (C.consume frame)
  finished : ∀ xs m, C.finished (C.queued xs m) = C.finished m

theorem pending_read (m : μ) (l : List α) (hm : C.pending m = []) (h : (C.read m l).error = none) :
    C.pending (C.read m l).object.1 = [] := by
  fun_induction C.read m l with
  | case1 | case2 => exact hm
  | case3 => cases h
  | case4 m l _ frame rest _ m' _ ih => exact ih (C.pending_put [] m') h

end Consumer

/-! ### A buffer with a consumer -/

/-- A frame buffer and the object its frames go to. -/
structure Intake (α μ : Type) where
  frames : FrameBuffer α := {}
  machine : μ

namespace Intake

/-- The text that was not read yet. -/
def remaining (s : Intake α μ) : ℕ := s.frames.buffer.length - s.frames.consumed

/-- The intake after a frame was taken and consumed with this result. -/
def advanced (D : Delimiter α) (s : Intake α μ) (machine : μ) : Intake α μ :=
  ⟨(s.frames.takeFrame D).2, machine⟩

theorem remaining_advanced {D : Delimiter α} {s : Intake α μ} {frame : List α} (machine : μ)
    (h : (s.frames.takeFrame D).1 = some frame) :
    (s.advanced D machine).remaining < s.remaining := by
  obtain ⟨offset, heq, h₁, h₂⟩ := takeFrame_some h
  unfold remaining advanced
  rw [heq]
  simp only
  omega

/-- Takes and consumes frames as long as the object wants more. -/
def run (C : Consumer α ε η μ) (more : μ → Bool) (s : Intake α μ) : Except ε Unit × Intake α μ :=
  if more s.machine then
    match _h : (s.frames.takeFrame C.delimiter).1 with
    | none => (.ok (), s.advanced C.delimiter s.machine)
    | some frame =>
      match (C.consume frame).call s.machine with
      | (.error e, machine) => (.error e, s.advanced C.delimiter machine)
      | (.ok (), machine) => run C more (s.advanced C.delimiter machine)
  else (.ok (), s)
termination_by s.remaining
decreasing_by exact remaining_advanced _ _h

variable {C : Consumer α ε η μ} {more : μ → Bool} {s s' : Intake α μ}

theorem run_stop (h : more s.machine = false) : s.run C more = (.ok (), s) := by
  rw [run, if_neg (by simp [h])]

theorem run_none (hm : more s.machine = true) (h : (s.frames.takeFrame C.delimiter).1 = none) :
    s.run C more = (.ok (), s.advanced C.delimiter s.machine) := by
  rw [run, if_pos hm]
  split <;> simp_all

theorem run_some {frame : List α} (hm : more s.machine = true)
    (h : (s.frames.takeFrame C.delimiter).1 = some frame) :
    s.run C more =
      match (C.consume frame).call s.machine with
      | (.error e, machine) => (.error e, s.advanced C.delimiter machine)
      | (.ok (), machine) => (s.advanced C.delimiter machine).run C more := by
  rw [run, if_pos hm]
  split
  · rename_i h'
    rw [h] at h'
    cases h'
  · rename_i h'
    cases h.symm.trans h'
    rfl

theorem run_keeps {P : FrameBuffer α → Prop} (hP : ∀ b, P b → P (takeFrame C.delimiter b).2)
    (s : Intake α μ) (h : P s.frames) : P (s.run C more).2.frames := by
  fun_induction s.run C more with
  | case1 | case2 => exact hP _ h
  | case3 s _ frame _ machine _ ih => exact ih (hP _ h)
  | case4 => exact h

/-- An intake between two chunks: nothing is queued and nothing can be read. -/
structure Idle (C : Consumer α ε η μ) (s : Intake α μ) : Prop where
  sound : Sound C.delimiter s.frames
  pending : C.pending s.machine = []
  stopped : C.finished s.machine = true ∨ C.delimiter.next s.frames.live = none

theorem Idle.drained (h : Idle C s) :
    C.read s.machine s.frames.live = { object := (s.machine, s.frames.live) } := by
  rcases h.stopped with hf | hn
  · exact Consumer.read_finished hf _
  · exact Consumer.read_none hn

theorem idle_new {m : μ} (h : C.pending m = []) : Idle C { machine := m } := by
  refine ⟨sound_empty, h, .inr ?_⟩
  simp [next, live, scan]

/-- An intake with a chunk appended to its live part. -/
def extended (s : Intake α μ) (chunk : List α) : Intake α μ :=
  { s with frames := { s.frames.compact with buffer := s.frames.compact.buffer ++ chunk } }

theorem live_extended (h : Idle C s) (chunk : List α) :
    (s.extended chunk).frames.live = s.frames.live ++ chunk := live_append h.sound

theorem sound_extended (h : Idle C s) (chunk : List α) :
    Sound C.delimiter (s.extended chunk).frames := sound_extend (sound_compact h.sound) chunk

def result (r : Reading η ε σ) : Except ε Unit :=
  match r.error with
  | some e => .error e
  | none => .ok ()

theorem result_ok {r : Reading η ε σ} {u : Unit} : result r = .ok u ↔ r.error = none := by
  unfold result
  split <;> simp_all

theorem result_error {r : Reading η ε σ} {e : ε} : result r = .error e ↔ r.error = some e := by
  unfold result
  split <;> simp_all

/-- **A run reads the live part** and queues all its events. -/
theorem run_read (hQ : C.Queues) (m : μ) (xs : List η)
    (b : FrameBuffer α) (hs : Sound C.delimiter b) :
    (run C (fun m => !C.finished m) ⟨b, C.queued xs m⟩).1 = result (C.read m b.live) ∧
      (run C (fun m => !C.finished m) ⟨b, C.queued xs m⟩).2.machine =
        C.queued (xs ++ (C.read m b.live).events) (C.read m b.live).object.1 ∧
      (run C (fun m => !C.finished m) ⟨b, C.queued xs m⟩).2.frames.live =
        (C.read m b.live).object.2 := by
  rcases hf : C.finished m with _ | _
  · have hmore : (!C.finished (C.queued xs m)) = true := by rw [hQ.finished, hf]; rfl
    obtain ⟨hframe, hlive⟩ := takeFrame_spec hs
    rcases hn : C.delimiter.next b.live with _ | ⟨frame, rest⟩
    · rw [hn] at hframe hlive
      rw [run_none (s := ⟨b, C.queued xs m⟩) hmore hframe, Consumer.read_none hn, List.append_nil]
      exact ⟨rfl, rfl, hlive⟩
    · rw [hn] at hframe hlive
      have hlt : (b.takeFrame C.delimiter).2.live.length < b.live.length := by
        rw [hlive]
        exact next_lt hn
      have hcons := hQ.consume xs frame m
      rcases hc : (C.consume frame).call m with ⟨e | _, m'⟩
      · rw [hc] at hcons
        rw [run_some (s := ⟨b, C.queued xs m⟩) hmore hframe, hcons, Consumer.read_failed hf hn hc,
          List.append_nil]
        exact ⟨rfl, rfl, hlive⟩
      · rw [hc, ← C.queued_clear m', C.queued_queued] at hcons
        have ih := run_read hQ (C.clear m') (xs ++ C.pending m') (b.takeFrame C.delimiter).2
          (sound_takeFrame hs)
        have hrest : (b.takeFrame C.delimiter).2.live = rest := hlive
        rw [hrest, List.append_assoc] at ih
        rw [run_some (s := ⟨b, C.queued xs m⟩) hmore hframe, hcons, Consumer.read_ok hf hn hc]
        exact ih
  · have hmore : (!C.finished (C.queued xs m)) = false := by rw [hQ.finished, hf]; rfl
    rw [run_stop (s := ⟨b, C.queued xs m⟩) hmore, Consumer.read_finished hf, List.append_nil]
    exact ⟨rfl, rfl, rfl⟩
termination_by b.live.length

end Intake

end CpaGateway.Lib.Feed
