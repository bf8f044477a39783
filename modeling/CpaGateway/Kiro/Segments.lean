import CpaGateway.Kiro.EventStream

/-! # Segments of a byte stream

What the bytes of a body are made of does not depend on how they arrive: `segments` cuts them into
good frames, bad frames and runs of garbage up to the next valid prelude. How often the decoder
reports a run of garbage does depend on it, since the decoder only looks at the bytes it holds: at
least once for every `maxFrameBytes` bytes of the run and at most once for every byte. -/

namespace CpaGateway.Kiro.Segments

open Kiro.EventStream
open KiroEventStreamDecoder (nextPrelude decodeBody nextFrame)

/-! ### Driving the decoder -/

/-- What a reader gets from the decoder. -/
abbrev Results := List (Except KiroEventStreamError KiroEventStreamFrame)

/-- Call `nextFrame` until it waits for bytes or the decoder is stopped; at most `fuel` calls. -/
def drainLoop : ℕ → KiroEventStreamDecoder → Results × KiroEventStreamDecoder
  | 0, d => ([], d)
  | fuel + 1, d =>
    if d.stopped then ([], d)
    else
      match d.nextFrame with
      | (.ok none, d) => ([], d)
      | (.ok (some frame), d) =>
        let (results, d) := drainLoop fuel d
        (.ok frame :: results, d)
      | (.error error, d) =>
        let (results, d) := drainLoop fuel d
        (.error error :: results, d)

/-- Every call but the last takes a byte or stops the decoder, so the buffer bounds the calls. -/
def drain (d : KiroEventStreamDecoder) : Results × KiroEventStreamDecoder :=
  drainLoop (d.buffer.length + 1) d

/-- Feed the chunks one after the other and drain the decoder after each, until it is stopped. -/
def runChunks : KiroEventStreamDecoder → List (List UInt8) → Results × KiroEventStreamDecoder
  | d, [] => ([], d)
  | d, chunk :: chunks =>
    if d.stopped then ([], d)
    else
      match d.feed chunk with
      | (.error error, d) => ([.error error], d)
      | (.ok (), d) =>
        let (results, d) := drain d
        let (later, d) := runChunks d chunks
        (results ++ later, d)

/-- The decoded frames among the results. -/
def framesOf (results : Results) : List KiroEventStreamFrame :=
  results.filterMap Except.toOption

/-- The number of failures among the results. -/
def failuresOf (results : Results) : ℕ :=
  (results.filter fun r => !r.isOk).length

/-! ### Segments -/

/-- One piece of a body. -/
inductive Segment
  | good (frame : KiroEventStreamFrame)
  | bad
  | garbage (length : ℕ)

/-- A prelude parses at offset `i`. -/
def ValidAt (T : List UInt8) (i : ℕ) : Prop :=
  (parsePrelude ((T.drop i).take preludeBytes)).isOk = true

/-- How far the decoder skips when the prelude at the front does not parse. -/
def skip (T : List UInt8) : ℕ :=
  (nextPrelude T).getD (T.length - (preludeBytes - 1))

/-- The first segment and its length, once all its bytes are there. -/
def head (T : List UInt8) : Option (Segment × ℕ) :=
  if T.length < preludeBytes then none
  else
    match parsePrelude (T.take preludeBytes) with
    | .error _ => some (.garbage (skip T), skip T)
    | .ok p =>
      if T.length < p.totalLength then none
      else
        match decodeBody p T with
        | .ok frame => some (.good frame, p.totalLength)
        | .error _ => some (.bad, p.totalLength)

theorem parsePrelude_ok {bytes : List UInt8} {p : Prelude} (h : parsePrelude bytes = .ok p) :
    minFrameBytes ≤ p.totalLength ∧ p.totalLength ≤ maxFrameBytes ∧
      p.headersLength ≤ p.totalLength - minFrameBytes := by
  unfold parsePrelude at h
  simp only at h
  split_ifs at h with h1 h2 h3
  cases h
  exact ⟨h1.1, h1.2, not_lt.mp h2⟩

variable {n : ℕ}

theorem nextPrelude_some {T : List UInt8} (h : nextPrelude T = some n) :
    1 ≤ n ∧ n + preludeBytes ≤ T.length ∧ ValidAt T n ∧ ∀ i, 1 ≤ i → i < n → ¬ ValidAt T i := by
  unfold nextPrelude at h
  rw [List.find?_range'_eq_some] at h
  obtain ⟨hv, hmem, hno⟩ := h
  rw [List.mem_range'_1] at hmem
  exact ⟨hmem.1, by omega, hv, fun i hi hin => by simpa [ValidAt] using hno i hi hin⟩

theorem nextPrelude_none {T : List UInt8} (h : nextPrelude T = none) :
    ∀ i, 1 ≤ i → i + preludeBytes ≤ T.length → ¬ ValidAt T i := by
  intro i hi hlen
  unfold nextPrelude at h
  rw [List.find?_range'_eq_none] at h
  have := h i hi (by omega)
  simpa [ValidAt] using this

/-! ### More bytes behind -/

variable {T b R : List UInt8}

theorem validAt_append {i : ℕ} (h : i + preludeBytes ≤ b.length) :
    ValidAt (b ++ R) i ↔ ValidAt b i := by
  unfold ValidAt
  rw [List.drop_append_of_le_length (by omega), List.take_append_of_le_length (by simp; omega)]

theorem skip_pos (h : preludeBytes ≤ T.length) : 1 ≤ skip T := by
  unfold skip
  cases hn : nextPrelude T with
  | none => simp only [Option.getD_none, preludeBytes] at *; omega
  | some n => exact (nextPrelude_some hn).1

theorem skip_le (h : preludeBytes ≤ T.length) : skip T + (preludeBytes - 1) ≤ T.length := by
  unfold skip
  cases hn : nextPrelude T with
  | none => simp only [Option.getD_none] at *; omega
  | some n =>
    have := (nextPrelude_some hn).2.1
    simp only [Option.getD_some] at *
    omega

theorem not_validAt_of_lt_skip {i : ℕ} (hi : 1 ≤ i) (hs : i < skip T)
    (hlen : preludeBytes ≤ T.length) : ¬ ValidAt T i := by
  have hle := skip_le hlen
  unfold skip at hs hle
  cases hn : nextPrelude T with
  | none =>
    rw [hn] at hs hle
    simp only [preludeBytes] at hs hle hlen
    exact nextPrelude_none hn i hi (by unfold preludeBytes; omega)
  | some n =>
    rw [hn] at hs
    exact (nextPrelude_some hn).2.2.2 i hi (by simpa using hs)

theorem skip_end (hlen : preludeBytes ≤ T.length) :
    (skip T + preludeBytes ≤ T.length ∧ ValidAt T (skip T)) ∨
      skip T + (preludeBytes - 1) = T.length := by
  unfold skip
  cases hn : nextPrelude T with
  | none =>
    simp only [Option.getD_none] at *
    omega
  | some n => exact Or.inl ⟨(nextPrelude_some hn).2.1, (nextPrelude_some hn).2.2.1⟩

theorem skip_unique (hn : 1 ≤ n) (hlen : preludeBytes ≤ T.length)
    (hno : ∀ i, 1 ≤ i → i < n → ¬ ValidAt T i)
    (hend : (n + preludeBytes ≤ T.length ∧ ValidAt T n) ∨ n + (preludeBytes - 1) = T.length) :
    skip T = n := by
  have hle := skip_le hlen
  have hpos := skip_pos hlen
  rcases Nat.lt_trichotomy (skip T) n with h | h | h
  · rcases skip_end hlen with ⟨-, hv⟩ | he
    · exact absurd hv (hno _ hpos h)
    · rcases hend with ⟨hb, -⟩ | hb <;> simp only [preludeBytes] at * <;> omega
  · exact h
  · rcases hend with ⟨-, hv⟩ | hb
    · exact absurd hv (not_validAt_of_lt_skip hn h hlen)
    · omega

/-- With more bytes the garbage only gets longer, and not past a prelude already found. -/
theorem skip_append (hlen : preludeBytes ≤ b.length) : skip (b ++ R) = skip b ∨
      (skip b + (preludeBytes - 1) = b.length ∧ skip b ≤ skip (b ++ R)) := by
  have hlen' : preludeBytes ≤ (b ++ R).length := by simp; omega
  rcases skip_end hlen with ⟨hb, hv⟩ | hb
  · left
    refine skip_unique (skip_pos hlen) hlen' (fun i hi hin => ?_) (Or.inl ⟨by simp; omega, ?_⟩)
    · rw [validAt_append (by omega)]
      exact not_validAt_of_lt_skip hi hin hlen
    · rwa [validAt_append hb]
  · right
    by_contra hlt
    rcases skip_end hlen' with ⟨hb', hv'⟩ | hb'
    · have hin : skip (b ++ R) + preludeBytes ≤ b.length := by simp only [preludeBytes] at *; omega
      rw [validAt_append hin] at hv'
      exact not_validAt_of_lt_skip (skip_pos hlen') (by omega) hlen hv'
    · simp only [List.length_append] at hb'
      omega

variable {k : ℕ}

theorem skip_drop (hlen : preludeBytes ≤ T.length) (hk : k < skip T) :
    preludeBytes ≤ (T.drop k).length ∧ skip (T.drop k) = skip T - k := by
  have hle := skip_le hlen
  have hlen' : preludeBytes ≤ (T.drop k).length := by
    simp only [List.length_drop] at *; omega
  have hv : ∀ i, ValidAt (T.drop k) i ↔ ValidAt T (k + i) := by
    intro i
    unfold ValidAt
    rw [List.drop_drop]
  refine ⟨hlen', skip_unique (by omega) hlen' (fun i hi hin => ?_) ?_⟩
  · rw [hv]
    exact not_validAt_of_lt_skip (by omega) (by omega) hlen
  · rw [hv, Nat.add_sub_cancel' hk.le, List.length_drop]
    rcases skip_end hlen with ⟨hb, hv⟩ | hb
    · exact Or.inl ⟨by omega, hv⟩
    · exact Or.inr (by omega)

theorem decodeBody_append {p : Prelude} (hp : minFrameBytes ≤ p.totalLength)
    (hh : p.headersLength ≤ p.totalLength - minFrameBytes) (hlen : p.totalLength ≤ b.length) :
    decodeBody p (b ++ R) = decodeBody p b := by
  simp only [minFrameBytes, preludeBytes] at hp hh
  have hread : readU32 ((b ++ R).drop (p.totalLength - messageCrcBytes)) =
      readU32 (b.drop (p.totalLength - messageCrcBytes)) := by
    unfold readU32 messageCrcBytes
    rw [List.drop_append_of_le_length (by omega),
      List.take_append_of_le_length (by simp; omega)]
  unfold decodeBody
  simp only [hread]
  rw [List.take_append_of_le_length (by unfold messageCrcBytes; omega),
    List.take_append_of_le_length (by unfold preludeBytes; omega)]

/-- **The first segment**, by what stands at the front. -/
theorem head_cases (T : List UInt8) : (head T = none ∧ (T.length < preludeBytes ∨
      ∃ p, parsePrelude (T.take preludeBytes) = .ok p ∧ T.length < p.totalLength)) ∨
    (∃ e, preludeBytes ≤ T.length ∧ parsePrelude (T.take preludeBytes) = .error e ∧
      head T = some (.garbage (skip T), skip T)) ∨
    ∃ p, preludeBytes ≤ T.length ∧ parsePrelude (T.take preludeBytes) = .ok p ∧
      p.totalLength ≤ T.length ∧
      ((∃ f, decodeBody p T = .ok f ∧
          head T = some (.good f, p.totalLength)) ∨
        ∃ e, decodeBody p T = .error e ∧
          head T = some (.bad, p.totalLength)) := by
  unfold head
  split_ifs with hlen
  · exact Or.inl ⟨rfl, Or.inl hlen⟩
  push Not at hlen
  cases hp : parsePrelude (T.take preludeBytes) with
  | error e => exact Or.inr (Or.inl ⟨e, hlen, rfl, rfl⟩)
  | ok p =>
    by_cases htot : T.length < p.totalLength
    · exact Or.inl ⟨if_pos htot, Or.inr ⟨p, rfl, htot⟩⟩
    · refine Or.inr (Or.inr ⟨p, hlen, rfl, not_lt.mp htot, ?_⟩)
      simp only [if_neg htot]
      cases decodeBody p T with
      | ok f => exact Or.inl ⟨f, rfl, rfl⟩
      | error e => exact Or.inr ⟨e, rfl, rfl⟩

theorem short_of_head_none (h : head T = none) : T.length < preludeBytes ∨
    ∃ p, parsePrelude (T.take preludeBytes) = .ok p ∧ T.length < p.totalLength := by
  rcases head_cases T with ⟨-, h'⟩ | ⟨e, -, -, hh⟩ | ⟨p, -, -, -, ⟨f, -, hh⟩ | ⟨e, -, hh⟩⟩
  · exact h'
  all_goals simp [hh] at h

theorem head_none_length (h : head T = none) : T.length < maxFrameBytes := by
  rcases short_of_head_none h with hs | ⟨p, hp, hs⟩
  · simp only [preludeBytes, maxFrameBytes] at *; omega
  · exact hs.trans_le (parsePrelude_ok hp).2.1

variable {g : Segment}

theorem head_bounds (h : head T = some (g, n)) : 1 ≤ n ∧ n ≤ T.length := by
  rcases head_cases T with ⟨hn, -⟩ | ⟨e, hlen, -, hh⟩ | ⟨p, -, hp, htot, ⟨f, -, hh⟩ | ⟨e, -, hh⟩⟩
  · simp [hn] at h
  · obtain ⟨rfl, rfl⟩ : Segment.garbage (skip T) = g ∧ skip T = n := by simpa [hh] using h
    exact ⟨skip_pos hlen, le_trans (Nat.le_add_right _ _) (skip_le hlen)⟩
  · obtain ⟨-, rfl⟩ : Segment.good f = g ∧ p.totalLength = n := by simpa [hh] using h
    have := (parsePrelude_ok hp).1
    exact ⟨by simp only [minFrameBytes, preludeBytes] at this; omega, htot⟩
  · obtain ⟨-, rfl⟩ : Segment.bad = g ∧ p.totalLength = n := by simpa [hh] using h
    have := (parsePrelude_ok hp).1
    exact ⟨by simp only [minFrameBytes, preludeBytes] at this; omega, htot⟩

/-- The segments of the bytes, and what is left behind the last one. -/
def scan (T : List UInt8) : List Segment × List UInt8 :=
  match _h : head T with
  | none => ([], T)
  | some (g, n) =>
    let (later, rest) := scan (T.drop n)
    (g :: later, rest)
termination_by T.length
decreasing_by
  have := head_bounds _h
  simp only [List.length_drop]
  omega

def segments (T : List UInt8) : List Segment := (scan T).1

def residue (T : List UInt8) : List UInt8 := (scan T).2

theorem segments_none (h : head T = none) : segments T = [] := by
  unfold segments; rw [scan]; split <;> simp_all

theorem residue_none (h : head T = none) : residue T = T := by
  unfold residue; rw [scan]; split <;> simp_all

theorem segments_some (h : head T = some (g, n)) : segments T = g :: segments (T.drop n) := by
  unfold segments; rw [scan]; split <;> simp_all

theorem residue_some (h : head T = some (g, n)) : residue T = residue (T.drop n) := by
  unfold residue; rw [scan]; split <;> simp_all

theorem head_frame_iff (hg : ∀ k, g ≠ .garbage k) : head T = some (g, n) ↔
    ∃ p, preludeBytes ≤ T.length ∧ parsePrelude (T.take preludeBytes) = .ok p ∧ p.totalLength = n ∧
      n ≤ T.length ∧ (match decodeBody p T with | .ok f => .good f | .error _ => .bad) = g := by
  constructor
  · intro h
    rcases head_cases T with
      ⟨hn, -⟩ | ⟨e, -, -, hh⟩ | ⟨p, hlen, hp, htot, ⟨f, hd, hh⟩ | ⟨e, hd, hh⟩⟩
    · simp [hn] at h
    · cases hh.symm.trans h
      exact absurd rfl (hg _)
    all_goals
      cases hh.symm.trans h
      exact ⟨p, hlen, hp, rfl, htot, by rw [hd]⟩
  · rintro ⟨p, hlen, hp, rfl, htot, rfl⟩
    unfold head
    rw [if_neg (not_lt.mpr hlen), hp]
    simp only [if_neg (not_lt.mpr htot)]
    cases decodeBody p T <;> rfl

theorem head_append_frame (h : head b = some (g, n))
    (hg : ∀ k, g ≠ .garbage k) : head (b ++ R) = some (g, n) := by
  obtain ⟨p, hlen, hp, rfl, htot, hbody⟩ := (head_frame_iff hg).mp h
  obtain ⟨h1, -, h3⟩ := parsePrelude_ok hp
  refine (head_frame_iff hg).mpr
    ⟨p, by simp; omega, by rw [List.take_append_of_le_length hlen, hp], rfl, by simp; omega, ?_⟩
  rwa [decodeBody_append h1 h3 htot]

theorem head_garbage_append (h : head b = some (.garbage k, n)) :
    preludeBytes ≤ b.length ∧ k = skip b ∧ n = skip b ∧
      head (b ++ R) = some (.garbage (skip (b ++ R)), skip (b ++ R)) := by
  rcases head_cases b with ⟨hn, -⟩ | ⟨e, hlen, hp, hh⟩ | ⟨p, -, -, -, ⟨f, -, hh⟩ | ⟨e, -, hh⟩⟩
  · simp [hn] at h
  · obtain ⟨rfl, rfl⟩ : skip b = k ∧ skip b = n := by simpa [hh] using h
    refine ⟨hlen, rfl, rfl, ?_⟩
    unfold head
    rw [if_neg (by simp; omega), List.take_append_of_le_length hlen, hp]
  · simp [hh] at h
  · simp [hh] at h

theorem head_drop_garbage {m : ℕ} (h : head T = some (.garbage m, n)) (hk : 1 ≤ k) (hkn : k < n) :
    head (T.drop k) = some (.garbage (n - k), n - k) := by
  obtain ⟨hlen, -, rfl, -⟩ := head_garbage_append (R := []) h
  obtain ⟨hlen', hskip⟩ := skip_drop hlen hkn
  have hv := not_validAt_of_lt_skip hk hkn hlen
  unfold ValidAt at hv
  rw [← hskip]
  rcases head_cases (T.drop k) with ⟨-, hshort | ⟨p, hp, -⟩⟩ | ⟨e, -, -, hh⟩ | ⟨p, -, hp, -, -⟩
  · omega
  · simp [hp, Except.toBool] at hv
  · exact hh
  · simp [hp, Except.toBool] at hv

/-! ### What a reader gets -/

/-- How often a segment is reported as a failure when `m` bytes of garbage are skipped at a time. -/
def reports (m : ℕ) : Segment → ℕ
  | .good _ => 0
  | .bad => 1
  | .garbage n => (n + (m - 1)) / m

/-- The frames, the number of reported failures, and whether the decoder stopped. -/
@[ext]
structure Delivered where
  frames : List KiroEventStreamFrame
  failures : ℕ
  stopped : Bool

/-- Results that come before others. -/
def Delivered.after (r : Delivered) (frames : List KiroEventStreamFrame) (failures : ℕ) :
    Delivered :=
  { r with frames := frames ++ r.frames, failures := failures + r.failures }

/-- What the segments deliver when each is reported as often as given: a frame resets the count of
failures in a row, and the fifth one stops the decoder. -/
def deliver : ℕ → List (Segment × ℕ) → Delivered
  | _, [] => ⟨[], 0, false⟩
  | _, (.good frame, _) :: later => (deliver 0 later).after [frame] 0
  | c, (.bad, k) :: later | c, (.garbage _, k) :: later =>
    if c + k ≥ maxConsecutiveErrors then ⟨[], maxConsecutiveErrors - c, true⟩
    else (deliver (c + k) later).after [] k

/-- Every segment is reported a possible number of times. -/
def Within (gs : List Segment) (ks : List (Segment × ℕ)) : Prop :=
  List.Forall₂ (fun g k => k.1 = g ∧ reports maxFrameBytes g ≤ k.2 ∧ k.2 ≤ reports 1 g) gs ks

theorem reports_le (g : Segment) : reports maxFrameBytes g ≤ reports 1 g := by
  cases g with
  | good f => exact le_rfl
  | bad => exact le_rfl
  | garbage n =>
    simp only [reports, maxFrameBytes]
    omega

theorem within_cons {gs gs' : List Segment} {ks : List (Segment × ℕ)}
    (heq : gs = g :: gs') (hlo : reports maxFrameBytes g ≤ k) (hhi : k ≤ reports 1 g)
    (h : Within gs' ks) : Within gs ((g, k) :: ks) := heq ▸ List.Forall₂.cons ⟨rfl, hlo, hhi⟩ h

theorem within_most (gs : List Segment) : Within gs (gs.map fun g => (g, reports 1 g)) := by
  induction gs with
  | nil => exact .nil
  | cons g gs ih => exact within_cons rfl (reports_le g) le_rfl ih

/-- The decoder gave `results` and went on as `d'`: whatever the rest delivers comes after them. -/
def Pulls (d : KiroEventStreamDecoder) (results : Results) (d' : KiroEventStreamDecoder) : Prop :=
  ∀ R, residue (d.buffer ++ R) = residue (d'.buffer ++ R) ∧
    ∀ ks', Within (segments (d'.buffer ++ R)) ks' → ∃ ks, Within (segments (d.buffer ++ R)) ks ∧
      deliver d.consecutiveErrors ks =
        (deliver d'.consecutiveErrors ks').after (framesOf results) (failuresOf results)

/-- The decoder gave `results` and stopped. -/
def Ends (d : KiroEventStreamDecoder) (results : Results) : Prop :=
  ∀ R, ∃ ks, Within (segments (d.buffer ++ R)) ks ∧
    deliver d.consecutiveErrors ks = ⟨framesOf results, failuresOf results, true⟩

/-- At most one chunk lies behind the first segment of the buffer. -/
def Bounded (b : List UInt8) : Prop :=
  b.length ≤ maxFrameBytes + (preludeBytes - 1) ∨
    ∃ g n, head b = some (g, n) ∧ (∀ k, g ≠ .garbage k) ∧ b.length ≤ n + maxFrameBytes

/-- A decoder that was fed chunks of a permitted size and has not stopped. -/
structure Live (d : KiroEventStreamDecoder) : Prop where
  running : d.stopped = false
  few : d.consecutiveErrors < maxConsecutiveErrors
  bounded : Bounded d.buffer

@[simp] theorem after_after (r : Delivered) (fs fs' : List KiroEventStreamFrame) (n n' : ℕ) :
    (r.after fs n).after fs' n' = r.after (fs' ++ fs) (n' + n) := by
  simp [Delivered.after, Nat.add_assoc]

@[simp] theorem framesOf_nil : framesOf [] = [] := rfl

@[simp] theorem failuresOf_nil : failuresOf [] = 0 := rfl

@[simp] theorem framesOf_error (e : KiroEventStreamError) : framesOf [.error e] = [] := rfl

@[simp] theorem failuresOf_error (e : KiroEventStreamError) : failuresOf [.error e] = 1 := rfl

variable {r r' : Results}

theorem framesOf_append : framesOf (r ++ r') = framesOf r ++ framesOf r' := List.filterMap_append

theorem failuresOf_append :
    failuresOf (r ++ r') = failuresOf r + failuresOf r' := by simp [failuresOf]

theorem Pulls.refl (d : KiroEventStreamDecoder) : Pulls d [] d :=
  fun _ => ⟨rfl, fun ks' h => ⟨ks', h, by simp [Delivered.after]⟩⟩

variable {d d' : KiroEventStreamDecoder}

theorem Pulls.trans {d'' : KiroEventStreamDecoder} (h : Pulls d r d')
    (h' : Pulls d' r' d'') : Pulls d (r ++ r') d'' := by
  intro R
  refine ⟨(h R).1.trans (h' R).1, fun ks'' hk'' => ?_⟩
  obtain ⟨ks', hk', he'⟩ := (h' R).2 ks'' hk''
  obtain ⟨ks, hk, he⟩ := (h R).2 ks' hk'
  exact ⟨ks, hk, by rw [he, he', after_after, framesOf_append, failuresOf_append]⟩

theorem Pulls.ends (h : Pulls d r d') (h' : Ends d' r') : Ends d (r ++ r') := by
  intro R
  obtain ⟨ks', hk', he'⟩ := h' R
  obtain ⟨ks, hk, he⟩ := (h R).2 ks' hk'
  exact ⟨ks, hk, by rw [he, he', framesOf_append, failuresOf_append]; rfl⟩

/-! ### One call of the decoder -/

variable {f : KiroEventStreamFrame} {e : KiroEventStreamError}

section NextFrame

theorem nextFrame_none (hd : d.stopped = false) (h : head d.buffer = none) :
    d.nextFrame = (.ok none, d) := by
  unfold nextFrame
  rw [if_neg (by simp [hd])]
  rcases short_of_head_none h with hs | ⟨p, hp, htot⟩
  · rw [if_pos hs]
  · split_ifs with hlen
    · rfl
    · simp [hp, if_pos htot]

variable {n : ℕ}

theorem nextFrame_good (hd : d.stopped = false) (h : head d.buffer = some (.good f, n)) :
    d.nextFrame = (.ok (some f), { d.discard n with consecutiveErrors := 0 }) := by
  unfold nextFrame
  rcases head_cases d.buffer with
    ⟨hn, -⟩ | ⟨e, -, -, hh⟩ | ⟨p, hlen, hp, htot, ⟨f', hb, hh⟩ | ⟨e, -, hh⟩⟩
  · simp [hn] at h
  · simp [hh] at h
  · obtain ⟨rfl, rfl⟩ : f' = f ∧ p.totalLength = n := by simpa [hh] using h
    rw [if_neg (by simp [hd]), if_neg (not_lt.mpr hlen), hp]
    simp [if_neg (not_lt.mpr htot), hb]
  · simp [hh] at h

theorem nextFrame_fail (hd : d.stopped = false) (h : head d.buffer = some (g, n))
    (hg : ∀ f, g ≠ .good f) :
    ∃ e, d.nextFrame = (.error ((d.discard n).recover e).1, ((d.discard n).recover e).2) := by
  unfold nextFrame
  rcases head_cases d.buffer with
    ⟨hn, -⟩ | ⟨e, hlen, hp, hh⟩ | ⟨p, hlen, hp, htot, ⟨f', hb, hh⟩ | ⟨e, hb, hh⟩⟩
  · simp [hn] at h
  · obtain ⟨rfl, rfl⟩ : Segment.garbage (skip d.buffer) = g ∧ skip d.buffer = n := by
      simpa [hh] using h
    refine ⟨e, ?_⟩
    rw [if_neg (by simp [hd]), if_neg (not_lt.mpr hlen), hp]
    rfl
  · obtain ⟨rfl, rfl⟩ : Segment.good f' = g ∧ p.totalLength = n := by simpa [hh] using h
    exact absurd rfl (hg f')
  · obtain ⟨rfl, rfl⟩ : Segment.bad = g ∧ p.totalLength = n := by simpa [hh] using h
    refine ⟨e, ?_⟩
    rw [if_neg (by simp [hd]), if_neg (not_lt.mpr hlen), hp]
    simp [if_neg (not_lt.mpr htot), hb]

theorem discard_shorter (h : head d.buffer = some (g, n)) :
    (d.discard n).buffer.length < d.buffer.length := by
  have := head_bounds h
  simp only [KiroEventStreamDecoder.discard, List.length_drop]
  omega

theorem pulls_good (h : head d.buffer = some (.good f, n)) :
    Pulls d [.ok f] { d.discard n with consecutiveErrors := 0 } := by
  intro R
  have hle := (head_bounds h).2
  have hT := head_append_frame (R := R) h (by simp)
  have hseg : segments (d.buffer ++ R) = .good f :: segments (d.buffer.drop n ++ R) := by
    rw [segments_some hT, List.drop_append_of_le_length hle]
  refine ⟨by rw [residue_some hT, List.drop_append_of_le_length hle]; rfl, fun ks' hk => ?_⟩
  exact ⟨(.good f, 0) :: ks', within_cons hseg le_rfl le_rfl hk, rfl⟩

theorem pulls_bad (h : head d.buffer = some (.bad, n))
    (hfew : d.consecutiveErrors + 1 < maxConsecutiveErrors) :
    Pulls d [.error e] { d.discard n with consecutiveErrors := d.consecutiveErrors + 1 } := by
  intro R
  have hle := (head_bounds h).2
  have hT := head_append_frame (R := R) h (by simp)
  have hseg : segments (d.buffer ++ R) = .bad :: segments (d.buffer.drop n ++ R) := by
    rw [segments_some hT, List.drop_append_of_le_length hle]
  refine ⟨by rw [residue_some hT, List.drop_append_of_le_length hle]; rfl, fun ks' hk => ?_⟩
  refine ⟨(.bad, 1) :: ks', within_cons hseg le_rfl le_rfl hk, ?_⟩
  simp only [deliver, if_neg (not_le.mpr hfew)]
  rfl

/-- A skip inside a run of garbage is one of the reports of the run. -/
theorem pulls_garbage (hb : Bounded d.buffer)
    (h : head d.buffer = some (.garbage k, n))
    (hfew : d.consecutiveErrors + 1 < maxConsecutiveErrors) :
    Pulls d [.error e] { d.discard n with consecutiveErrors := d.consecutiveErrors + 1 } := by
  intro R
  obtain ⟨hlen, rfl, rfl, hT⟩ := head_garbage_append (R := R) h
  have hle := (head_bounds h).2
  have hshort : skip d.buffer ≤ maxFrameBytes := by
    have := skip_le hlen
    rcases hb with hb | ⟨g, m, hg, hno, -⟩
    · simp only [preludeBytes] at *; omega
    · rw [h] at hg
      cases hg
      exact absurd rfl (hno _)
  have hpos := skip_pos hlen
  have hmono : skip d.buffer ≤ skip (d.buffer ++ R) := by
    rcases skip_append (R := R) hlen with h | ⟨-, h⟩ <;> omega
  rcases Nat.eq_or_lt_of_le hmono with heq | hlt
  · -- the run ends here
    rw [← heq] at hT
    have hseg : segments (d.buffer ++ R) =
        .garbage (skip d.buffer) :: segments (d.buffer.drop (skip d.buffer) ++ R) := by
      rw [segments_some hT, List.drop_append_of_le_length hle]
    refine ⟨by rw [residue_some hT, List.drop_append_of_le_length hle]; rfl, fun ks' hk => ?_⟩
    have hlo : reports maxFrameBytes (.garbage (skip d.buffer)) ≤ 1 := by
      simp only [reports, maxFrameBytes] at *; omega
    have hhi : 1 ≤ reports 1 (.garbage (skip d.buffer)) := by simp only [reports]; omega
    refine ⟨(.garbage _, 1) :: ks', within_cons hseg hlo hhi hk, ?_⟩
    simp only [deliver, if_neg (not_le.mpr hfew)]
    rfl
  · -- the run goes on behind the bytes of the buffer
    have hrest := head_drop_garbage hT hpos hlt
    rw [List.drop_append_of_le_length hle] at hrest
    have hseg : segments (d.buffer ++ R) = .garbage (skip (d.buffer ++ R)) ::
        segments ((d.buffer ++ R).drop (skip (d.buffer ++ R))) := segments_some hT
    have hdrop : (d.buffer.drop (skip d.buffer) ++ R).drop
        (skip (d.buffer ++ R) - skip d.buffer) =
          (d.buffer ++ R).drop (skip (d.buffer ++ R)) := by
      rw [← List.drop_append_of_le_length hle, List.drop_drop, Nat.add_sub_cancel' hmono]
    have hseg' := segments_some hrest
    rw [hdrop] at hseg'
    refine ⟨?_, fun ks' hk => ?_⟩
    · rw [residue_some hT, ← hdrop]
      exact (residue_some hrest).symm
    · change Within (segments (d.buffer.drop (skip d.buffer) ++ R)) ks' at hk
      rw [hseg'] at hk
      obtain ⟨⟨g, j⟩, ks'', ⟨rfl, hlo, hhi⟩, hk', rfl⟩ := List.forall₂_cons_left_iff.mp hk
      have hlo' : reports maxFrameBytes (.garbage (skip (d.buffer ++ R))) ≤ j + 1 := by
        simp only [reports, maxFrameBytes] at *; omega
      have hhi' : j + 1 ≤ reports 1 (.garbage (skip (d.buffer ++ R))) := by
        simp only [reports] at *; omega
      refine ⟨(.garbage _, j + 1) :: ks'', within_cons hseg hlo' hhi' hk', ?_⟩
      simp only [deliver, show d.consecutiveErrors + (j + 1) = d.consecutiveErrors + 1 + j by omega]
      split_ifs with hstop
      · simp only [Delivered.after, framesOf_error, failuresOf_error]
        congr 1
        omega
      · rw [after_after, Nat.add_comm j 1]
        rfl

theorem ends_fail (h : head d.buffer = some (g, n)) (hg : ∀ f, g ≠ .good f)
    (hfew : d.consecutiveErrors + 1 = maxConsecutiveErrors) (e : KiroEventStreamError) :
    Ends d [.error e] := by
  intro R
  refine ⟨_, within_most _, ?_⟩
  have hfive : maxConsecutiveErrors - d.consecutiveErrors = 1 := by omega
  cases g with
  | good f => exact absurd rfl (hg f)
  | bad =>
    rw [segments_some (head_append_frame (R := R) h (by simp))]
    simp [deliver, reports, hfew, hfive]
  | garbage k =>
    obtain ⟨hlen, -, -, hT⟩ := head_garbage_append (R := R) h
    have hpos : 1 ≤ skip (d.buffer ++ R) := skip_pos (by simp; omega)
    have hstop : d.consecutiveErrors + skip (d.buffer ++ R) ≥ maxConsecutiveErrors := by omega
    rw [segments_some hT]
    simp [deliver, reports, hstop, hfive]

theorem Bounded.drop (hb : Bounded b) (h : head b = some (g, n)) : Bounded (b.drop n) := by
  left
  rcases hb with hb | ⟨g', n', h', -, hb⟩
  · simp only [List.length_drop]; omega
  · rw [h] at h'
    cases h'
    simp only [List.length_drop]; omega

theorem recover_stops (e : KiroEventStreamError)
    (h : d.consecutiveErrors + 1 ≥ maxConsecutiveErrors) : (d.recover e).2.stopped = true := by
  simp [KiroEventStreamDecoder.recover, h, KiroEventStreamDecoder.stop]

theorem recover_goes_on (e : KiroEventStreamError)
    (h : ¬ d.consecutiveErrors + 1 ≥ maxConsecutiveErrors) :
    d.recover e = (e, { d with consecutiveErrors := d.consecutiveErrors + 1 }) := by
  exact if_neg h

/-- **One call**: it waits, or it stops, or it takes a segment, or part of one, and goes on. -/
theorem nextFrame_cases (hd : Live d) : (head d.buffer = none ∧ d.nextFrame = (.ok none, d)) ∨
    (∃ (r : Except _ _) (d' : _), d.nextFrame = (r.map some, d') ∧ Live d' ∧
      d'.buffer.length < d.buffer.length ∧ Pulls d [r] d') ∨
    ∃ e d', d.nextFrame = (.error e, d') ∧ d'.stopped = true ∧ Ends d [.error e] := by
  rcases hh : head d.buffer with _ | ⟨g, n⟩
  · exact Or.inl ⟨rfl, nextFrame_none hd.running hh⟩
  have hlen := discard_shorter hh
  have hbound : Bounded (d.discard n).buffer := hd.bounded.drop hh
  by_cases hg : ∃ f, g = .good f
  · obtain ⟨f, rfl⟩ := hg
    refine Or.inr (Or.inl ⟨.ok f, _, nextFrame_good hd.running hh, ⟨hd.running, ?_, hbound⟩, hlen,
      pulls_good hh⟩)
    simp [maxConsecutiveErrors]
  · push Not at hg
    obtain ⟨e, he⟩ := nextFrame_fail hd.running hh hg
    have hfew := hd.few
    by_cases hstop : d.consecutiveErrors + 1 ≥ maxConsecutiveErrors
    · refine Or.inr (Or.inr ⟨_, _, he, ?_, ends_fail hh hg (by omega) _⟩)
      exact recover_stops e hstop
    · rw [recover_goes_on (d := d.discard n) e hstop] at he
      refine Or.inr (Or.inl ⟨.error e, _, he, ⟨hd.running, not_le.mp hstop, hbound⟩, hlen, ?_⟩)
      cases g with
      | good f => exact absurd rfl (hg f)
      | bad => exact pulls_bad hh (by omega)
      | garbage k => exact pulls_garbage hd.bounded hh (by omega)

end NextFrame

/-! ### Whole runs -/

theorem drainLoop_spec : ∀ (fuel : ℕ) (d : KiroEventStreamDecoder), Live d →
    d.buffer.length < fuel →
      ((drainLoop fuel d).2.stopped = true ∧ Ends d (drainLoop fuel d).1) ∨
      (Live (drainLoop fuel d).2 ∧ head (drainLoop fuel d).2.buffer = none ∧
        Pulls d (drainLoop fuel d).1 (drainLoop fuel d).2)
  | 0, d, _, hlen => absurd hlen (Nat.not_lt_zero _)
  | fuel + 1, d, hd, hlen => by
    rw [drainLoop, if_neg (by simp [hd.running])]
    rcases nextFrame_cases hd with ⟨hh, hn⟩ | ⟨r, d', hn, hd', hlt, hp⟩ | ⟨e, d', hn, hd', he⟩
    · simp only [hn]
      exact Or.inr ⟨hd, hh, .refl d⟩
    · have hloop := drainLoop_spec fuel d' hd' (by omega)
      cases r <;> simp only [hn]
      all_goals exact hloop.imp (fun h => ⟨h.1, hp.ends h.2⟩) fun h => ⟨h.1, h.2.1, hp.trans h.2.2⟩
    · have hend : drainLoop fuel d' = ([], d') := by
        cases fuel with
        | zero => rfl
        | succ k => rw [drainLoop, if_pos hd']
      simp only [hn, hend]
      exact Or.inl ⟨hd', he⟩

theorem drain_spec (hd : Live d) : ((drain d).2.stopped = true ∧ Ends d (drain d).1) ∨
      (Live (drain d).2 ∧ head (drain d).2.buffer = none ∧ Pulls d (drain d).1 (drain d).2) :=
  drainLoop_spec _ d hd (Nat.lt_succ_self _)

theorem runChunks_stopped (h : d.stopped = true) :
    ∀ chunks : List (List UInt8), runChunks d chunks = ([], d)
  | [] => rfl
  | chunk :: chunks => by rw [runChunks, if_pos h]

variable {chunk : List UInt8}

theorem feed_drained (hd : d.stopped = false) (hh : head d.buffer = none)
    (hc : chunk.length ≤ maxFrameBytes) :
    d.feed chunk = (.ok (), { d with buffer := d.buffer ++ chunk }) := by
  have := head_none_length hh
  unfold KiroEventStreamDecoder.feed
  rw [if_neg (by simp [hd]), if_neg (by unfold maxBufferBytes; omega)]

theorem feed_live (hd : Live d) (hh : head d.buffer = none) (hc : chunk.length ≤ maxFrameBytes) :
    d.feed chunk = (.ok (), { d with buffer := d.buffer ++ chunk }) ∧
      Live { d with buffer := d.buffer ++ chunk } := by
  refine ⟨feed_drained hd.running hh hc, hd.running, hd.few, ?_⟩
  by_cases hlen : (d.buffer ++ chunk).length ≤ maxFrameBytes + (preludeBytes - 1)
  · exact Or.inl hlen
  have hpre : preludeBytes ≤ d.buffer.length := by
    simp only [List.length_append] at *; omega
  obtain ⟨p, hp, h⟩ := (short_of_head_none hh).resolve_left (not_lt.mpr hpre)
  rw [← List.take_append_of_le_length hpre] at hp
  have htot := parsePrelude_ok hp
  rcases head_cases (d.buffer ++ chunk) with
    ⟨-, h' | ⟨q, hq, h'⟩⟩ | ⟨e, -, hq, -⟩ | ⟨q, -, hq, -, ⟨f, -, h'⟩ | ⟨e, -, h'⟩⟩
  · simp only [preludeBytes] at *; omega
  all_goals
    rw [hp] at hq
    cases hq
  · omega
  · exact Or.inr ⟨_, _, h', by simp, by simp; omega⟩
  · exact Or.inr ⟨_, _, h', by simp, by simp; omega⟩

theorem runChunks_spec : ∀ (chunks : List (List UInt8)) (d : KiroEventStreamDecoder), Live d →
    head d.buffer = none → (∀ chunk ∈ chunks, chunk.length ≤ maxFrameBytes) →
      (∃ ks, Within (segments (d.buffer ++ chunks.flatten)) ks ∧
        deliver d.consecutiveErrors ks = ⟨framesOf (runChunks d chunks).1,
          failuresOf (runChunks d chunks).1, (runChunks d chunks).2.stopped⟩) ∧
      ((runChunks d chunks).2.stopped = false →
        (runChunks d chunks).2.buffer = residue (d.buffer ++ chunks.flatten))
  | [], d, hd, hh, _ => by
    simp only [runChunks, List.flatten_nil, List.append_nil]
    refine ⟨⟨[], ?_, by rw [hd.running]; rfl⟩, fun _ => (residue_none hh).symm⟩
    rw [segments_none hh]
    exact .nil
  | chunk :: chunks, d, hd, hh, hc => by
    obtain ⟨hfeed, hlive⟩ := feed_live hd hh (hc chunk (by simp))
    have hc' : ∀ x ∈ chunks, x.length ≤ maxFrameBytes := fun x hx => hc x (by simp [hx])
    rw [runChunks, if_neg (by simp [hd.running]), hfeed]
    simp only [List.flatten_cons]
    have hassoc : d.buffer ++ (chunk ++ chunks.flatten) = d.buffer ++ chunk ++ chunks.flatten := by
      simp
    rw [hassoc]
    rcases drain_spec hlive with ⟨hs, he⟩ | ⟨hl, hh', hp⟩
    · rw [runChunks_stopped hs chunks]
      obtain ⟨ks, hk, hdel⟩ := he chunks.flatten
      simp only [List.append_nil]
      exact ⟨⟨ks, hk, hdel.trans (by rw [hs])⟩, fun h => by simp [hs] at h⟩
    · obtain ⟨⟨ks', hk', hdel'⟩, hres⟩ := runChunks_spec chunks _ hl hh' hc'
      obtain ⟨hr, hpull⟩ := hp chunks.flatten
      obtain ⟨ks, hk, hdel⟩ := hpull ks' hk'
      refine ⟨⟨ks, hk, hdel.trans ?_⟩, fun h => (hres h).trans hr.symm⟩
      rw [hdel', framesOf_append, failuresOf_append]
      rfl

/-- **Every split delivers the segments of its bytes**, each reported a possible number of times,
and keeps what is left behind the last one. -/
theorem run_delivers (chunks : List (List UInt8))
    (hc : ∀ chunk ∈ chunks, chunk.length ≤ maxFrameBytes) :
    (∃ ks, Within (segments chunks.flatten) ks ∧ deliver 0 ks = ⟨framesOf (runChunks {} chunks).1,
      failuresOf (runChunks {} chunks).1, (runChunks {} chunks).2.stopped⟩) ∧
    ((runChunks {} chunks).2.stopped = false →
      (runChunks {} chunks).2.buffer = residue chunks.flatten) :=
  runChunks_spec chunks {} ⟨rfl, by decide, Or.inl (by simp)⟩ rfl hc

end CpaGateway.Kiro.Segments
