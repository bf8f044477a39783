import CpaGateway.Kiro.Segments

/-! # When chunk boundaries show

The decoder reports a run of garbage once for each look at it, so the number of failures in a row,
and with it the decision to stop, depends on where the chunks end. Feeding a run `m` bytes at a time
makes it reported `reports m` times (`exists_paced`); one byte at a time is the worst case and
`maxFrameBytes` at a time the best. Every other split lies in between (`run_delivers`), and what the
two extremes agree on, all splits agree on (`deliver_between`). -/

namespace CpaGateway.Kiro.Resynchronisation

open Kiro.EventStream Kiro.Segments

/-- The chunks are a split of the bytes into pieces of a permitted size. -/
structure IsSplit (S : List UInt8) (chunks : List (List UInt8)) : Prop where
  flatten : chunks.flatten = S
  short : ∀ chunk ∈ chunks, chunk.length ≤ maxFrameBytes

/-- What a caller observes: the decoded frames, and whether the decoder stopped. -/
def outcome (chunks : List (List UInt8)) : List KiroEventStreamFrame × Bool :=
  (framesOf (runChunks {} chunks).1, (runChunks {} chunks).2.stopped)

def observed (r : Delivered) : List KiroEventStreamFrame × Bool := (r.frames, r.stopped)

/-- The segments when garbage is skipped `m` bytes at a time. -/
def paced (m : ℕ) (gs : List Segment) : List (Segment × ℕ) := gs.map fun g => (g, reports m g)

/-! ### Between two deliveries -/

/-- The same segments, reported at least as often. -/
def AtMost (ks ks' : List (Segment × ℕ)) : Prop :=
  List.Forall₂ (fun k k' => k.1 = k'.1 ∧ k.2 ≤ k'.2) ks ks'

variable {g : Segment}

theorem deliver_fail (hg : ∀ f, g ≠ .good f) (c k : ℕ) (ks : List (Segment × ℕ)) :
    deliver c ((g, k) :: ks) =
      if c + k ≥ maxConsecutiveErrors then ⟨[], maxConsecutiveErrors - c, true⟩
      else (deliver (c + k) ks).after [] k := by
  cases g with
  | good f => exact absurd rfl (hg f)
  | bad => rfl
  | garbage n => rfl

@[simp] theorem observed_after (r : Delivered) (fs : List KiroEventStreamFrame) (n : ℕ) :
    observed (r.after fs n) = (fs ++ r.frames, r.stopped) := rfl

theorem stopped_of_more {ks ks' : List (Segment × ℕ)} {c c' : ℕ} (hks : AtMost ks ks') (hc : c ≤ c')
    (h : observed (deliver c ks) = ([], true)) : observed (deliver c' ks') = ([], true) := by
  induction hks generalizing c c' with
  | nil => simp [observed, deliver] at h
  | @cons first second ks ks' hfirst _ ih =>
    obtain ⟨g, k⟩ := first
    obtain ⟨_, k'⟩ := second
    obtain ⟨rfl, hk⟩ := hfirst
    by_cases hg : ∃ f, g = .good f
    · obtain ⟨f, rfl⟩ := hg
      simp [observed, deliver, Delivered.after] at h
    push Not at hg
    rw [deliver_fail hg] at h ⊢
    by_cases hstop : c' + k' ≥ maxConsecutiveErrors
    · rw [if_pos hstop]; rfl
    · rw [if_neg (by omega)] at h
      rw [if_neg hstop]
      exact ih (by omega) h

/-- **Between two deliveries that look the same there is no other.** -/
theorem deliver_between {lo ks hi : List (Segment × ℕ)} {a c b : ℕ} (hlo : AtMost lo ks)
    (hhi : AtMost ks hi) (hac : a ≤ c) (hcb : c ≤ b)
    (h : observed (deliver a lo) = observed (deliver b hi)) :
    observed (deliver c ks) = observed (deliver b hi) := by
  induction hlo generalizing hi a c b with
  | nil =>
    cases hhi
    rfl
  | @cons first second lo ks hfirst hlo ih =>
    obtain ⟨g, i⟩ := first
    obtain ⟨_, j⟩ := second
    obtain ⟨rfl, hij⟩ := hfirst
    obtain - | @⟨_, ⟨_, k⟩, _, hi, ⟨rfl, hjk⟩, hhi⟩ := hhi
    by_cases hg : ∃ f, g = .good f
    · obtain ⟨f, rfl⟩ := hg
      simp only [deliver, observed_after, Prod.mk.injEq, List.append_cancel_left_eq] at h ⊢
      exact Prod.mk.inj (ih hhi le_rfl le_rfl (Prod.ext h.1 h.2))
    push Not at hg
    by_cases hb : b + k ≥ maxConsecutiveErrors
    · -- the most reports stop here, so the fewest stop before the next frame
      have hstop : observed (deliver b ((g, k) :: hi)) = ([], true) := by
        rw [deliver_fail hg, if_pos hb]; rfl
      rw [hstop] at h ⊢
      have hmore : AtMost ((g, i) :: lo) ((g, j) :: ks) := .cons ⟨rfl, hij⟩ hlo
      exact stopped_of_more hmore hac h
    · rw [deliver_fail hg, deliver_fail hg, if_neg (by omega), if_neg hb] at h
      rw [deliver_fail hg, deliver_fail hg, if_neg (by omega), if_neg hb]
      exact ih hhi (by omega) (by omega) h

/-! ### Feeding a run at a pace -/

variable {d d' : KiroEventStreamDecoder}

theorem drain_one {r : Except KiroEventStreamError KiroEventStreamFrame}
    (hd : d.stopped = false) (hlen : 1 ≤ d.buffer.length) (hn : d.nextFrame = (r.map some, d'))
    (hd' : d'.stopped = true ∨ head d'.buffer = none) : drain d = ([r], d') := by
  have hlast : ∀ k, drainLoop (k + 1) d' = ([], d') := by
    intro k
    rw [drainLoop]
    split_ifs with hs
    · rfl
    · rw [nextFrame_none (by simpa using hs) (hd'.resolve_left hs)]
  obtain ⟨k, hk⟩ : ∃ k, d.buffer.length + 1 = k + 2 := ⟨d.buffer.length - 1, by omega⟩
  rw [drain, hk, drainLoop, if_neg (by simp [hd]), hn]
  cases r <;> simp only [Except.map, hlast]

theorem drain_none (hd : d.stopped = false) (hh : head d.buffer = none) : drain d = ([], d) := by
  rw [drain, drainLoop, if_neg (by simp [hd]), nextFrame_none hd hh]

variable {chunk : List UInt8}

theorem runChunks_cons {chunks : List (List UInt8)} {results : Results}
    (hd : Live d) (hh : head d.buffer = none) (hc : chunk.length ≤ maxFrameBytes)
    (hdrain : drain { d with buffer := d.buffer ++ chunk } = (results, d')) :
    runChunks d (chunk :: chunks) =
      (results ++ (runChunks d' chunks).1, (runChunks d' chunks).2) := by
  rw [runChunks, if_neg (by simp [hd.running]), (feed_live hd hh hc).1]
  simp [hdrain]

variable {T : List UInt8} {n : ℕ}

theorem head_take_frame (h : head T = some (g, n))
    (hg : ∀ k, g ≠ .garbage k) : head (T.take n) = some (g, n) := by
  obtain ⟨p, hlen, hp, rfl, htot, hbody⟩ := (head_frame_iff hg).mp h
  obtain ⟨h1, -, h3⟩ := parsePrelude_ok hp
  have hpre : preludeBytes ≤ p.totalLength := by simp only [minFrameBytes] at h1; omega
  refine (head_frame_iff hg).mpr ⟨p, by simp [hpre, hlen], ?_, rfl, by simp [htot], ?_⟩
  · rw [List.take_take, Nat.min_eq_left hpre, hp]
  · rwa [← decodeBody_append (R := T.drop p.totalLength) h1 h3 (by simp [htot]),
      List.take_append_drop]

variable {m : ℕ}

/-- The front of a run of garbage looks like garbage as far as it goes. -/
theorem head_take_garbage {s : ℕ} (h : head T = some (.garbage m, n)) (hs : 1 ≤ s) (hsn : s ≤ n) :
    head (T.take (preludeBytes - 1 + s)) = some (.garbage s, s) := by
  obtain ⟨hlen, -, rfl, -⟩ := head_garbage_append (R := []) h
  have hle := skip_le hlen
  have hlen' : (T.take (preludeBytes - 1 + s)).length = preludeBytes - 1 + s := by
    simp only [List.length_take]; omega
  have hpre : preludeBytes ≤ (T.take (preludeBytes - 1 + s)).length := by
    rw [hlen']; omega
  have hskip : skip (T.take (preludeBytes - 1 + s)) = s := by
    refine skip_unique hs hpre (fun i hi his => ?_) (Or.inr (by rw [hlen']; omega))
    rw [← validAt_append (R := T.drop (preludeBytes - 1 + s))
      (by rw [hlen']; omega), List.take_append_drop]
    exact not_validAt_of_lt_skip hi (by omega) hlen
  rcases head_cases T with ⟨hn, -⟩ | ⟨e, -, hp, -⟩ | ⟨p, -, -, -, ⟨f, -, hh⟩ | ⟨e, -, hh⟩⟩
  · simp [hn] at h
  · unfold head
    rw [if_neg (by omega), List.take_take, Nat.min_eq_left (by simp only [preludeBytes]; omega), hp,
      hskip]
  · simp [hh] at h
  · simp [hh] at h

variable {b : List UInt8}

theorem head_short (h : b.length < preludeBytes) : head b = none := by
  unfold head; rw [if_pos h]

theorem live_short {c : ℕ} (hb : b.length < preludeBytes)
    (hc : c < maxConsecutiveErrors) : Live { buffer := b, consecutiveErrors := c } :=
  ⟨rfl, hc, Or.inl (by simp only [preludeBytes, maxFrameBytes] at *; omega)⟩

/-- The bytes one at a time. -/
def single (S : List UInt8) : List (List UInt8) := S.map fun b => [b]

theorem isSplit_single (S : List UInt8) : IsSplit S (single S) where
  flatten := by
    induction S with
    | nil => rfl
    | cons b S ih => simpa [single] using ih
  short := by
    intro chunk hmem
    obtain ⟨b, -, rfl⟩ := List.mem_map.mp hmem
    show 1 ≤ maxFrameBytes
    decide

/-- What a run shows. -/
def shown (r : Results × KiroEventStreamDecoder) :
    List KiroEventStreamFrame × Bool := (framesOf r.1, r.2.stopped)

theorem runChunks_fail {c : ℕ} (hb : b.length < preludeBytes)
    (hc : c < maxConsecutiveErrors) (hchunk : chunk.length ≤ maxFrameBytes)
    (hh : head (b ++ chunk) = some (g, n)) (hg : ∀ f, g ≠ .good f)
    (hrest : ((b ++ chunk).drop n).length < preludeBytes) (chunks : List (List UInt8)) :
    shown (runChunks { buffer := b, consecutiveErrors := c } (chunk :: chunks)) =
      if c + 1 ≥ maxConsecutiveErrors then ([], true)
      else shown
        (runChunks { buffer := (b ++ chunk).drop n, consecutiveErrors := c + 1 } chunks) := by
  have hlive := live_short hb hc
  have hlen := head_bounds hh
  obtain ⟨e, he⟩ := nextFrame_fail
    (d := { buffer := b ++ chunk, consecutiveErrors := c }) rfl hh hg
  split_ifs with hstop
  · have hs := recover_stops (d := KiroEventStreamDecoder.discard
      { buffer := b ++ chunk, consecutiveErrors := c } n) e hstop
    rw [runChunks_cons hlive (head_short hb) hchunk
      (drain_one (r := .error _) rfl (le_trans hlen.1 hlen.2) he (Or.inl hs)), runChunks_stopped hs]
    exact Prod.ext rfl hs
  · rw [recover_goes_on (d := KiroEventStreamDecoder.discard
      { buffer := b ++ chunk, consecutiveErrors := c } n) e hstop] at he
    rw [runChunks_cons hlive (head_short hb) hchunk
      (drain_one (r := .error e) rfl (le_trans hlen.1 hlen.2) he (Or.inr (head_short hrest)))]
    rfl

theorem head_frame_length (h : head T = some (g, n))
    (hg : ∀ k, g ≠ .garbage k) : preludeBytes ≤ n ∧ n ≤ maxFrameBytes := by
  obtain ⟨p, -, hp, rfl, -⟩ := (head_frame_iff hg).mp h
  obtain ⟨h1, h2, -⟩ := parsePrelude_ok hp
  exact ⟨by simp only [minFrameBytes] at h1; omega, h2⟩

/-- The chunk that completes a buffered front of `T` to its first `n` bytes. -/
theorem take_append_take_drop {j : ℕ} (h : j ≤ n) : T.take j ++ (T.take n).drop j = T.take n := by
  conv_rhs => rw [← List.take_append_drop j (T.take n)]
  rw [List.take_take, Nat.min_eq_left h]

theorem drop_eq_of_le {j : ℕ} (h : j ≤ n) (hn : n ≤ T.length) :
    (T.take n).drop j ++ T.drop n = T.drop j := by
  conv_rhs => rw [← List.take_append_drop n T]
  rw [List.drop_append_of_le_length (by simp; omega)]

theorem IsSplit.cons {S : List UInt8} {A : List (List UInt8)} (h : IsSplit S A)
    (hc : chunk.length ≤ maxFrameBytes) : IsSplit (chunk ++ S) (chunk :: A) where
  flatten := by rw [List.flatten_cons, h.flatten]
  short := by simpa using ⟨hc, h.short⟩

theorem reports_garbage_split (hm : 1 ≤ m) (h : m < n) :
    reports m (.garbage n) = 1 + reports m (.garbage (n - m)) := by
  simp only [reports]
  rw [show n + (m - 1) = n - m + (m - 1) + m by omega, Nat.add_div_right _ (by omega)]
  omega

section Pace

variable {m : ℕ} {j c n : ℕ}

/-- What `exists_paced` says about `T` with `j` of its bytes in the buffer. -/
def Paced (m : ℕ) (T : List UInt8) (j c : ℕ) : Prop :=
  ∃ A, IsSplit (T.drop j) A ∧
    shown (runChunks { buffer := T.take j, consecutiveErrors := c } A) =
      observed (deliver c (paced m (segments T)))

section

variable (hj : j < preludeBytes) (hc : c < maxConsecutiveErrors)

include hj hc

theorem paced_none (hh : head T = none) : Paced m T j c := by
  have hbuf : (T.take j).length < preludeBytes := by simp; omega
  have hlen : (T.drop j).length ≤ maxFrameBytes := by
    have := head_none_length hh
    simp only [List.length_drop]; omega
  refine ⟨[T.drop j], ⟨by simp, by simpa using hlen⟩, ?_⟩
  have hdrain : drain { buffer := T.take j ++ T.drop j, consecutiveErrors := c } =
      ([], { buffer := T, consecutiveErrors := c }) := by
    rw [List.take_append_drop]
    exact drain_none rfl hh
  rw [runChunks_cons (live_short hbuf hc) (head_short hbuf) hlen hdrain, segments_none hh]
  rfl

theorem paced_good {f : KiroEventStreamFrame} (hh : head T = some (.good f, n))
    (ih : Paced m (T.drop n) 0 0) : Paced m T j c := by
  have hbuf : (T.take j).length < preludeBytes := by simp; omega
  have hn := head_bounds hh
  obtain ⟨hlow, hhigh⟩ := head_frame_length hh (by simp)
  have hlen : ((T.take n).drop j).length ≤ maxFrameBytes := by simp; omega
  have hcut := drop_eq_of_le (T := T) (j := j) (n := n) (by omega) hn.2
  obtain ⟨A, hA, hshow⟩ := ih
  rw [List.drop_zero] at hA
  refine ⟨(T.take n).drop j :: A, hcut ▸ hA.cons hlen, ?_⟩
  have hdrain : drain { buffer := T.take j ++ (T.take n).drop j, consecutiveErrors := c } =
      ([.ok f], { buffer := [], consecutiveErrors := 0 }) := by
    rw [take_append_take_drop (by omega)]
    have hnext := nextFrame_good (d := { buffer := T.take n, consecutiveErrors := c }) rfl
      (head_take_frame hh (by simp))
    refine drain_one (r := .ok f) rfl (by simp; omega) (hnext.trans ?_)
      (Or.inr (head_short (by decide)))
    simp [KiroEventStreamDecoder.discard, Except.map]
  rw [runChunks_cons (live_short hbuf hc) (head_short hbuf) hlen hdrain, segments_some hh]
  simp only [shown, observed, List.take_zero, Prod.mk.injEq] at hshow
  simp only [shown, paced, List.map_cons, deliver, observed_after, framesOf_append]
  rw [hshow.1, hshow.2]
  rfl

theorem paced_bad (hh : head T = some (.bad, n))
    (ih : c + 1 < maxConsecutiveErrors → Paced m (T.drop n) 0 (c + 1)) : Paced m T j c := by
  have hbuf : (T.take j).length < preludeBytes := by simp; omega
  have hn := head_bounds hh
  obtain ⟨hlow, hhigh⟩ := head_frame_length hh (by simp)
  have hlen : ((T.take n).drop j).length ≤ maxFrameBytes := by simp; omega
  have hjoin := take_append_take_drop (T := T) (j := j) (n := n) (by omega)
  have hhead : head (T.take j ++ (T.take n).drop j) = some (.bad, n) := by
    rw [hjoin]; exact head_take_frame hh (by simp)
  have hrest : (T.take j ++ (T.take n).drop j).drop n = [] := by rw [hjoin]; simp
  have hfail := runChunks_fail hbuf hc hlen hhead (by simp) (by rw [hrest]; decide)
  rw [hrest] at hfail
  have hcut := drop_eq_of_le (T := T) (j := j) (n := n) (by omega) hn.2
  have hdeliver : observed (deliver c (paced m (segments T))) =
      if c + 1 ≥ maxConsecutiveErrors then ([], true)
      else observed (deliver (c + 1) (paced m (segments (T.drop n)))) := by
    rw [segments_some hh]
    simp only [paced, List.map_cons, deliver, reports]
    split_ifs <;> rfl
  by_cases hstop : c + 1 ≥ maxConsecutiveErrors
  · refine ⟨_, hcut ▸ (isSplit_single (T.drop n)).cons hlen, ?_⟩
    rw [hfail, hdeliver, if_pos hstop, if_pos hstop]
  · obtain ⟨A, hA, hshow⟩ := ih (by omega)
    refine ⟨_, hcut ▸ hA.cons hlen, ?_⟩
    rw [hfail, hdeliver, if_neg hstop, if_neg hstop]
    exact hshow

end

/-- The run is fed up to eleven bytes past its start, then `m` bytes at a time: each piece ends
before the decoder could see the prelude behind the run, so each is reported once. -/
theorem paced_garbage {k : ℕ} (hm : 1 ≤ m) (hM : m ≤ maxFrameBytes) (hj : j < preludeBytes)
    (hc : c < maxConsecutiveErrors) (hh : head T = some (.garbage k, n))
    (ih : ∀ s, 1 ≤ s → s ≤ n → c + 1 < maxConsecutiveErrors →
      Paced m (T.drop s) (preludeBytes - 1) (c + 1)) : Paced m T j c := by
  obtain ⟨hlen, hk, hn, -⟩ := head_garbage_append (R := []) hh
  obtain rfl : k = n := hk.trans hn.symm
  have hpos := skip_pos hlen
  obtain ⟨s, hs, hsk, hsm⟩ : ∃ s, 1 ≤ s ∧ s ≤ k ∧ s = min m k := ⟨min m k, by omega, by omega, rfl⟩
  have hbuf : (T.take j).length < preludeBytes := by simp; omega
  have hbuf' : (T.take (preludeBytes - 1)).length < preludeBytes := by simp; omega
  have hlen₀ : ((T.take (preludeBytes - 1)).drop j).length ≤ maxFrameBytes := by
    simp only [List.length_drop, List.length_take, preludeBytes, maxFrameBytes]; omega
  have hlen₁ : ((T.drop (preludeBytes - 1)).take s).length ≤ maxFrameBytes := by
    simp only [List.length_take]; omega
  have hjoin : T.take (preludeBytes - 1) ++ (T.drop (preludeBytes - 1)).take s =
      T.take (preludeBytes - 1 + s) := List.take_add.symm
  have hrest : (T.take (preludeBytes - 1) ++ (T.drop (preludeBytes - 1)).take s).drop s =
      (T.drop s).take (preludeBytes - 1) := by
    rw [hjoin, List.drop_take, Nat.add_sub_cancel]
  have hhead : head (T.take (preludeBytes - 1) ++ (T.drop (preludeBytes - 1)).take s) =
      some (.garbage s, s) := by
    rw [hjoin]; exact head_take_garbage hh hs hsk
  have hfirst : ∀ A, runChunks { buffer := T.take j, consecutiveErrors := c }
      ((T.take (preludeBytes - 1)).drop j :: A) =
        runChunks { buffer := T.take (preludeBytes - 1), consecutiveErrors := c } A := by
    intro A
    have hdrain : drain
        { buffer := T.take j ++ (T.take (preludeBytes - 1)).drop j, consecutiveErrors := c } =
          ([], { buffer := T.take (preludeBytes - 1), consecutiveErrors := c }) := by
      rw [take_append_take_drop (by omega)]
      exact drain_none rfl (head_short hbuf')
    rw [runChunks_cons (live_short hbuf hc) (head_short hbuf) hlen₀ hdrain]
    rfl
  have hfail := runChunks_fail hbuf' hc hlen₁ hhead (by simp) (by rw [hrest]; simp; omega)
  rw [hrest] at hfail
  have hcut : (T.take (preludeBytes - 1)).drop j ++ ((T.drop (preludeBytes - 1)).take s ++
      (T.drop s).drop (preludeBytes - 1)) = T.drop j := by
    rw [List.drop_drop, Nat.add_comm s, ← List.drop_drop, List.take_append_drop]
    exact drop_eq_of_le (by omega) (by simp only [preludeBytes] at *; omega)
  -- the reports of the run, seen from its first piece
  have hdeliver : observed (deliver c (paced m (segments T))) =
      if c + 1 ≥ maxConsecutiveErrors then ([], true)
      else observed (deliver (c + 1) (paced m (segments (T.drop s)))) := by
    rw [segments_some hh]
    simp only [paced, List.map_cons, deliver]
    rcases Nat.lt_or_ge m k with hmk | hmk
    · obtain rfl : s = m := by omega
      have hdrop : (T.drop s).drop (k - s) = T.drop k := by
        rw [List.drop_drop, Nat.add_sub_cancel' hsk]
      rw [segments_some (head_drop_garbage hh hs hmk), hdrop, reports_garbage_split hm hmk]
      simp only [List.map_cons, deliver, ← Nat.add_assoc]
      split_ifs with h1 h2 h2
      · rfl
      · rfl
      · omega
      · rfl
    · obtain rfl : s = k := by omega
      have hr : reports m (.garbage s) = 1 := by
        exact Nat.div_eq_of_lt_le (by omega) (by omega)
      rw [hr]
      split_ifs <;> rfl
  by_cases hstop : c + 1 ≥ maxConsecutiveErrors
  · refine ⟨_, hcut ▸ ((isSplit_single _).cons hlen₁).cons hlen₀, ?_⟩
    rw [hfirst, hfail, hdeliver, if_pos hstop, if_pos hstop]
  · obtain ⟨A, hA, hshow⟩ := ih s hs hsk (by omega)
    refine ⟨_, hcut ▸ (hA.cons hlen₁).cons hlen₀, ?_⟩
    rw [hfirst, hfail, hdeliver, if_neg hstop, if_neg hstop]
    exact hshow

/-- **Every pace is possible**: some split has garbage reported once for every `m` bytes. -/
theorem exists_paced (hm : 1 ≤ m) (hM : m ≤ maxFrameBytes) :
    ∀ (N : ℕ) (T : List UInt8) (j c : ℕ), T.length ≤ N → j < preludeBytes →
      c < maxConsecutiveErrors → Paced m T j c
  | 0, T, j, c, hN, hj, hc => by
    obtain rfl : T = [] := List.length_eq_zero_iff.mp (by omega)
    exact paced_none hj hc (head_short (by decide))
  | N + 1, T, j, c, hN, hj, hc => by
    rcases hh : head T with _ | ⟨g, n⟩
    · exact paced_none hj hc hh
    have hn := head_bounds hh
    cases g with
    | good f =>
      exact paced_good hj hc hh
        (exists_paced hm hM N _ 0 0 (by simp; omega) (by decide) (by decide))
    | bad =>
      exact paced_bad hj hc hh fun hc' =>
        exists_paced hm hM N _ 0 _ (by simp; omega) (by decide) hc'
    | garbage k =>
      refine paced_garbage hm hM hj hc hh fun s hs hsn hc' => ?_
      exact exists_paced hm hM N _ _ _ (by simp; omega) (by decide) hc'

end Pace

/-! ### The exact condition -/

theorem atMost_of_within {gs : List Segment} {ks : List (Segment × ℕ)} (h : Within gs ks) :
    AtMost (paced maxFrameBytes gs) ks ∧ AtMost ks (paced 1 gs) := by
  induction h with
  | nil => exact ⟨.nil, .nil⟩
  | cons hk _ ih =>
    obtain ⟨heq, hlo, hhi⟩ := hk
    exact ⟨.cons ⟨heq.symm, hlo⟩ ih.1, .cons ⟨heq, hhi⟩ ih.2⟩

/-- **When chunk boundaries do not show**: all splits of a byte string decode to the same frames and
the same outcome iff reporting each run of garbage once per byte and reporting it once per
`maxFrameBytes` bytes deliver the same. -/
theorem chunking_unobservable_iff (S : List UInt8) :
    (∀ A B, IsSplit S A → IsSplit S B → outcome A = outcome B) ↔
      observed (deliver 0 (paced maxFrameBytes (segments S))) =
        observed (deliver 0 (paced 1 (segments S))) := by
  constructor
  · intro h
    have hpace : ∀ m, 1 ≤ m → m ≤ maxFrameBytes → ∃ A, IsSplit S A ∧
        outcome A = observed (deliver 0 (paced m (segments S))) := fun m hm hM =>
      exists_paced hm hM S.length S 0 0 le_rfl (by decide) (by decide)
    obtain ⟨A, hA, ha⟩ := hpace maxFrameBytes (by decide) le_rfl
    obtain ⟨B, hB, hb⟩ := hpace 1 le_rfl (by decide)
    rw [← ha, ← hb]
    exact h A B hA hB
  · intro h
    have hall : ∀ A, IsSplit S A → outcome A = observed (deliver 0 (paced 1 (segments S))) := by
      intro A hA
      obtain ⟨⟨ks, hk, hdel⟩, -⟩ := run_delivers A hA.short
      rw [hA.flatten] at hk
      obtain ⟨hlo, hhi⟩ := atMost_of_within hk
      rw [← deliver_between hlo hhi le_rfl le_rfl h, hdel]
      rfl
    intro A B hA hB
    rw [hall A hA, hall B hB]

/-- Sixteen zero bytes are one failure in one chunk, and stop the decoder one by one. -/
theorem chunking_observable : IsSplit (List.replicate 16 0) [List.replicate 16 0] ∧
      IsSplit (List.replicate 16 0) (single (List.replicate 16 0)) ∧
      outcome [List.replicate 16 0] = ([], false) ∧
      outcome (single (List.replicate 16 0)) = ([], true) := by
  refine ⟨⟨by simp, by decide⟩, isSplit_single _, Prod.ext ?_ ?_, Prod.ext ?_ ?_⟩
  · exact List.length_eq_zero_iff.mp (by decide +kernel)
  · decide +kernel
  · exact List.length_eq_zero_iff.mp (by decide +kernel)
  · decide +kernel

end CpaGateway.Kiro.Resynchronisation
