import CpaGateway.Stream.Bounded

/-! # Delivery over the bounded stream

Both halves run their own copy of the lifecycle automaton. Over any interleaving the copies stay in
step: the sender has run over the events it sent, the receiver over the events it returned, and the
channel holds the difference (`Inv`). The receiver can therefore not reject what the sender
accepted. What a finished receiver and a cancelled sender still show is read off the steps that are
left to them (`Done`, `Shut`). -/

namespace CpaGateway.Stream.Delivery

open Core.Error Core.Events Lib.Fallible Lib.Transition Stream.Bounded CanonicalEventState
open CanonicalEventSender

/-! ### What a trace says -/

/-- The event a successful `send` delivered to the channel. -/
def sentOf : Label → Option CanonicalEvent
  | .sendReturned e (.ok ()) => some e
  | _ => none

/-- The event that entered the channel. -/
def enqueuedOf : Label → Option CanonicalEvent
  | .enqueued e => some e
  | _ => none

def receivedOf : Label → Option CanonicalEvent
  | .recvReturned (.ok (some e)) => some e
  | _ => none

def sent (tr : List Label) : List CanonicalEvent := tr.filterMap sentOf

def enqueued (tr : List Label) : List CanonicalEvent := tr.filterMap enqueuedOf

def received (tr : List Label) : List CanonicalEvent := tr.filterMap receivedOf

/-- The event that the channel took while its `send` has not returned yet. -/
def inFlightOf : SendPhase → List CanonicalEvent
  | .enqueued e _ => [e]
  | _ => []

def inFlight (s : System) : List CanonicalEvent :=
  match s.sender with
  | some tx => inFlightOf tx.phase
  | none => []

/-- The event and the next state of a call that passed the lifecycle check. -/
def checkedOf : SendPhase → Option (CanonicalEvent × CanonicalEventState)
  | .idle | .called _ => none
  | .polling e next | .offering e next | .enqueued e next => some (e, next)

/-! ### The two automata stay in step -/

/-- What holds after every trace. -/
structure Inv (tr : List Label) (s : System) : Prop where
  sent : enqueued tr = sent tr ++ inFlight s
  queued : s.receiver ≠ .closed → enqueued tr = received tr ++ s.queue
  pre : received tr <+: enqueued tr
  accepted : ∃ t, applyAll {} (enqueued tr) = .ok t
  sender : ∀ tx, s.sender = some tx →
    applyAll {} (Delivery.sent tr) = .ok tx.state
  checked : ∀ tx, s.sender = some tx → ∀ e next, checkedOf tx.phase = some (e, next) →
    tx.state.apply e = .ok next
  receiver : ∀ rx, s.receiver = .live rx →
    applyAll {} (received tr) = .ok rx.state

variable {tr : List Label} {rx : CanonicalEventStream} {e : CanonicalEvent} {s : System}

/-- **The receiver accepts the next event of the channel.** -/
theorem Inv.receive (h : Inv tr s) {q : List CanonicalEvent} (hrx : s.receiver = .live rx)
    (hq : s.queue = e :: q) : ∃ t, rx.state.apply e = .ok t := by
  obtain ⟨u, hu⟩ := h.accepted
  rw [h.queued (by simp [hrx]), hq, applyAll_append_ok] at hu
  obtain ⟨t, ht, hu⟩ := hu
  rw [h.receiver rx hrx] at ht
  cases ht
  obtain ⟨t, ht, -⟩ := applyAll_cons_ok.mp hu
  exact ⟨t, ht⟩

section Snoc

variable (tr : List Label) (l : Label)

theorem sent_snoc : sent (tr ++ [l]) = sent tr ++ (sentOf l).toList := by
  cases h : sentOf l <;> simp [sent, h]

theorem enqueued_snoc : enqueued (tr ++ [l]) = enqueued tr ++ (enqueuedOf l).toList := by
  cases h : enqueuedOf l <;> simp [enqueued, h]

theorem received_snoc : received (tr ++ [l]) = received tr ++ (receivedOf l).toList := by
  cases h : receivedOf l <;> simp [received, h]

end Snoc

variable {l : Label}

theorem Inv.quiet {t : System} (h : Inv tr s)
    (hsent : sentOf l = none) (henq : enqueuedOf l = none) (hrecv : receivedOf l = none)
    (hflight : inFlight t = inFlight s)
    (hqueue : t.receiver ≠ .closed → s.receiver ≠ .closed ∧ t.queue = s.queue)
    (hsender : ∀ tx, t.sender = some tx → ∃ tx₀, s.sender = some tx₀ ∧ tx.state = tx₀.state ∧
      ∀ e next, checkedOf tx.phase = some (e, next) → tx₀.state.apply e = .ok next)
    (hreceiver : ∀ rx, t.receiver = .live rx → ∃ rx₀, s.receiver = .live rx₀ ∧
      rx.state = rx₀.state) :
    Inv (tr ++ [l]) t := by
  have h1 : Delivery.sent (tr ++ [l]) = Delivery.sent tr := by rw [sent_snoc, hsent]; simp
  have h2 : enqueued (tr ++ [l]) = enqueued tr := by rw [enqueued_snoc, henq]; simp
  have h3 : received (tr ++ [l]) = received tr := by rw [received_snoc, hrecv]; simp
  refine ⟨?_, ?_, ?_, ?_, ?_, ?_, ?_⟩
  · rw [h1, h2, hflight]; exact h.sent
  · intro hopen
    rw [h2, h3, (hqueue hopen).2]
    exact h.queued (hqueue hopen).1
  · rw [h2, h3]; exact h.pre
  · rw [h2]; exact h.accepted
  · intro tx htx
    obtain ⟨tx₀, htx₀, hstate, -⟩ := hsender tx htx
    rw [h1, hstate]; exact h.sender tx₀ htx₀
  · intro tx htx e next hc
    obtain ⟨tx₀, htx₀, hstate, hchecked⟩ := hsender tx htx
    rw [hstate]; exact hchecked e next hc
  · intro rx hrx
    obtain ⟨rx₀, hrx₀, hstate⟩ := hreceiver rx hrx
    rw [h3, hstate]; exact h.receiver rx₀ hrx₀

theorem Inv.sendPhase (h : Inv tr s)
    {tx : CanonicalEventSender} (htx : s.sender = some tx) {phase : SendPhase}
    (hsent : sentOf l = none) (henq : enqueuedOf l = none) (hrecv : receivedOf l = none)
    (hold : inFlightOf tx.phase = []) (hnew : inFlightOf phase = [])
    (hchecked : ∀ e next, checkedOf phase = some (e, next) →
      checkedOf tx.phase = some (e, next)) :
    Inv (tr ++ [l]) { s with sender := some { tx with phase } } := by
  refine h.quiet hsent henq hrecv ?_ (fun hr => ⟨hr, rfl⟩) ?_ fun rx hrx => ⟨rx, hrx, rfl⟩
  · simp [inFlight, htx, hold, hnew]
  · rintro _ ⟨⟩
    exact ⟨tx, htx, rfl, fun e next hc => h.checked tx htx e next (hchecked e next hc)⟩

theorem Inv.recvPhase (h : Inv tr s)
    {rx' : CanonicalEventStream} (hrx : s.receiver = .live rx) (hsent : sentOf l = none)
    (henq : enqueuedOf l = none) (hrecv : receivedOf l = none) (hstate : rx'.state = rx.state) :
    Inv (tr ++ [l]) { s with receiver := .live rx' } := by
  refine h.quiet hsent henq hrecv rfl (fun _ => ⟨by simp [hrx], rfl⟩)
    (fun tx htx => ⟨tx, htx, rfl, h.checked tx htx⟩) ?_
  rintro _ ⟨⟩
  exact ⟨rx, hrx, hstate⟩

theorem start_ok {tx tx' : CanonicalEventSender} {b : Bool} (h : tx.start b e = .ok tx') :
    b = false ∧ ∃ next, tx.state.apply e = .ok next ∧
      tx' = { tx with phase := .polling e next } := by
  unfold start at h
  split_ifs at h with hb hs
  · obtain ⟨next, hnext, h⟩ := bind_ok h
    cases h
    exact ⟨by simpa using hb, next, hnext, rfl⟩
  · obtain ⟨next, -, h⟩ := bind_ok h
    cases h

theorem receive_some {t : CanonicalEventState} (h : rx.state.apply e = .ok t) :
    rx.receive (some e) =
      (.ok (some e), { state := t, finished := t.isTerminal, phase := .idle }) := by
  simp [CanonicalEventStream.receive, h]

theorem Inv.step {capacity : ℕ} {tr : List Label} {s : System} {l : Label} {t : System}
    (h : Inv tr s) (hs : Step capacity s l t) : Inv (tr ++ [l]) t := by
  cases hs with
  | @sendStarted tx tx' e htx hphase hstart =>
    obtain ⟨-, next, hnext, rfl⟩ := start_ok hstart
    refine h.quiet rfl rfl rfl (by simp [inFlight, htx, hphase, inFlightOf])
      (fun hr => ⟨hr, rfl⟩) ?_ fun rx hrx => ⟨rx, hrx, rfl⟩
    rintro _ ⟨⟩
    refine ⟨tx, htx, rfl, ?_⟩
    rintro _ _ ⟨⟩
    exact hnext
  | @offerTaken tx e next htx hphase hopen hroom =>
    have hnext := h.checked tx htx e next (by rw [hphase]; rfl)
    have hflight : inFlight s = [] := by simp [inFlight, htx, hphase, inFlightOf]
    have hsent := h.sent
    rw [hflight, List.append_nil] at hsent
    refine ⟨?_, ?_, ?_, ?_, ?_, ?_, ?_⟩
    · rw [enqueued_snoc, sent_snoc, hsent]; simp [enqueuedOf, sentOf, inFlight, inFlightOf]
    · rw [enqueued_snoc, received_snoc, h.queued hopen]; simp [enqueuedOf, receivedOf]
    · rw [enqueued_snoc, received_snoc]
      simpa [receivedOf] using h.pre.trans (List.prefix_append _ _)
    · refine ⟨next, ?_⟩
      rw [enqueued_snoc, hsent]
      exact applyAll_snoc_ok.mpr ⟨_, h.sender tx htx, hnext⟩
    · rw [sent_snoc]
      simpa [sentOf] using h.sender tx htx
    · rintro _ ⟨⟩ e' next' ⟨⟩
      exact hnext
    · intro rx hrx
      rw [received_snoc]
      simpa [receivedOf] using h.receiver rx hrx
  | @sendDone tx e next htx hphase =>
    have hflight : inFlight s = [e] := by simp [inFlight, htx, hphase, inFlightOf]
    refine ⟨?_, ?_, ?_, ?_, ?_, ?_, ?_⟩
    · rw [enqueued_snoc, sent_snoc, h.sent, hflight]
      simp [enqueuedOf, sentOf, inFlight, inFlightOf, complete]
    · intro hopen
      rw [enqueued_snoc, received_snoc, h.queued hopen]; simp [enqueuedOf, receivedOf]
    · rw [enqueued_snoc, received_snoc]
      simpa [enqueuedOf, receivedOf] using h.pre
    · rw [enqueued_snoc]
      simpa [enqueuedOf] using h.accepted
    · rintro _ ⟨⟩
      rw [sent_snoc]
      exact applyAll_snoc_ok.mpr
        ⟨_, h.sender tx htx, h.checked tx htx e next (by rw [hphase]; rfl)⟩
    · rintro _ ⟨⟩ e' next' hc
      cases hc
    · intro rx hrx
      rw [received_snoc]
      simpa [receivedOf] using h.receiver rx hrx
  | @recvTake rx e q hrx hphase hq =>
    obtain ⟨t, ht⟩ := h.receive hrx hq
    have hqueued := h.queued (by simp [hrx])
    rw [hq] at hqueued
    rw [receive_some ht]
    refine ⟨?_, ?_, ?_, ?_, ?_, ?_, ?_⟩
    · rw [enqueued_snoc, sent_snoc]
      simpa [enqueuedOf, sentOf, inFlight] using h.sent
    · rw [enqueued_snoc, received_snoc, hqueued]; simp [enqueuedOf, receivedOf]
    · rw [enqueued_snoc, received_snoc, hqueued]; simp [enqueuedOf, receivedOf]
    · rw [enqueued_snoc]
      simpa [enqueuedOf] using h.accepted
    · intro tx htx
      rw [sent_snoc]
      simpa [sentOf] using h.sender tx htx
    · exact h.checked
    · rintro _ ⟨⟩
      rw [received_snoc]
      exact applyAll_snoc_ok.mpr ⟨_, h.receiver rx hrx, ht⟩
  | @sendCall _ _ htx hphase | @sendRefused _ _ _ htx hphase | @sendCancelled _ _ _ htx hphase
  | @offerClosed _ _ _ htx hphase =>
    exact h.sendPhase htx rfl rfl rfl (by simp [hphase, inFlightOf]) rfl (by simp [checkedOf])
  | @sendUncancelled _ _ _ htx hphase | @offerFull _ _ _ htx hphase =>
    exact h.sendPhase htx rfl rfl rfl (by simp [hphase, inFlightOf]) rfl
      (by simp [checkedOf, hphase])
  | @sendAborted tx e next htx hphase =>
    refine h.sendPhase htx rfl rfl rfl ?_ rfl (by simp [checkedOf])
    rcases hphase with hphase | hphase <;> simp [hphase, inFlightOf]
  | @senderDrop tx htx hphase =>
    refine h.quiet rfl rfl rfl (by simp [inFlight, htx, hphase, inFlightOf])
      (fun hr => ⟨hr, rfl⟩) ?_ fun rx hrx => ⟨rx, hrx, rfl⟩
    rintro _ ⟨⟩
  | recvFinished | cancel =>
    exact h.quiet rfl rfl rfl rfl (fun hr => ⟨hr, rfl⟩)
      (fun tx htx => ⟨tx, htx, rfl, h.checked tx htx⟩) fun rx hrx => ⟨rx, hrx, rfl⟩
  | @recvCall _ hrx | @recvCancelled _ hrx | @recvUncancelled _ hrx | @recvEmpty _ hrx
  | @recvAborted _ hrx => exact h.recvPhase hrx rfl rfl rfl rfl
  | @recvClosed rx hrx _ _ _ =>
    refine h.recvPhase hrx rfl rfl ?_ rfl
    simp only [CanonicalEventStream.receive]
    cases rx.state.finish <;> rfl
  | @receiverDrop rx hrx _ =>
    refine h.quiet rfl rfl rfl rfl (fun _ => ⟨by simp [hrx], rfl⟩)
      (fun tx htx => ⟨tx, htx, rfl, h.checked tx htx⟩) ?_
    rintro _ ⟨⟩
  | @receiverClose hrx =>
    refine h.quiet rfl rfl rfl rfl (fun hr => absurd rfl hr)
      (fun tx htx => ⟨tx, htx, rfl, h.checked tx htx⟩) ?_
    rintro _ ⟨⟩

theorem inv_of_run {capacity : ℕ} (h : Run (Step capacity) {} tr s) : Inv tr s := by
  have hinit : Inv [] {} := by
    refine ⟨rfl, fun _ => rfl, List.prefix_rfl, ⟨{}, rfl⟩, ?_, ?_, ?_⟩
    · rintro _ ⟨⟩; rfl
    · rintro _ ⟨⟩ _ _ ⟨⟩
    · rintro _ ⟨⟩; rfl
  exact h.invariant hinit fun _ => Inv.step

/-! ### A finished receiver and a cancelled sender -/

/-- The receiver returns nothing but `Ok(None)` any more. -/
def Done (s : System) : Prop :=
  ∀ rx, s.receiver = .live rx → rx.finished = true ∧ rx.phase = .idle

/-- The stream is cancelled and no call is past its first look at the flag. -/
def Shut (s : System) : Prop :=
  s.cancelled = true ∧ ∀ tx, s.sender = some tx → checkedOf tx.phase = none

variable {capacity : ℕ} {s t : System} {l : Label}

theorem Done.step (h : Done s) (hs : Step capacity s l t) :
    Done t ∧ ∀ res, l = .recvReturned res → res = .ok none := by
  cases hs with
  | recvFinished => exact ⟨h, by rintro _ ⟨⟩; rfl⟩
  | recvCall hrx _ hfin => simp [(h _ hrx).1] at hfin
  | recvCancelled hrx hphase | recvUncancelled hrx hphase | recvTake hrx hphase
  | recvClosed hrx hphase
  | recvEmpty hrx hphase | recvAborted hrx hphase => simp [(h _ hrx).2] at hphase
  | receiverDrop | receiverClose => exact ⟨by rintro _ ⟨⟩, by rintro _ ⟨⟩⟩
  | _ => exact ⟨h, by rintro _ ⟨⟩⟩

variable {res : Except GatewayError (Option CanonicalEvent)}

theorem done_of_recv (hs : Step capacity s (.recvReturned res) t)
    (hres : ∀ e, res = .ok (some e) → e.isTerminal = true) : Done t := by
  generalize hl : Label.recvReturned res = l at hs
  cases hs <;> cases hl
  case recvFinished rx hrx hphase hfin =>
    intro rx' hrx'
    rw [hrx] at hrx'
    cases hrx'
    exact ⟨hfin, hphase⟩
  case recvCancelled => rintro _ ⟨⟩; exact ⟨rfl, rfl⟩
  case recvTake rx e q hrx hphase hq =>
    rintro _ ⟨⟩
    cases happ : rx.state.apply e with
    | error err => simp [CanonicalEventStream.receive, happ]
    | ok u =>
      rw [receive_some happ] at hres ⊢
      exact ⟨(isTerminal_of_apply happ).trans (hres e rfl), rfl⟩
  case recvClosed => rintro _ ⟨⟩; exact ⟨rfl, rfl⟩

theorem cancelled_step (h : s.cancelled = true) (hs : Step capacity s l t) :
    t.cancelled = true := by
  cases hs <;> simp [h]

theorem Shut.step (h : Shut s) (hs : Step capacity s l t) :
    Shut t ∧ ∀ e res, l = .sendReturned e res → res = .error requestCancelledError := by
  obtain ⟨hflag, hcheck⟩ := h
  cases hs with
  | sendCall | sendAborted => exact ⟨⟨hflag, by rintro _ ⟨⟩; rfl⟩, by rintro _ _ ⟨⟩⟩
  | sendRefused htx hphase hstart =>
    refine ⟨⟨hflag, by rintro _ ⟨⟩; rfl⟩, ?_⟩
    rintro _ _ ⟨⟩
    rw [start, if_pos hflag] at hstart
    cases hstart
    rfl
  | sendStarted htx hphase hstart => simp [start, hflag] at hstart
  | sendCancelled htx hphase | sendUncancelled htx hphase | offerClosed htx hphase
  | offerFull htx hphase | offerTaken htx hphase | sendDone htx hphase =>
    exact absurd (hcheck _ htx) (by simp [hphase, checkedOf])
  | senderDrop => exact ⟨⟨hflag, by rintro _ ⟨⟩⟩, by rintro _ _ ⟨⟩⟩
  | receiverDrop => exact ⟨⟨by simp [hflag], hcheck⟩, by rintro _ _ ⟨⟩⟩
  | cancel => exact ⟨⟨rfl, hcheck⟩, by rintro _ _ ⟨⟩⟩
  | _ => exact ⟨⟨hflag, hcheck⟩, by rintro _ _ ⟨⟩⟩

/-- The automaton of the receiver is terminal only after it returned a terminal event. -/
theorem Inv.not_terminal (h : Inv tr s) (hrx : s.receiver = .live rx)
    (hno : ∀ e : CanonicalEvent, e.isTerminal = true → .recvReturned (.ok (some e)) ∉ tr) :
    rx.state.isTerminal = false := by
  have hrun := h.receiver rx hrx
  rcases List.eq_nil_or_concat (received tr) with hr | ⟨p, e, hr⟩
  · rw [hr] at hrun
    rw [← Except.ok.inj hrun]
    rfl
  · rw [hr, List.concat_eq_append, applyAll_snoc_ok] at hrun
    obtain ⟨u, -, happ⟩ := hrun
    rw [isTerminal_of_apply happ]
    have hmem : e ∈ received tr := by simp [hr]
    obtain ⟨l, hl, hle⟩ := List.mem_filterMap.mp hmem
    have hlabel : l = .recvReturned (.ok (some e)) := by
      unfold receivedOf at hle
      split at hle <;> simp_all
    by_contra hterm
    exact hno e (by simpa using hterm) (hlabel ▸ hl)

/-! ### The guarantees of every run -/

/-- What a run that showed `tr` and reached `s` guarantees. -/
structure Guarantees (capacity : ℕ) (tr : List Label) (s : System) : Prop where
  /-- The returned events are, in order, a prefix of those whose `send` returned `Ok` or whose event
  is in the channel. -/
  ordered : received tr <+: sent tr ++ inFlight s
  /-- The rest is what the channel holds, as long as it is open. -/
  pending : s.receiver ≠ .closed → sent tr ++ inFlight s = received tr ++ s.queue
  /-- The receiver accepts whatever comes next out of the channel. -/
  accepts : ∀ rx e q, s.receiver = .live rx → s.queue = e :: q → ∃ u, rx.state.apply e = .ok u
  /-- No event follows a terminal event. -/
  afterTerminal : ∀ a e b, tr = a ++ .recvReturned (.ok (some e)) :: b → e.isTerminal = true →
    ∀ e', .recvReturned (.ok (some e')) ∉ b
  /-- After an error or the end of the stream there is only the end of the stream. -/
  afterEnd : ∀ a res b, tr = a ++ .recvReturned res :: b → (∀ e, res ≠ .ok (some e)) →
    ∀ res', .recvReturned res' ∈ b → res' = .ok none
  /-- A truncation is reported at most once. -/
  truncatedOnce : ∀ a b, tr = a ++ .recvReturned (.error streamTruncatedError) :: b →
    .recvReturned (.error streamTruncatedError) ∉ b
  /-- Dropping the receiver before it returned a terminal event cancels the stream: a `send` made
  later can return, and what it returns is `Cancelled`. -/
  dropCancels : ∀ a b, tr = a ++ .receiverDropped :: b →
    (∀ e : CanonicalEvent, e.isTerminal = true → .recvReturned (.ok (some e)) ∉ a) →
      s.cancelled = true ∧
      (∀ b₁ e b₂, b = b₁ ++ .sendCalled e :: b₂ → ∀ e' res, .sendReturned e' res ∈ b₂ →
        res = .error requestCancelledError) ∧
      ∀ tx e, s.sender = some tx → tx.phase = .called e →
        ∃ u, Step capacity s (.sendReturned e (.error requestCancelledError)) u

variable {b : List Label}

theorem recv_after {a : List Label}
    (h : Run (Step capacity) {} tr s) (heq : tr = a ++ .recvReturned res :: b)
    (hres : ∀ e, res = .ok (some e) → e.isTerminal = true) :
    ∀ res', .recvReturned res' ∈ b → res' = .ok none := by
  obtain ⟨u, u', -, hstep, hrest⟩ := (heq ▸ h).at_label
  obtain ⟨-, hall⟩ := Run.labels (fun _ _ _ hd hs => hd.step hs) (done_of_recv hstep hres) hrest
  exact fun res' hmem => hall _ hmem res' rfl

theorem cancelled_run (hs : s.cancelled = true) (h : Run (Step capacity) s b t) :
    t.cancelled = true :=
  h.keeps (fun _ _ _ => cancelled_step) hs

/-- **Every interleaving delivers in order, rejects nothing and reports its end once.** -/
theorem delivery {tr : List Label} (h : Run (Step capacity) {} tr s) :
    Guarantees capacity tr s where
  ordered := (inv_of_run h).sent ▸ (inv_of_run h).pre
  pending hopen := (inv_of_run h).sent ▸ (inv_of_run h).queued hopen
  accepts _ _ _ hrx hq := (inv_of_run h).receive hrx hq
  afterTerminal a e b heq he e' hmem := by
    have := recv_after h heq (by rintro _ ⟨⟩; exact he) _ hmem
    cases this
  afterEnd a res b heq hres := recv_after h heq fun e he => absurd he (hres e)
  truncatedOnce a b heq hmem := by
    have := recv_after h heq (by rintro _ ⟨⟩) _ hmem
    cases this
  dropCancels a b heq hno := by
    obtain ⟨_, u, ha, hstep, hb⟩ := (heq ▸ h).at_label
    have hu : u.cancelled = true := by
      cases hstep with
      | receiverDrop hrx => simp [(inv_of_run ha).not_terminal hrx hno]
    refine ⟨cancelled_run hu hb, ?_, ?_⟩
    · rintro b₁ e b₂ rfl e' res hmem
      obtain ⟨v, v', h₁, hstep, h₂⟩ := hb.at_label
      have hshut : Shut v' := by
        refine ⟨cancelled_step (cancelled_run hu h₁) hstep, ?_⟩
        cases hstep
        rintro _ ⟨⟩
        rfl
      exact (Run.labels (fun _ _ _ hd hs => hd.step hs) hshut h₂).2 _ hmem e' res rfl
    · intro tx e htx hphase
      exact ⟨_, .sendRefused htx hphase (by simp [start, cancelled_run hu hb])⟩

def startEvent : CanonicalEvent := .responseStart { responseId := .lit "r" }

/-- A `ResponseStart` that is sent and received, a dropped receiver, and one more `send`. -/
def droppedTrace : List Label :=
  [.sendCalled startEvent, .internal, .internal, .enqueued startEvent,
    .sendReturned startEvent (.ok ()), .internal, .internal,
    .recvReturned (.ok (some startEvent)), .receiverDropped,
    .sendCalled (.messageEnd {}), .sendReturned (.messageEnd {}) (.error requestCancelledError)]

/-- The stream after `droppedTrace`. -/
def droppedSystem : System where
  cancelled := true
  sender := some { state := ⟨.opened {}⟩ }
  receiver := .dropping

theorem delivery_dropped :
    Run (Step 1) {} droppedTrace droppedSystem ∧ Guarantees 1 droppedTrace droppedSystem := by
  have hrun : Run (Step 1) {} droppedTrace droppedSystem := by
    refine .cons (.sendCall rfl rfl) ?_
    refine .cons (.sendStarted rfl rfl rfl) ?_
    refine .cons (.sendUncancelled rfl rfl rfl) ?_
    refine .cons (.offerTaken rfl rfl nofun (by decide)) ?_
    refine .cons (.sendDone rfl rfl) ?_
    refine .cons (.recvCall rfl rfl rfl) ?_
    refine .cons (.recvUncancelled rfl rfl rfl) ?_
    refine .cons (@Step.recvTake 1 _ { phase := .reading } startEvent [] rfl rfl rfl) ?_
    refine .cons (.receiverDrop rfl rfl) ?_
    refine .cons (.sendCall rfl rfl) ?_
    exact .cons (.sendRefused rfl rfl rfl) (.nil _)
  exact ⟨hrun, delivery hrun⟩

end CpaGateway.Stream.Delivery
