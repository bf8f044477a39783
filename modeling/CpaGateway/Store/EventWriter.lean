import CpaGateway.Lib.Outbox
import CpaGateway.Lib.Transition
import CpaGateway.Store.EventStore

/-! # Every run of the event writer appends the events one after the other

The writer is a sender in the sense of `Lib.Outbox`: what it accepted is pending until a transaction
that was reported, or a refusal, settles it. A transaction that was committed but reported as failed
leaves its events pending; the log takes them as replays when they are written again. -/

namespace CpaGateway.Store.EventWriter

open Store.EventStore Lib.Effect Lib.Fallible Lib.Outbox Lib.Tables Lib.Transition EventRecord

variable {δ : Type} {encoding : Encoding δ}

/-! ### Appending -/

variable {events : List (GatewayEvent δ)} {log log' : EventLog}

section Append

variable {record : EventRecord} {event event' : GatewayEvent δ} {n : ℕ}

theorem call_appendRecord_ok :
    (appendRecord record).call log = (.ok n, log') ↔
      (∃ existing, log.find? record.key = some existing ∧
        existing.payloadJson = record.payloadJson ∧
        n = 0 ∧ log' = log) ∨
      ∃ hnew : log.find? record.key = none, record.check = true ∧ n = 1 ∧
        log' = log.insert record hnew := by
  simp only [appendRecord, call_ok]
  constructor
  · intro h
    split at h
    · rename_i existing hfind
      simp only [call_ok, decide_eq_true_eq] at h
      obtain ⟨_, hpayload, rfl, rfl⟩ := h
      exact .inl ⟨existing, hfind, hpayload, rfl, rfl⟩
    · rename_i hfind
      simp only [call_ok] at h
      obtain ⟨_, hcheck, _, rfl, rfl⟩ := h
      exact .inr ⟨hfind, hcheck, rfl, rfl⟩
  · intro h
    rcases h with ⟨existing, hfind, hpayload, rfl, rfl⟩ | ⟨hnew, hcheck, rfl, rfl⟩
    · split <;> simp_all [-bind_pure_comp]
    · split <;> simp_all [-bind_pure_comp]

theorem call_appendBatch_ok :
    (appendBatch encoding events).call log = (.ok n, log') ↔
      ∃ records, events.mapM (fromEvent encoding) = .ok records ∧
        (appendRecords records).call log = (.ok n, log') := by
  simp only [appendBatch, call_ok, call_transaction_ok]

theorem restores_appendBatch : Restores (appendBatch encoding events) :=
  .lift_bind fun _ => restores_transaction _

theorem call_appendBatch_singleton :
    (appendBatch encoding [event]).call log = (.ok n, log') ↔
      ∃ record, fromEvent encoding event = .ok record ∧
        (appendRecord record).call log = (.ok n, log') := by
  rw [call_appendBatch_ok]
  simp only [List.mapM_cons, List.mapM_nil, except_ok]
  constructor
  · rintro ⟨_, ⟨record, hrecord, _, rfl, rfl⟩, h⟩
    simp only [appendRecords, call_ok] at h
    obtain ⟨m, _, hfirst, rfl, rfl⟩ := h
    exact ⟨record, hrecord, hfirst⟩
  · rintro ⟨record, hrecord, h⟩
    refine ⟨_, ⟨record, hrecord, _, rfl, rfl⟩, ?_⟩
    simp only [appendRecords, call_ok]
    exact ⟨n, log', h, rfl, rfl⟩

def Has (encoding : Encoding δ) (log : EventLog) (event : GatewayEvent δ) : Prop :=
  ∃ record, fromEvent encoding event = .ok record ∧
    ∃ existing, log.find? record.key = some existing ∧ existing.payloadJson = record.payloadJson

/-- The verdict of the log on one event, when the store does its work. -/
def verdictOf : Except StoreError ℕ → Verdict
  | .ok _ => .stored
  | .error e => if isRecordPoison e then .refused else .stuck

theorem verdictOf_eq_stored {r : Except StoreError ℕ} : verdictOf r = .stored ↔ ∃ n, r = .ok n := by
  cases r with
  | ok n => simp [verdictOf]
  | error e => cases h : isRecordPoison e <;> simp [verdictOf, h]

/-- Appending to a store that does not fail. -/
def appending (encoding : Encoding δ) : Appending EventLog (GatewayEvent δ) where
  append log event :=
    let (result, log) := (appendBatch encoding [event]).call log
    (verdictOf result, log)
  has := Has encoding
  unchanged := by
    intro log log' event v h hv
    rcases hcall : (appendBatch encoding [event]).call log with ⟨result, log₁⟩
    simp only [hcall, Prod.mk.injEq] at h
    obtain ⟨rfl, rfl⟩ := h
    cases result with
    | ok n => exact absurd rfl hv
    | error e => exact restores_appendBatch _ _ _ hcall
  has_of_append := by
    intro log log' event h
    rcases hcall : (appendBatch encoding [event]).call log with ⟨result, log₁⟩
    simp only [hcall, Prod.mk.injEq] at h
    obtain ⟨hstored, rfl⟩ := h
    obtain ⟨n, rfl⟩ := verdictOf_eq_stored.mp hstored
    obtain ⟨record, hrecord, happend⟩ := call_appendBatch_singleton.mp hcall
    rcases call_appendRecord_ok.mp happend with
      ⟨existing, hfind, hpayload, -, rfl⟩ | ⟨hnew, -, -, rfl⟩
    · exact ⟨record, hrecord, existing, hfind, hpayload⟩
    · refine ⟨record, hrecord, record, ?_, rfl⟩
      rw [EventLog.find?] at hnew
      rw [EventLog.find?, EventLog.insert, List.find?_append, hnew]
      simp
  has_append := by
    rintro log event event' ⟨record, hrecord, existing, hfind, hpayload⟩
    refine ⟨record, hrecord, existing, ?_, hpayload⟩
    rcases hcall : (appendBatch encoding [event']).call log with ⟨result, log₁⟩
    dsimp only
    cases result with
    | error e =>
      rw [restores_appendBatch _ _ _ hcall]
      exact hfind
    | ok n =>
      obtain ⟨record', -, happend⟩ := call_appendBatch_singleton.mp hcall
      rcases call_appendRecord_ok.mp happend with ⟨-, -, -, -, rfl⟩ | ⟨hnew, -, -, rfl⟩
      · exact hfind
      · rw [EventLog.find?] at hfind ⊢
        rw [EventLog.insert, List.find?_append, hfind]
        rfl
  append_of_has := by
    rintro log event ⟨record, hrecord, existing, hfind, hpayload⟩
    have hcall : (appendBatch encoding [event]).call log = (.ok 0, log) :=
      call_appendBatch_singleton.mpr ⟨record, hrecord,
        call_appendRecord_ok.mpr (.inl ⟨existing, hfind, hpayload, rfl, rfl⟩)⟩
    simp only [hcall]
    rfl

/-- **A batch that is appended** is its events appended one after the other. -/
theorem singly_of_appendBatch (h : (appendBatch encoding events).call log = (.ok n, log')) :
    (appending encoding).singly log events = (allStored events, log') := by
  induction events generalizing log n with
  | nil =>
    obtain ⟨records, hrecords, h⟩ := call_appendBatch_ok.mp h
    simp only [List.mapM_nil, pure_ok_iff] at hrecords
    subst hrecords
    simp only [appendRecords, call_pure_ok] at h
    rw [h.2]
    rfl
  | cons event events ih =>
    obtain ⟨records, hrecords, h⟩ := call_appendBatch_ok.mp h
    simp only [List.mapM_cons, except_ok] at hrecords
    obtain ⟨record, hrecord, rest, hrest, rfl⟩ := hrecords
    simp only [appendRecords, call_ok] at h
    obtain ⟨m, log₁, hfirst, k, _, hlater, -, rfl⟩ := h
    have hone : (appendBatch encoding [event]).call log = (.ok m, log₁) :=
      call_appendBatch_singleton.mpr ⟨record, hrecord, hfirst⟩
    have happend : (appending encoding).append log event = (.stored, log₁) := by
      simp only [appending, hone]
      rfl
    rw [Appending.singly, happend]
    simp only [ih (call_appendBatch_ok.mpr ⟨rest, hrest, hlater⟩)]
    rfl

theorem appendBatch_of_has (h : ∀ event ∈ events, Has encoding log event) :
    (appendBatch encoding events).call log = (.ok 0, log) := by
  induction events with
  | nil => exact call_appendBatch_ok.mpr ⟨[], rfl, rfl⟩
  | cons event events ih =>
    obtain ⟨record, hrecord, existing, hfind, hpayload⟩ := h event (.head _)
    obtain ⟨records, hrecords, hcall⟩ := call_appendBatch_ok.mp (ih fun e he => h e (.tail _ he))
    refine call_appendBatch_ok.mpr ⟨record :: records, ?_, ?_⟩
    · simp only [List.mapM_cons, except_ok]
      exact ⟨record, hrecord, records, hrecords, rfl⟩
    · simp only [appendRecords, call_ok]
      exact ⟨0, log, call_appendRecord_ok.mpr (.inl ⟨existing, hfind, hpayload, rfl, rfl⟩), 0, log,
        hcall, rfl, rfl⟩

/-- **Replays.** A batch that is refused leaves the log as it was. The events of one that is
appended can be appended again, in any order and any number, whatever batches were appended or
refused after it; the log then stays as it is. -/
theorem replays_change_nothing (log : EventLog) (events : List (GatewayEvent δ))
    (later : List (List (GatewayEvent δ))) :
    match (appendBatch encoding events).call log with
    | (.error _, log') => log' = log
    | (.ok _, log') =>
      let log'' := later.foldl (fun log batch => ((appendBatch encoding batch).call log).2) log'
      ∀ again ⊆ events, (appendBatch encoding again).call log'' = (.ok 0, log'') := by
  rcases h : (appendBatch encoding events).call log with ⟨e | n, log'⟩
  · exact restores_appendBatch _ _ _ h
  intro again hagain
  refine appendBatch_of_has fun event hevent => ?_
  have hhas := has_of_singly (singly_of_appendBatch h) event (hagain hevent)
  -- an event that the log has stays there, whether a later batch is appended or refused
  refine List.foldlRecOn (motive := (Has encoding · event)) later _ hhas fun log hhas batch _ => ?_
  rcases hcall : (appendBatch encoding batch).call log with ⟨e | m, log₁⟩
  · rwa [restores_appendBatch _ _ _ hcall]
  · have hkept : Has encoding ((appending encoding).singly log batch).2 event :=
      has_singly (A := appending encoding) hhas
    rwa [singly_of_appendBatch hcall] at hkept

end Append

/-! ### Attempts -/

section Write

variable {event : GatewayEvent δ} {n : ℕ} {outage : Outage}

/-- What an attempt to write has done: a failure has changed nothing, or the transaction was
committed. -/
theorem writeEvents_cases {o : Except EventWriteFailure ℕ}
    (h : (writeEvents encoding outage events).call log = (o, log')) :
    match (motive := _ → Prop) o with
    | .ok _ => (appending encoding).singly log events = (allStored events, log')
    | .error .poisonedRecord =>
      log' = log ∧ verdictOf ((appendBatch encoding events).call log).1 = .refused
    | .error .transient => log' = log ∨
      outage = .committed ∧ (appending encoding).singly log events = (allStored events, log') := by
  rw [writeEvents, call_of] at h
  rcases hcall : (appendBatch encoding events).call log with ⟨e | m, log₁⟩ <;> rw [hcall] at h
  · obtain rfl := restores_appendBatch _ _ _ hcall
    cases outage with
    | uncommitted | committed =>
      cases h
      exact .inl rfl
    | none =>
      cases hpoison : isRecordPoison e <;> simp only [Except.mapError, hpoison] at h <;> cases h
      · exact .inl rfl
      · simp [verdictOf, hpoison]
  · cases outage <;> cases h
    · exact singly_of_appendBatch hcall
    · exact .inl rfl
    · exact .inr ⟨rfl, singly_of_appendBatch hcall⟩

end Write

/-! ### Runs -/

section Runs

variable {batchSize : ℕ} {w w' : AsyncSqliteEventWriter δ} {tr : List (Report δ)}
  {report : Report δ}

def acceptedBy : Report δ → List (GatewayEvent δ)
  | .accepted event => [event]
  | _ => []

def settledBy : Report δ → List (GatewayEvent δ × Verdict)
  | .committed events => allStored events
  | .quarantined event => [(event, .refused)]
  | _ => []

/-- The Required events that were accepted, in their order. -/
def accepted (tr : List (Report δ)) : List (GatewayEvent δ) := tr.flatMap acceptedBy

/-- The events that were committed or quarantined, in their order. -/
def settled (tr : List (Report δ)) : List (GatewayEvent δ × Verdict) := tr.flatMap settledBy

/-- The events that are still to be written. -/
def owed (w : AsyncSqliteEventWriter δ) : List (GatewayEvent δ) := w.pending ++ w.remaining.getD []

/-- The writer after the steps of `tr`, as a sender. -/
def senderOf (tr : List (Report δ)) (w : AsyncSqliteEventWriter δ) :
    Sender EventLog (GatewayEvent δ) :=
  ⟨w.database, accepted tr, settled tr, owed w⟩

theorem senderOf_snoc : senderOf (tr ++ [report]) w =
    ⟨w.database, accepted tr ++ acceptedBy report, settled tr ++ settledBy report, owed w⟩ := by
  simp [senderOf, accepted, settled]

/-- Whether the step is a transaction that was committed and reported as failed. -/
def isHidden : Report δ → Bool
  | .failed .committed => true
  | _ => false

/-- What a step does to the sender. -/
def Moves (encoding : Encoding δ) (tr : List (Report δ)) (w : AsyncSqliteEventWriter δ)
    (report : Report δ) (w' : AsyncSqliteEventWriter δ) : Prop :=
  senderOf (tr ++ [report]) w' = senderOf tr w ∨
    ∃ hidden, Move (appending encoding) (senderOf tr w) hidden (senderOf (tr ++ [report]) w') ∧
      (hidden = true → isHidden report = true)

theorem moves_acceptEvent {event : GatewayEvent δ} (hloop : w.remaining = none) :
    Moves encoding tr w (acceptEvent w event).1 (acceptEvent w event).2 := by
  unfold acceptEvent
  cases event.priority with
  | required =>
    refine .inr ⟨false, ?_, by simp⟩
    have howed : owed (updatePendingMetric { w with pending := w.pending ++ [event] }) =
        owed w ++ [event] := by
      simp [owed, updatePendingMetric, hloop]
    rw [senderOf_snoc, howed]
    simp only [settledBy, List.append_nil]
    exact .accept (senderOf tr w) event
  | diagnostic =>
    refine .inl ?_
    rw [senderOf_snoc]
    simp only [acceptedBy, settledBy, List.append_nil]
    rfl

theorem moves_writePending {outage : Outage} (hloop : w.remaining = none) :
    Moves encoding tr w (writePending encoding w outage).1 (writePending encoding w outage).2 := by
  have howed : owed w = w.pending ++ [] := by simp [owed, hloop]
  unfold writePending
  rcases hwrite : (writeEvents encoding outage w.pending).call w.database with ⟨result, database⟩
  simp only [Moves, senderOf_snoc]
  cases result with
  | ok inserted =>
    refine .inr ⟨false, ?_, by simp⟩
    have hnone : owed (updatePendingMetric { countCommitted { w with database := database }
        w.pending.length inserted with pending := [] }) = [] := by
      simp [owed, updatePendingMetric, countCommitted, hloop]
    simp only [acceptedBy, List.append_nil, hnone]
    exact .store (o := senderOf tr w) howed (writeEvents_cases hwrite)
  | error failure =>
    cases failure with
    | poisonedRecord =>
      simp only [acceptedBy, settledBy, (writeEvents_cases hwrite).1]
      simp [senderOf, owed, hloop]
    | transient =>
      simp only [acceptedBy, settledBy, List.append_nil]
      rcases writeEvents_cases hwrite with rfl | ⟨rfl, hstored⟩
      · exact .inl rfl
      · exact .inr ⟨true, .unknown (o := senderOf tr w) howed hstored, fun _ => rfl⟩

theorem moves_quarantinePoisonedPending {outage : Outage} {remaining : List (GatewayEvent δ)}
    (hapart : w.remaining ≠ none → w.pending = []) (hloop : w.remaining = some remaining) :
    Moves encoding tr w (quarantinePoisonedPending encoding w outage remaining).1
      (quarantinePoisonedPending encoding w outage remaining).2 := by
  have hpending : w.pending = [] := hapart (by simp [hloop])
  cases remaining with
  | nil =>
    refine .inl ?_
    rw [quarantinePoisonedPending, senderOf_snoc]
    simp [acceptedBy, settledBy, senderOf, owed, updatePendingMetric, hloop]
  | cons event remaining =>
    have howed : owed w = [event] ++ remaining := by simp [owed, hloop, hpending]
    unfold quarantinePoisonedPending
    rcases hwrite : (writeEvents encoding outage [event]).call w.database with ⟨result, database⟩
    simp only [Moves, senderOf_snoc, hwrite]
    cases result with
    | ok inserted =>
      refine .inr ⟨false, ?_, by simp⟩
      simp only [acceptedBy, List.append_nil, owed, countCommitted, hpending]
      exact .store (o := senderOf tr w) howed (writeEvents_cases hwrite)
    | error failure =>
      cases failure with
      | poisonedRecord =>
        refine .inr ⟨false, ?_, by simp⟩
        obtain ⟨rfl, hrefused⟩ := writeEvents_cases hwrite
        simp only [acceptedBy, List.append_nil, owed, hpending]
        exact .refuse (o := senderOf tr w) howed hrefused
      | transient =>
        have hsame : event :: remaining = owed w := howed.symm
        simp only [acceptedBy, settledBy, owed, countFailure, updatePendingMetric, hpending,
          List.append_nil, Option.getD_none]
        rw [hsame]
        rcases writeEvents_cases hwrite with rfl | ⟨rfl, hstored⟩
        · exact .inl rfl
        · exact .inr ⟨true, .unknown (o := senderOf tr w) howed hstored, fun _ => rfl⟩

def withVerdict (verdict : Verdict) (tr : List (Report δ)) : List (GatewayEvent δ) :=
  ((settled tr).filter fun entry => entry.2 = verdict).map Prod.fst

theorem withVerdict_snoc {verdict : Verdict} : withVerdict verdict (tr ++ [report]) =
    withVerdict verdict tr ++ ((settledBy report).filter fun entry => entry.2 = verdict).map
      Prod.fst := by
  simp [withVerdict, settled]

/-- The counters say how many events there are; outside a pass also for the pending ones. -/
structure Counted (tr : List (Report δ)) (w : AsyncSqliteEventWriter δ) : Prop where
  committed : w.metrics.requiredEventsCommitted = .ofNat (withVerdict .stored tr).length
  quarantined : w.metrics.requiredEventsQuarantined = .ofNat (withVerdict .refused tr).length
  pending : w.remaining = none → w.metrics.pendingRequired = .ofNat w.pending.length
  apart : w.remaining ≠ none → w.pending = []

theorem Counted.keep (hw : Counted tr w) (hreport : settledBy report = [])
    (hcommitted : w'.metrics.requiredEventsCommitted = w.metrics.requiredEventsCommitted)
    (hquarantined : w'.metrics.requiredEventsQuarantined = w.metrics.requiredEventsQuarantined)
    (hpending : w'.remaining = none → w'.metrics.pendingRequired = .ofNat w'.pending.length)
    (hapart : w'.remaining ≠ none → w'.pending = []) : Counted (tr ++ [report]) w' := by
  refine ⟨?_, ?_, hpending, hapart⟩
  · rw [withVerdict_snoc, hreport, hcommitted, hw.committed]
    simp
  · rw [withVerdict_snoc, hreport, hquarantined, hw.quarantined]
    simp

theorem Counted.commit (hw : Counted tr w)
    (hcommitted : w'.metrics.requiredEventsCommitted =
      w.metrics.requiredEventsCommitted + .ofNat events.length)
    (hquarantined : w'.metrics.requiredEventsQuarantined = w.metrics.requiredEventsQuarantined)
    (hpending : w'.remaining = none → w'.metrics.pendingRequired = .ofNat w'.pending.length)
    (hapart : w'.remaining ≠ none → w'.pending = []) : Counted (tr ++ [.committed events]) w' := by
  refine ⟨?_, ?_, hpending, hapart⟩
  · rw [withVerdict_snoc, hcommitted, hw.committed]
    simp [settledBy, allStored, List.filter_map, Function.comp_def]
  · rw [withVerdict_snoc, hquarantined, hw.quarantined]
    simp [settledBy, allStored, List.filter_map, Function.comp_def]

theorem counted_step (h : Step encoding batchSize w report w') (hw : Counted tr w) :
    Counted (tr ++ [report]) w' := by
  cases h with
  | @accept event hloop hroom =>
    unfold acceptEvent
    cases event.priority with
    | required => exact hw.keep rfl rfl rfl (fun _ => rfl) fun hne => absurd hloop hne
    | diagnostic => exact hw.keep rfl rfl rfl hw.pending hw.apart
  | @write outage hloop hpending =>
    unfold writePending
    rcases (writeEvents encoding outage w.pending).call w.database with ⟨(_ | _) | _, _⟩
    · exact hw.keep rfl rfl rfl hw.pending hw.apart
    · exact hw.keep rfl rfl rfl (fun hnone => by cases hnone) fun _ => rfl
    · exact hw.commit rfl rfl (fun _ => rfl) fun hne => absurd hloop hne
  | @replay outage remaining hloop =>
    have hpending : w.pending = [] := hw.apart (by simp [hloop])
    cases remaining with
    | nil => exact hw.keep rfl rfl rfl (fun _ => rfl) fun hne => absurd rfl hne
    | cons event remaining =>
      unfold quarantinePoisonedPending
      rcases hwrite : (writeEvents encoding outage [event]).call w.database with ⟨(_ | _) | _, _⟩
      all_goals simp only [hwrite]
      · exact hw.keep rfl rfl rfl (fun _ => rfl) fun hne => absurd rfl hne
      · refine ⟨?_, ?_, fun hnone => (by cases hnone), fun _ => hpending⟩
        · rw [withVerdict_snoc]
          simpa [settledBy] using hw.committed
        · rw [withVerdict_snoc]
          simp only [settledBy, decide_true, List.filter_cons_of_pos, List.filter_nil,
            List.map_singleton, List.length_append, UInt64.ofNat_add, ← hw.quarantined]
          rfl
      · exact hw.commit rfl rfl (fun hnone => by cases hnone) fun _ => hpending

/-- **One step of the writer** is a move of a sender, or changes nothing of it. -/
theorem moves_step (h : Step encoding batchSize w report w') (hw : Counted tr w) :
    Moves encoding tr w report w' := by
  cases h with
  | accept hloop hroom => exact moves_acceptEvent hloop
  | write hloop hpending => exact moves_writePending hloop
  | replay hloop => exact moves_quarantinePoisonedPending hw.apart hloop

theorem verdict_of_settled {entry : GatewayEvent δ × Verdict} (h : entry ∈ settled tr) :
    entry.2 = .stored ∨ entry.2 = .refused := by
  obtain ⟨report, -, hentry⟩ := List.mem_flatMap.mp h
  cases report with
  | committed events =>
    obtain ⟨event, -, rfl⟩ := List.mem_map.mp hentry
    exact .inl rfl
  | quarantined event =>
    rw [List.mem_singleton.mp hentry]
    exact .inr rfl
  | _ => cases hentry

/-- The writer is where a sequential writer is, up to transactions it does not know of. -/
structure Tracks (encoding : Encoding δ) (log₀ : EventLog) (tr : List (Report δ))
    (w : AsyncSqliteEventWriter δ) : Prop where
  counted : Counted tr w
  refines : ∃ doubtful, Refines (appending encoding) log₀ (senderOf tr w) doubtful ∧
    ((∀ report ∈ tr, isHidden report = false) → doubtful = [])

theorem tracks_step {log₀ : EventLog} (hw : Tracks encoding log₀ tr w)
    (h : Step encoding batchSize w report w') : Tracks encoding log₀ (tr ++ [report]) w' := by
  refine ⟨counted_step h hw.counted, ?_⟩
  obtain ⟨doubtful, hrefines, hnone⟩ := hw.refines
  have hearlier : (∀ r ∈ tr ++ [report], isHidden r = false) → doubtful = [] := fun hall =>
    hnone fun r hr => hall r (List.mem_append_left _ hr)
  rcases moves_step h hw.counted with hsame | ⟨hidden, hmove, hhidden⟩
  · exact ⟨doubtful, hsame ▸ hrefines, hearlier⟩
  · obtain ⟨doubtful', hrefines', hnone'⟩ := refines_move hrefines hmove
    refine ⟨doubtful', hrefines', fun hall => hnone' ?_ (hearlier hall)⟩
    by_contra hne
    have hreport := hall report (by simp)
    rw [hhidden (by simpa using hne)] at hreport
    cases hreport

/-- **The writer refines appending one by one.** Each accepted event is committed, quarantined or
still owed, in the order of arrival; the log and the verdicts are those of a sequential writer that
has processed the settled events, and those whose transaction was committed but reported as failed;
no identity is in the log twice; and the counters are right. -/
theorem writer_refines_sequential {log₀ : EventLog}
    (hrun : Run (Step encoding batchSize) { database := log₀ } tr w) :
    (accepted tr = (settled tr).map Prod.fst ++ owed w ∧
      ∀ entry ∈ settled tr, entry.2 = .stored ∨ entry.2 = .refused) ∧
    (∃ doubtful, doubtful <+: owed w ∧
      (appending encoding).singly log₀ ((settled tr).map Prod.fst ++ doubtful) =
        (settled tr ++ allStored doubtful, w.database) ∧
      ((∀ report ∈ tr, isHidden report = false) → doubtful = [])) ∧
    (w.database.rows.map key).Nodup ∧
    w.metrics.requiredEventsCommitted = .ofNat (withVerdict .stored tr).length ∧
    w.metrics.requiredEventsQuarantined = .ofNat (withVerdict .refused tr).length ∧
    (w.remaining = none → w.metrics.pendingRequired = .ofNat (owed w).length) := by
  have hstart : Tracks encoding log₀ [] { database := log₀ } :=
    ⟨⟨rfl, rfl, fun _ => rfl, fun _ => rfl⟩, [], ⟨rfl, List.nil_prefix, rfl, rfl⟩, fun _ => rfl⟩
  obtain ⟨hcounted, doubtful, hrefines, hnone⟩ := hrun.invariant hstart fun _ => tracks_step
  refine ⟨⟨hrefines.accepted, fun entry => verdict_of_settled⟩,
    ⟨doubtful, hrefines.pending, hrefines.singly, hnone⟩, w.database.unique, hcounted.committed,
    hcounted.quarantined, fun hloop => ?_⟩
  rw [hcounted.pending hloop, owed, hloop]
  simp

end Runs

/-- Events of requests, with their details as contents. -/
def sampleEncoding : Encoding String where
  toJson
    | .request _ details => some details
    | _ => none
  sha256Hex value := value

def sampleFirst : GatewayEvent String := .request (.lit "request") "first"

/-- Other contents under the same identity. -/
def sampleOther : GatewayEvent String := .request (.lit "request") "other"

def sampleStart : AsyncSqliteEventWriter String := { database := ⟨[], by simp⟩ }

/-- Events under other identities. -/
def sampleSecond : GatewayEvent String := .request (.lit "second") "second"

def sampleThird : GatewayEvent String := .request (.lit "third") "third"

/-- Two events are appended; a later batch is refused, and another one appended. -/
theorem replays_change_nothing_sample :
    let log :=
      ((appendBatch sampleEncoding [sampleFirst, sampleSecond]).call sampleStart.database).2
    let log' := [[sampleThird, sampleOther], [sampleSecond, sampleThird]].foldl
      (fun log batch => ((appendBatch sampleEncoding batch).call log).2) log
    log.rows.length = 2 ∧ log'.rows.length = 3 ∧ ∀ again ⊆ [sampleFirst, sampleSecond],
      (appendBatch sampleEncoding again).call log' = (.ok 0, log') :=
  ⟨rfl, rfl, @replays_change_nothing _ sampleEncoding sampleStart.database
    [sampleFirst, sampleSecond]
    [[sampleThird, sampleOther], [sampleSecond, sampleThird]]⟩

def sampleAccepted : AsyncSqliteEventWriter String := (acceptEvent sampleStart sampleFirst).2

/-- The first event is written, and a failure is reported. -/
def sampleFailed : AsyncSqliteEventWriter String :=
  (writePending sampleEncoding sampleAccepted .committed).2

def sampleBoth : AsyncSqliteEventWriter String := (acceptEvent sampleFailed sampleOther).2

def samplePoisoned : AsyncSqliteEventWriter String :=
  (writePending sampleEncoding sampleBoth .none).2

def sampleReplayed : AsyncSqliteEventWriter String :=
  (quarantinePoisonedPending sampleEncoding samplePoisoned .none [sampleFirst, sampleOther]).2

def sampleWriter : AsyncSqliteEventWriter String :=
  (quarantinePoisonedPending sampleEncoding sampleReplayed .none [sampleOther]).2

def sampleTrace : List (Report String) :=
  [.accepted sampleFirst, .failed .committed, .accepted sampleOther, .replaying,
    .committed [sampleFirst], .quarantined sampleOther]

theorem run_sample : Run (Step sampleEncoding 64) sampleStart sampleTrace sampleWriter := by
  have haccept : Step sampleEncoding 64 sampleStart (.accepted sampleFirst) sampleAccepted :=
    @Step.accept _ _ _ sampleStart sampleFirst rfl (.inl rfl)
  have hfail : Step sampleEncoding 64 sampleAccepted (.failed .committed) sampleFailed :=
    @Step.write _ _ _ sampleAccepted .committed rfl (List.cons_ne_nil _ _)
  have haccept' : Step sampleEncoding 64 sampleFailed (.accepted sampleOther) sampleBoth :=
    @Step.accept _ _ _ sampleFailed sampleOther rfl (.inr (show 1 < 64 by decide))
  have hpoison : Step sampleEncoding 64 sampleBoth .replaying samplePoisoned :=
    @Step.write _ _ _ sampleBoth .none rfl (List.cons_ne_nil _ _)
  have hcommit : Step sampleEncoding 64 samplePoisoned (.committed [sampleFirst]) sampleReplayed :=
    @Step.replay _ _ _ samplePoisoned .none [sampleFirst, sampleOther] rfl
  have hrefuse : Step sampleEncoding 64 sampleReplayed (.quarantined sampleOther) sampleWriter :=
    @Step.replay _ _ _ sampleReplayed .none [sampleOther] rfl
  exact .cons haccept <| .cons hfail <| .cons haccept' <| .cons hpoison <| .cons hcommit <|
    .cons hrefuse (.nil _)

theorem writer_refines_sequential_sample :
    sampleWriter.metrics.requiredEventsQuarantined = 1 ∧
      accepted sampleTrace = [sampleFirst, sampleOther] :=
  ⟨(writer_refines_sequential run_sample).2.2.2.2.1, (writer_refines_sequential run_sample).1.1⟩

end CpaGateway.Store.EventWriter
