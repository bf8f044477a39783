import CpaGateway.Core.Events
import CpaGateway.Core.GatewayEvent
import CpaGateway.Lib.Tables

/-! # The durable log of gateway events

Events become rows of an append-only log, each under its type and identifier: a row that is there
already is not written again, and other contents under the same identity are refused. A batch is one
transaction.

The writer takes events from a queue and appends them in batches. While the store fails it keeps its
batch and tries again; when a record of the batch can never be appended, it appends the events of
the batch one by one and drops those that are refused. -/

namespace CpaGateway.Store.EventStore

open Core.Events Core.GatewayEvent Core.Identity Lib.Effect Lib.Fallible Lib.Tables

inductive GatewayEventPriority
  | required
  | diagnostic
  deriving DecidableEq

/-- An observation; `δ` stands for the fields that are only written out. -/
inductive GatewayEvent (δ : Type)
  | request (requestId : RequestId) (details : δ)
  | attempt (event : AttemptEvent)
  | usage (requestId : RequestId) (responseId : ResponseId) (details : δ)
  | health (healthEventId : HealthEventId) (occurredAtMs : ℤ) (details : δ)
  | diagnostic (details : δ)
  deriving DecidableEq

def GatewayEvent.priority {δ : Type} : GatewayEvent δ → GatewayEventPriority
  | request .. | attempt .. | usage .. | health .. => .required
  | diagnostic .. => .diagnostic

inductive StoreError
  | sqlite
  | diagnosticEventNotPersistable
  | invalidPersistedGatewayEvent
  | conflictingGatewayEventReplay
  deriving DecidableEq

def isRecordPoison : StoreError → Bool
  | .conflictingGatewayEventReplay | .invalidPersistedGatewayEvent
  | .diagnosticEventNotPersistable => true
  | .sqlite => false

/-! ### Records -/

inductive GatewayEventLogKind
  | request
  | attempt
  | usage
  | health
  deriving DecidableEq

structure EventRecord where
  kind : GatewayEventLogKind
  eventId : String
  requestId : Option String
  occurredAtMs : Option ℤ
  payloadJson : String
  deriving DecidableEq

/-- How events are written: as JSON, and the hexadecimal digest of a text. -/
structure Encoding (δ : Type) where
  toJson : GatewayEvent δ → Option String
  sha256Hex : String → String

def maxEventLogIdentifierBytes : ℕ := 512

def isPersistableIdentifier (value : String) : Bool :=
  value != "" && value.utf8ByteSize ≤ maxEventLogIdentifierBytes

section Append

variable {δ : Type} (encoding : Encoding δ)

/-- A response identifier is not unique over requests, so usage is identified by the request. -/
def usageEventId (requestId : RequestId) : String :=
  "usage-request:" ++ encoding.sha256Hex requestId.asStr

/-- The columns but the payload, and whether the identifiers that are not columns are bounded. -/
def recordColumns : GatewayEvent δ →
    Except StoreError (GatewayEventLogKind × String × Option String × Option ℤ × Bool)
  | .request requestId _ => .ok (.request, requestId.asStr, some requestId.asStr, none, true)
  | .attempt event =>
    .ok (.attempt, event.attemptId.asStr, some event.requestId.asStr, some event.endedAtMs, true)
  | .usage requestId responseId _ =>
    .ok (.usage, usageEventId encoding requestId, some requestId.asStr, none,
      isPersistableIdentifier responseId.asStr)
  | .health healthEventId occurredAtMs _ =>
    .ok (.health, healthEventId.asStr, none, some occurredAtMs, true)
  | .diagnostic _ => .error .diagnosticEventNotPersistable

def EventRecord.fromEvent (event : GatewayEvent δ) : Except StoreError EventRecord := do
  let (kind, eventId, requestId, occurredAtMs, boundedSourceId) ← recordColumns encoding event
  let payloadJson ← okOr (encoding.toJson event) .invalidPersistedGatewayEvent
  ensure (isPersistableIdentifier eventId && boundedSourceId &&
    requestId.all isPersistableIdentifier)
    .invalidPersistedGatewayEvent
  return ⟨kind, eventId, requestId, occurredAtMs, payloadJson⟩

/-! ### The log -/

/-- The identity of a record. -/
def EventRecord.key (record : EventRecord) : GatewayEventLogKind × String :=
  (record.kind, record.eventId)

/-- The rows in the order of their ordinals. -/
structure EventLog where
  rows : List EventRecord
  unique : (rows.map EventRecord.key).Nodup
  deriving DecidableEq

def EventLog.find? (log : EventLog) (key : GatewayEventLogKind × String) : Option EventRecord :=
  log.rows.find? (·.key = key)

def EventLog.insert (log : EventLog) (record : EventRecord) (hnew : log.find? record.key = none) :
    EventLog where
  rows := log.rows ++ [record]
  unique := by
    rw [List.map_append, List.nodup_append]
    refine ⟨log.unique, List.nodup_singleton _, fun key hkey other hother heq => ?_⟩
    obtain ⟨row, hrow, rfl⟩ := List.mem_map.mp hkey
    rw [List.map_singleton, List.mem_singleton] at hother
    exact List.find?_eq_none.mp hnew row hrow (decide_eq_true (heq.trans hother))

/-- The length of a text in SQL: its characters up to the first zero. -/
def sqlLength (value : String) : ℕ := (value.toList.takeWhile (· != Char.ofNat 0)).length

/-- The checks of the table. -/
def EventRecord.check (record : EventRecord) : Bool :=
  0 < sqlLength record.eventId && sqlLength record.eventId ≤ 512 &&
  record.requestId.all (fun requestId => 0 < sqlLength requestId && sqlLength requestId ≤ 512) &&
  0 < sqlLength record.payloadJson

/-- Appends a record that is new; the result counts the rows that were inserted. -/
def appendRecord (record : EventRecord) : Method EventLog StoreError ℕ := do
  let log ← get
  match hfind : log.find? record.key with
  | some existing =>
    ensure (existing.payloadJson = record.payloadJson) .conflictingGatewayEventReplay
    return 0
  | none =>
    ensure record.check .sqlite
    set (log.insert record hfind)
    return 1

def appendRecords : List EventRecord → Method EventLog StoreError ℕ
  | [] => return 0
  | record :: records => do
    let inserted ← appendRecord record
    return inserted + (← appendRecords records)

/-- Appends a batch, when `SQLite` does its work. -/
def appendBatch (events : List (GatewayEvent δ)) : Method EventLog StoreError ℕ := do
  let records ← liftM (events.mapM (EventRecord.fromEvent encoding))
  transaction (appendRecords records)

/-! ### The writer -/

inductive EventWriteFailure
  | transient
  | poisonedRecord
  deriving DecidableEq

/-- What goes wrong with an attempt to write, apart from the records: the store cannot be opened or
the transaction is not committed, or the transaction is committed and a failure is reported. -/
inductive Outage
  | none
  | uncommitted
  | committed
  deriving DecidableEq

/-- One attempt to write. -/
def writeEvents (outage : Outage) (events : List (GatewayEvent δ)) :
    Method EventLog EventWriteFailure ℕ :=
  .of fun log =>
    match outage with
    | .uncommitted => (.error .transient, log)
    | .committed => (.error .transient, ((appendBatch encoding events).call log).2)
    | .none =>
      let (result, log) := (appendBatch encoding events).call log
      (result.mapError fun error => if isRecordPoison error then .poisonedRecord
        else .transient, log)

/-- The counters, which wrap around. -/
structure EventWriterMetrics where
  requiredEventsCommitted : UInt64 := 0
  rowsInserted : UInt64 := 0
  diagnosticsNotPersisted : UInt64 := 0
  sqliteWriteFailures : UInt64 := 0
  requiredEventsQuarantined : UInt64 := 0
  pendingRequired : UInt64 := 0
  deriving DecidableEq

/-- The writer and its database. `remaining` has the events that are still to be appended one by
one, during such a pass. -/
structure AsyncSqliteEventWriter (δ : Type) where
  database : EventLog
  pending : List (GatewayEvent δ) := []
  remaining : Option (List (GatewayEvent δ)) := none
  metrics : EventWriterMetrics := {}

/-- What a step of the writer did. -/
inductive Report (δ : Type)
  | accepted (event : GatewayEvent δ)
  | diagnostic
  | committed (events : List (GatewayEvent δ))
  | quarantined (event : GatewayEvent δ)
  | failed (outage : Outage)
  | replaying
  | replayed

variable (w : AsyncSqliteEventWriter δ)

def updatePendingMetric : AsyncSqliteEventWriter δ :=
  { w with metrics := { w.metrics with pendingRequired := .ofNat w.pending.length } }

def acceptEvent (event : GatewayEvent δ) : Report δ × AsyncSqliteEventWriter δ :=
  match event.priority with
  | .required => (.accepted event, updatePendingMetric { w with pending := w.pending ++ [event] })
  | .diagnostic =>
    (.diagnostic, { w with metrics := { w.metrics with
      diagnosticsNotPersisted := w.metrics.diagnosticsNotPersisted + 1 } })

/-- The counters after a transaction. -/
def countCommitted (committed inserted : ℕ) : AsyncSqliteEventWriter δ :=
  { w with metrics := { w.metrics with
    requiredEventsCommitted := w.metrics.requiredEventsCommitted + .ofNat committed
    rowsInserted := w.metrics.rowsInserted + .ofNat inserted } }

def countFailure : AsyncSqliteEventWriter δ :=
  { w with metrics := { w.metrics with sqliteWriteFailures := w.metrics.sqliteWriteFailures + 1 } }

/-- The pending batch is written; a poisoned one is handed to a pass of its own. -/
def writePending (outage : Outage) : Report δ × AsyncSqliteEventWriter δ :=
  let (result, database) := (writeEvents encoding outage w.pending).call w.database
  let w := { w with database := database }
  match result with
  | .ok inserted =>
    (.committed w.pending,
      updatePendingMetric { countCommitted w w.pending.length inserted with pending := [] })
  | .error .transient => (.failed outage, countFailure w)
  | .error .poisonedRecord => (.replaying, { w with pending := [], remaining := some w.pending })

/-- One round of the pass that appends the events one by one. An outage ends the pass, with what is
left pending. -/
def quarantinePoisonedPending (outage : Outage) :
    List (GatewayEvent δ) → Report δ × AsyncSqliteEventWriter δ
  | [] => (.replayed, updatePendingMetric { w with remaining := none })
  | event :: remaining =>
    let w := { w with metrics := { w.metrics with
      pendingRequired := UInt64.ofNat remaining.length + 1 } }
    let (result, database) := (writeEvents encoding outage [event]).call w.database
    let w := { w with database := database, remaining := some remaining }
    match result with
    | .ok inserted => (.committed [event], countCommitted w 1 inserted)
    | .error .poisonedRecord =>
      (.quarantined event, { w with metrics := { w.metrics with
        requiredEventsQuarantined := w.metrics.requiredEventsQuarantined + 1 } })
    | .error .transient =>
      (.failed outage,
        countFailure (updatePendingMetric
          { w with pending := w.pending ++ event :: remaining, remaining := none }))

/-- The rounds of the loop: while there is room in the batch an event that is ready is taken, and at
any time with events pending these are written. -/
inductive Step (batchSize : ℕ) : AsyncSqliteEventWriter δ → Report δ →
      AsyncSqliteEventWriter δ → Prop
  | accept {w : AsyncSqliteEventWriter δ} {event} (hloop : w.remaining = none)
    (hroom : w.pending = [] ∨ w.pending.length < batchSize) :
    Step batchSize w (acceptEvent w event).1 (acceptEvent w event).2
  | write {w : AsyncSqliteEventWriter δ} {outage} (hloop : w.remaining = none)
    (hpending : w.pending ≠ []) :
    Step batchSize w (writePending encoding w outage).1 (writePending encoding w outage).2
  | replay {w : AsyncSqliteEventWriter δ} {outage remaining}
    (hloop : w.remaining = some remaining) :
    Step batchSize w (quarantinePoisonedPending encoding w outage remaining).1
      (quarantinePoisonedPending encoding w outage remaining).2

end Append

end CpaGateway.Store.EventStore
