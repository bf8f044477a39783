import CpaGateway.Catalog.Discovery
import CpaGateway.Core.Error

/-! # The scheduler of model discoveries

`synchronize` joins the discovery of its target that is in flight, or starts one. The map of flights
is behind a lock that is held over one lookup or one update; between these steps the tasks and
callers interleave in any way. A flight is known by its number, and owns a channel with room for one
result.

The spawned task discovers, removes its flight from the map, and publishes the result. A source that
panics ends the task at once: nothing is removed and nothing is published. The channel is closed
when neither the task nor the map holds the flight. -/

namespace CpaGateway.Catalog.Scheduler

open Catalog.Discovery Core.Error

abbrev ModelCatalogResult := Except GatewayError (List DiscoveredModel)

/-- How far the task of a flight has come. -/
inductive Task
  | discovering
  | discovered (result : ModelCatalogResult)
  | removed (result : ModelCatalogResult)
  | published
  | panicked

def Task.HasEnded : Task → Prop
  | published | panicked => True
  | discovering | discovered _ | removed _ => False

/-- A flight, with the value of its channel. -/
structure Flight where
  target : ModelCatalogTarget
  task : Task := .discovering
  result : Option ModelCatalogResult := none

/-- A caller of `synchronize`. -/
inductive Caller
  | arrived (target : ModelCatalogTarget)
  | waiting (flight : ℕ)
  | returned (result : ModelCatalogResult)
  | cancelled

structure ModelCatalogScheduler where
  inFlight : ModelCatalogTarget → Option ℕ := fun _ => none
  flights : ℕ → Option Flight := fun _ => none
  started : ℕ := 0
  callers : ℕ → Option Caller := fun _ => none

namespace ModelCatalogScheduler

variable (s : ModelCatalogScheduler)

def setCaller (c : ℕ) (caller : Caller) : ModelCatalogScheduler :=
  { s with callers := Function.update s.callers c (some caller) }

def setFlight (f : ℕ) (flight : Flight) : ModelCatalogScheduler :=
  { s with flights := Function.update s.flights f (some flight) }

/-- A new flight in the map. -/
def spawnDiscovery (target : ModelCatalogTarget) : ModelCatalogScheduler :=
  { s.setFlight s.started { target } with
    inFlight := Function.update s.inFlight target (some s.started)
    started := s.started + 1 }

/-- Removes the flight from the map, if it is the flight of the target there. -/
def removeFlight (target : ModelCatalogTarget) (f : ℕ) : ModelCatalogScheduler :=
  if s.inFlight target = some f then
    { s with inFlight := Function.update s.inFlight target none }
  else s

end ModelCatalogScheduler

inductive Label
  | arrive (c : ℕ) (target : ModelCatalogTarget)
  | join (c f : ℕ)
  | start (c f : ℕ)
  | discover (f : ℕ) (outcome : ModelCatalogResult)
  | panic (f : ℕ)
  | remove (f : ℕ)
  | publish (f : ℕ) (result : ModelCatalogResult)
  | receive (c f : ℕ) (result : ModelCatalogResult)
  | closed (c f : ℕ)
  | cancel (c : ℕ)

inductive Step : ModelCatalogScheduler → Label → ModelCatalogScheduler → Prop
  | arrive {s : ModelCatalogScheduler} {c} (target : ModelCatalogTarget) (h : s.callers c = none) :
    Step s (.arrive c target) (s.setCaller c (.arrived target))
  | join {s : ModelCatalogScheduler} {c f target} (h : s.callers c = some (.arrived target))
    (hflight : s.inFlight target = some f) : Step s (.join c f) (s.setCaller c (.waiting f))
  | start {s : ModelCatalogScheduler} {c target} (h : s.callers c = some (.arrived target))
    (hnone : s.inFlight target = none) :
    Step s (.start c s.started) ((s.spawnDiscovery target).setCaller c (.waiting s.started))
  | discover {s : ModelCatalogScheduler} {f flight} (h : s.flights f = some flight)
    (htask : flight.task = .discovering) (outcome : ModelCatalogResult) :
    Step s (.discover f outcome)
      (s.setFlight f { flight with task := .discovered (outcome.map normalizeModels) })
  | panic {s : ModelCatalogScheduler} {f flight} (h : s.flights f = some flight)
    (htask : flight.task = .discovering) :
    Step s (.panic f) (s.setFlight f { flight with task := .panicked })
  | remove {s : ModelCatalogScheduler} {f flight result} (h : s.flights f = some flight)
    (htask : flight.task = .discovered result) :
    Step s (.remove f)
      ((s.removeFlight flight.target f).setFlight f { flight with task := .removed result })
  | publish {s : ModelCatalogScheduler} {f flight result} (h : s.flights f = some flight)
    (htask : flight.task = .removed result) :
    Step s (.publish f result)
      (s.setFlight f { flight with task := .published, result := some result })
  | receive {s : ModelCatalogScheduler} {c f flight result} (h : s.callers c = some (.waiting f))
    (hflight : s.flights f = some flight) (hresult : flight.result = some result) :
    Step s (.receive c f result) (s.setCaller c (.returned result))
  | closed {s : ModelCatalogScheduler} {c f flight} (h : s.callers c = some (.waiting f))
    (hflight : s.flights f = some flight) (hresult : flight.result = none)
    (hended : flight.task.HasEnded) (hdropped : s.inFlight flight.target ≠ some f) :
    Step s (.closed c f) (s.setCaller c (.returned (.error internalError)))
  | cancelArrived {s : ModelCatalogScheduler} {c target}
    (h : s.callers c = some (.arrived target)) : Step s (.cancel c) (s.setCaller c .cancelled)
  | cancelWaiting {s : ModelCatalogScheduler} {c f} (h : s.callers c = some (.waiting f)) :
    Step s (.cancel c) (s.setCaller c .cancelled)

end CpaGateway.Catalog.Scheduler
