import HomeMedia.Log
import HomeMedia.Timer.Basic
/-!
# Refreshing an online service

A *fetch* asks an online service for its changes and reports the containers that changed. A fetch
whose token is set before it turns to the service does nothing; one whose token is set meanwhile
still reports what the service has changed, and ends as cancelled.

A *schedule* keeps a service fresh. While it is armed it has one subscription of the timer. A tick
disarms it and queues a scheduled fetch, which cannot be cancelled and arms the schedule again when
it ends, however it ends. A stopped schedule is not armed again.
-/

namespace HomeMedia
namespace Refresh

/-- How a refresh ends. -/
inductive Ending where
  /-- The service panics. -/
  | panic (payload : Task.Payload)
  /-- The service answers: a failure, or the containers that changed. -/
  | answer (result : Except Task.Error (List ObjectId))

/-- How a service behaves during one refresh. -/
structure Script where
  /-- Milliseconds that it takes. -/
  sleep : Option Nat := none
  /-- A gate that it waits for. -/
  gate : Option String := none
  /-- Whether the token is set meanwhile. -/
  cancels : Bool := false
  /-- How it ends. -/
  ending : Ending

/-- An online service. -/
structure Service where
  /-- Its name. -/
  name : String
  /-- Nanoseconds between two scheduled refreshes, if it has any. -/
  interval : Option Nat := none
  /-- How it behaves during its next refreshes; after them nothing changes. -/
  scripts : List Script := []

/-- The refresh of a service at which nothing changes. -/
def Script.idle : Script := { ending := .answer (.ok []) }

/-- The next refresh of a service. -/
def Service.next (s : Service) : Script × Service :=
  match s.scripts with
  | [] => (.idle, s)
  | script :: more => (script, { s with scripts := more })

/-- The steps of a refresh. -/
def Script.steps (s : Script) : List Task.Action :=
  (s.sleep.toList.map Task.Action.sleep) ++ (s.gate.toList.map Task.Action.await) ++
    (if s.cancels then [.interrupt] else []) ++
    match s.ending with
    | .panic payload => [.panic payload]
    | .answer result => [.conclude result]

/-- The interval of a service that can be scheduled. -/
def Service.period? (s : Service) : Option Nat := s.interval.filter fun nanos => nanos != 0

/-- What a fetch makes of the answer of its service. -/
structure Conclusion where
  /-- The containers that are reported, if any. -/
  announced : Option (List ObjectId)
  /-- What is logged. -/
  events : List Event
  /-- How the fetch ends. -/
  outcome : Except Task.Error Task.Outcome

/-- What a fetch makes of the answer of its service, the token being valid or not by then. -/
def conclude (service : String) (valid : Bool) :
    Except Task.Error (List ObjectId) → Conclusion
  | .error e => ⟨none, [], .error e⟩
  | .ok changed =>
    let outcome := if valid then Task.Outcome.completed else .cancelled
    ⟨if changed = [] then none else some changed,
      [.refreshEnded service changed.length outcome], .ok outcome⟩

/-- A whole fetch: the token at its start, the answer of the service, and the token by then. -/
def fetch (service : String) (scheduled valid : Bool) (answer : Except Task.Error (List ObjectId))
    (stillValid : Bool) : Conclusion :=
  if valid then
    let c := conclude service stillValid answer
    { c with events := .refreshStarted service scheduled :: c.events }
  else ⟨none, [], .ok .cancelled⟩

/-- The description of a fetch. -/
def description (service : String) : String := "Updating content from " ++ service

/-- A fetch from a service, scheduled or not, as a task. -/
def fetchTask (service : String) (scheduled : Bool) : Task :=
  { kind := .fetchOnlineContent
    description := description service
    cancellable := !scheduled
    scheduled
    body := [.fetch] }

/-- A schedule of refreshes. -/
structure Schedule where
  /-- The subscription of the timer, while the schedule is armed. -/
  armed : Option Timer.SubscriptionId := none
  /-- Whether the schedule is stopped. -/
  stopped : Bool := true
  deriving DecidableEq, Repr

/-- The schedule, stopped or not. -/
def Schedule.setStopped (stopped : Bool) (s : Schedule) : Schedule := { s with stopped }

end Refresh
end HomeMedia
