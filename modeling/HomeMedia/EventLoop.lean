/-!
# The event loop

Everything that happens over time is done by *agents*: the worker of the task queue, the pulse of a
subscription, a call that waits. An agent that can go on stands in the list of the *ready*; it is
polled, does what it can do without waiting, and either becomes ready again, sets an alarm, or is
woken up by somebody else. One agent runs at a time, and nothing takes time but waiting.

The clock counts whole milliseconds. It moves only while no agent is ready: *sleeping* moves it from
alarm to alarm, each going off at its own time, and *jumping* moves it all the way at once, so that
all overdue alarms go off late. Alarms for one instant go off in the order in which they were set.

The number of polls that a state can still need is bounded by its *effort*, so working off the
ready agents always comes to an end.
-/

namespace HomeMedia

/-- An agent that is to become ready at a time. -/
structure Alarm (Agent : Type) where
  /-- The time in milliseconds. -/
  due : Nat
  /-- Who is woken up. -/
  agent : Agent
  deriving DecidableEq, Repr

/-- The clock, the agents that can go on, and those that wait for a time. -/
structure EventLoop (Agent : Type) where
  /-- The time in milliseconds. -/
  now : Nat := 0
  /-- Who can go on, first come first served. -/
  ready : List Agent := []
  /-- Who waits for a time, in the order in which the alarms were set. -/
  alarms : List (Alarm Agent) := []
  deriving DecidableEq, Repr

namespace EventLoop

/-- What a list weighs when each of its elements weighs something. -/
def total {α : Type} (weight : α → Nat) : List α → Nat
  | [] => 0
  | a :: more => weight a + total weight more

variable {Agent : Type}

/-- An agent becomes ready behind all others. -/
def wake (agent : Agent) (l : EventLoop Agent) : EventLoop Agent :=
  { l with ready := l.ready ++ [agent] }

/-- An agent goes on before all others. -/
def goOn (agent : Agent) (l : EventLoop Agent) : EventLoop Agent :=
  { l with ready := agent :: l.ready }

/-- An agent waits for a time. -/
def wakeAt (due : Nat) (agent : Agent) (l : EventLoop Agent) : EventLoop Agent :=
  { l with alarms := l.alarms ++ [⟨due, agent⟩] }

/-- The earliest alarm that is due by a time. -/
def nextDue? (limit : Nat) (l : EventLoop Agent) : Option Nat :=
  ((l.alarms.filter fun a => a.due ≤ limit).map Alarm.due).min?

/-- Moves the clock; the alarms that are due by then go off, earlier ones first. -/
def moveTo (time : Nat) (l : EventLoop Agent) : EventLoop Agent :=
  let due := (l.alarms.filter fun a => a.due ≤ time).mergeSort fun a b => a.due ≤ b.due
  { now := time
    ready := l.ready ++ due.map Alarm.agent
    alarms := l.alarms.filter fun a => !decide (a.due ≤ time) }

end EventLoop

/-- A state in which agents run. -/
class Live (State : Type) (Agent : outParam Type) where
  /-- The clock and the agents. -/
  loop : State → EventLoop Agent
  /-- The state with another clock and other agents. -/
  withLoop : EventLoop Agent → State → State
  /-- What an agent does when it is its turn. -/
  poll : Agent → State → State
  /-- A bound on the polls until nobody is ready. -/
  effort : State → Nat

namespace Live

variable {State Agent : Type} [Live State Agent]

/-- Lets the first of the ready agents have its turn. -/
def turn? (s : State) : Option State :=
  match (loop s).ready with
  | [] => none
  | agent :: rest => some (poll agent (withLoop { loop s with ready := rest } s))

/-- Lets agents have their turns until nobody is ready, or the turns are used up. -/
def settleWithin : Nat → State → State
  | 0, s => s
  | turns + 1, s =>
    match turn? s with
    | none => s
    | some s => settleWithin turns s

/-- Lets agents have their turns until nobody is ready. -/
def settle (s : State) : State := settleWithin (effort s) s

/-- Moves the clock to a time at once. -/
def moveTo (time : Nat) (s : State) : State := withLoop ((loop s).moveTo time) s

/-- Moves the clock from alarm to alarm up to a time; each stop is later than the one before. -/
def sleepWithin : Nat → Nat → State → State
  | 0, limit, s => moveTo limit s
  | stops + 1, limit, s =>
    match (loop s).nextDue? limit with
    | none => moveTo limit s
    | some due => sleepWithin stops limit (settle (moveTo due s))

/-- Lets a number of milliseconds pass, everything happening at its own time. -/
def sleep (ms : Nat) (s : State) : State :=
  sleepWithin (ms + 1) ((loop s).now + ms) (settle s)

/-- Lets a number of milliseconds pass at once; what could go on before, and what is overdue then,
happens late. -/
def jump (ms : Nat) (s : State) : State := settle (moveTo ((loop s).now + ms) s)

end Live
end HomeMedia
