import HomeMedia.EventLoop
import HomeMedia.Log
import HomeMedia.Timer.Source
/-!
# A bench for timers

A timer on its own with named counters as subscribers. A counter counts its ticks, and may react to
each of its first ticks from inside it: by ending a subscription, or by making a new one whose ticks
count for the same counter and cause no reactions. Dropping a counter leaves its subscriptions in
the timer and nobody behind them.
-/

namespace HomeMedia
namespace Timer

/-- What a counter does inside a tick. -/
inductive Bench.Reaction where
  | nothing
  | unsubscribe (id : SubscriptionId)
  | subscribe (nanos : Nat)
  deriving DecidableEq, Repr

/-- What a reaction came to. -/
inductive Bench.Result where
  | nothing
  | unsubscribed (found : Bool)
  | subscribed (id : SubscriptionId)
  deriving DecidableEq, Repr

/-- A subscriber: a counter itself, or a subscriber that it made. -/
structure Bench.Receiver where
  /-- The serial number of the counter. -/
  counter : Nat
  /-- Whether ticks cause reactions. -/
  reacts : Bool
  deriving DecidableEq, Repr

/-- A named counter. -/
structure Bench.Counter where
  /-- Its serial number, different from that of any other counter there ever was. -/
  serial : Nat
  /-- Its name. -/
  name : String
  /-- The ticks that it got. -/
  ticks : Nat := 0
  /-- What it does inside its next ticks. -/
  reactions : List Bench.Reaction
  deriving DecidableEq, Repr

/-- A timer with its counters. -/
structure Bench where
  /-- The clock and the pulses. -/
  loop : EventLoop SubscriptionId := {}
  /-- The timer. -/
  timer : Source Bench.Receiver
  /-- The counters that are held. -/
  counters : List Bench.Counter := []
  /-- How many counters there ever were. -/
  serials : Nat := 0
  /-- What was reported. -/
  log : List Event := []
  /-- What the reactions came to. -/
  results : List Bench.Result := []

namespace Bench

/-- Whether a subscriber is still there. -/
def isAlive (b : Bench) (r : Receiver) : Bool := b.counters.any fun c => c.serial == r.counter

/-- A new subscription; its pulse becomes ready. -/
def subscribe (receiver : Receiver) (nanos : Nat) (b : Bench) : SubscriptionId × Bench :=
  let (made, timer) := b.timer.subscribe receiver nanos
  let loop := if made.hasPulse then b.loop.wake made.id else b.loop
  let log := if made.wasRaised then b.log ++ [.intervalRaised made.id nanos] else b.log
  (made.id, { b with timer, loop, log })

/-- Ends a subscription. -/
def unsubscribe (id : SubscriptionId) (b : Bench) : Bool × Bench :=
  let (found, timer) := b.timer.unsubscribe id
  (found, { b with timer })

/-- Changes the counter with a serial number. -/
def update (serial : Nat) (f : Counter → Counter) (b : Bench) : Bench :=
  { b with counters := b.counters.map fun c => if c.serial == serial then f c else c }

/-- A counter does something inside a tick. -/
def react (serial : Nat) (b : Bench) : Reaction → Bench
  | .nothing => { b with results := b.results ++ [.nothing] }
  | .unsubscribe id =>
    let (found, b) := b.unsubscribe id
    { b with results := b.results ++ [.unsubscribed found] }
  | .subscribe nanos =>
    let (id, b) := b.subscribe ⟨serial, false⟩ nanos
    { b with results := b.results ++ [.subscribed id] }

/-- A subscriber gets a tick. -/
def tick (b : Bench) (receiver : Receiver) : Bench :=
  let counted := b.update receiver.counter fun c => { c with ticks := c.ticks + 1 }
  if receiver.reacts then
    match (b.counters.find? fun c => c.serial == receiver.counter).map Counter.reactions with
    | some (reaction :: more) =>
      (counted.update receiver.counter fun c => { c with reactions := more }).react
        receiver.counter reaction
    | _ => counted
  else counted

/-- The time in nanoseconds. -/
def nanos (b : Bench) : Nat := b.loop.now * Duration.milli

/-- The turn of a pulse. -/
def poll (id : SubscriptionId) (b : Bench) : Bench :=
  let (beat, timer) := b.timer.beat b.nanos b.isAlive id
  let b := { b with timer }
  match beat with
  | .over => b
  | .rest ms => { b with loop := b.loop.wakeAt ms id }
  | .tick receiver =>
    let b := b.tick receiver
    { b with loop := b.loop.goOn id }

/-- A bound on the turns until all pulses wait. -/
def effort (b : Bench) : Nat :=
  EventLoop.total (b.timer.pulseEffort 1 b.nanos) b.loop.ready +
    EventLoop.total (fun c => c.reactions.length) b.counters

instance : Live Bench SubscriptionId where
  loop := Bench.loop
  withLoop loop b := { b with loop }
  poll := poll
  effort := effort

/-- Fires the timer: everybody who is there gets a tick. -/
def fire (b : Bench) : Nat × Bench :=
  let targets := b.timer.targets b.isAlive
  (targets.length, targets.foldl tick b)

/-- Fires the timer several times. -/
def fireTimes : Nat → Bench → Bench
  | 0, b => b
  | times + 1, b => fireTimes times b.fire.2

/-- What can be asked of a bench. -/
inductive Command where
  /-- Makes a subscription for the counter of a name, which is made with its reactions if there is
  none yet. -/
  | subscribe (name : String) (nanos : Nat) (reactions : List Reaction)
  | unsubscribe (id : SubscriptionId)
  | isSubscribed (id : SubscriptionId)
  | intervalOf (id : SubscriptionId)
  | drop (name : String)
  | fire
  | fireTimes (times : Nat)
  | sleep (ms : Nat)
  | jump (ms : Nat)
  | shutDown
  deriving DecidableEq, Repr

/-- What a bench answers. -/
inductive Reply where
  | nothing
  | subscribed (id : SubscriptionId)
  | flag (value : Bool)
  | number (value : Nat)
  deriving DecidableEq, Repr

/-- The counter of a name, made if there is none. -/
def counter (name : String) (reactions : List Reaction) (b : Bench) : Nat × Bench :=
  match b.counters.find? fun c => c.name == name with
  | some c => (c.serial, b)
  | none =>
    (b.serials, { b with
      counters := b.counters ++ [{ serial := b.serials, name, reactions }]
      serials := b.serials + 1 })

/-- Does what is asked, without letting the pulses have their turns. -/
def act (b : Bench) : Command → Reply × Bench
  | .subscribe name nanos reactions =>
    let (serial, b) := b.counter name reactions
    let (id, b) := b.subscribe ⟨serial, true⟩ nanos
    (.subscribed id, b)
  | .unsubscribe id =>
    let (found, b) := b.unsubscribe id
    (.flag found, b)
  | .isSubscribed id => (.flag (b.timer.isSubscribed id), b)
  | .intervalOf id =>
    match b.timer.interval? id with
    | some nanos => (.number nanos, b)
    | none => (.nothing, b)
  | .drop name =>
    (.flag (b.counters.any fun c => c.name == name),
      { b with counters := b.counters.filter fun c => c.name != name })
  | .fire =>
    let (count, b) := b.fire
    (.number count, b)
  | .fireTimes times => (.nothing, b.fireTimes times)
  | .sleep ms => (.nothing, Live.sleep ms b)
  | .jump ms => (.nothing, Live.jump ms b)
  | .shutDown => (.nothing, { b with timer := b.timer.shutDown })

/-- Does what is asked and lets the pulses have their turns. -/
def run (b : Bench) (command : Command) : Reply × Bench :=
  let (reply, b) := b.act command
  (reply, Live.settle b)

end Bench
end Timer
end HomeMedia
