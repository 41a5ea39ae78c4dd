import HomeMedia.Timer.Basic
/-!
# A timer that keeps time

Every subscription of the interval timer has a *pulse* of its own, an agent of the event loop. The
pulse starts when it first gets its turn; its first tick is due one interval later. A tick that is
handled at most five milliseconds late is followed by one that is due an interval after the late one
was due, so the ticks keep their grid; a later one starts the grid anew at the moment it is handled.
Which tick is due next is settled before a tick is sent, and a tick that is due already follows at
once.

A pulse ends when its subscription has been ended or its subscriber is gone. Shutting the timer down
ends all subscriptions; one made afterwards is counted and has no pulse.
-/

namespace HomeMedia
namespace Timer

/-- A subscription of the interval timer. -/
structure Interval.Entry (Subscriber : Type) where
  /-- Its number. -/
  id : SubscriptionId
  /-- Who gets the ticks. -/
  subscriber : Subscriber
  /-- Nanoseconds between two ticks, at least the shortest interval. -/
  interval : Nat
  /-- When the next tick is due, in nanoseconds, once the pulse has started. -/
  due : Option Nat := none
  deriving DecidableEq, Repr

/-- The subscriptions of an interval timer. -/
structure Interval (Subscriber : Type) where
  /-- The subscriptions, oldest first. -/
  entries : List (Interval.Entry Subscriber) := []
  /-- How many subscriptions there ever were. -/
  created : Nat := 0
  /-- Whether the timer was shut down. -/
  isShutDown : Bool := false
  deriving DecidableEq, Repr

namespace Interval

variable {Subscriber : Type}

/-- How late a tick may be without moving the grid, in nanoseconds. -/
def tolerance : Nat := 5 * Duration.milli

/-- A new subscription, with its number. -/
def subscribe (subscriber : Subscriber) (interval : Nat) (t : Interval Subscriber) :
    SubscriptionId × Interval Subscriber :=
  let id := t.created + 1
  let entry : Entry Subscriber := { id, subscriber, interval := max interval minInterval }
  (id, { t with entries := t.entries ++ [entry], created := id })

/-- The subscription with a number. -/
def find? (t : Interval Subscriber) (id : SubscriptionId) : Option (Entry Subscriber) :=
  t.entries.find? fun e => e.id == id

/-- The timer without a subscription. -/
def erase (id : SubscriptionId) (t : Interval Subscriber) : Interval Subscriber :=
  { t with entries := t.entries.filter fun e => e.id != id }

/-- Ends a subscription; tells whether there was one. -/
def unsubscribe (id : SubscriptionId) (t : Interval Subscriber) : Bool × Interval Subscriber :=
  ((t.find? id).isSome, t.erase id)

/-- Ends all subscriptions, and lets later ones have no pulse. -/
def shutDown (t : Interval Subscriber) : Interval Subscriber :=
  { t with entries := [], isShutDown := true }

/-- Sets when the next tick of a subscription is due. -/
def setDue (id : SubscriptionId) (due : Nat) (t : Interval Subscriber) : Interval Subscriber :=
  { t with entries := t.entries.map fun e => if e.id == id then { e with due := some due } else e }

/-- When the tick after one that was due at `due` and is handled at `now` is due. -/
def following (interval due now : Nat) : Nat :=
  if due + tolerance < now then now + interval else due + interval

/-- The first millisecond that is not before a time in nanoseconds. -/
def milliOf (nanos : Nat) : Nat := (nanos + Duration.milli - 1) / Duration.milli

/-- What a pulse does when it is its turn. -/
inductive Beat (Subscriber : Type) where
  /-- It ends. -/
  | over
  /-- It waits for a millisecond. -/
  | rest (ms : Nat)
  /-- It sends a tick and goes on. -/
  | tick (subscriber : Subscriber)
  deriving DecidableEq, Repr

/-- The turn of a pulse at a time in nanoseconds. -/
def beat (now : Nat) (isAlive : Subscriber → Bool) (id : SubscriptionId)
    (t : Interval Subscriber) : Beat Subscriber × Interval Subscriber :=
  match t.find? id with
  | none => (.over, t)
  | some e =>
    match e.due with
    | none => (.rest (milliOf (now + e.interval)), t.setDue id (now + e.interval))
    | some due =>
      if now < due then (.rest (milliOf due), t)
      else if !isAlive e.subscriber then (.over, t.erase id)
      else (.tick e.subscriber, t.setDue id (following e.interval due now))

end Interval
end Timer
end HomeMedia
