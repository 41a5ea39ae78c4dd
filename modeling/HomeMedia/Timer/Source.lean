import HomeMedia.Timer.Interval
import HomeMedia.Timer.Manual
/-!
# Timers of either kind

Whoever needs ticks does not care which kind of timer sends them. What a caller has to know about a
new subscription is its number, whether it got a pulse that has to be started, and whether the
interval that was asked for had to be raised.
-/

namespace HomeMedia
namespace Timer

/-- A timer of one of the two kinds. -/
inductive Source (Subscriber : Type) where
  /-- It ticks on demand. -/
  | manual (timer : Manual Subscriber)
  /-- It keeps time. -/
  | interval (timer : Interval Subscriber)
  deriving DecidableEq, Repr

/-- What there is to know about a new subscription. -/
structure Subscribed where
  /-- Its number. -/
  id : SubscriptionId
  /-- Whether it has a pulse. -/
  hasPulse : Bool
  /-- Whether its interval was raised. -/
  wasRaised : Bool
  deriving DecidableEq, Repr

namespace Source

variable {Subscriber : Type}

/-- A new subscription. -/
def subscribe (subscriber : Subscriber) (nanos : Nat) :
    Source Subscriber → Subscribed × Source Subscriber
  | manual t =>
    let (id, t) := t.subscribe subscriber nanos
    (⟨id, false, false⟩, manual t)
  | interval t =>
    let hasPulse := !t.isShutDown
    let (id, t) := t.subscribe subscriber nanos
    (⟨id, hasPulse, nanos < minInterval⟩, interval t)

/-- Ends a subscription; tells whether there was one. -/
def unsubscribe (id : SubscriptionId) : Source Subscriber → Bool × Source Subscriber
  | manual t =>
    let (found, t) := t.unsubscribe id
    (found, manual t)
  | interval t =>
    let (found, t) := t.unsubscribe id
    (found, interval t)

/-- Ends all subscriptions of a timer that keeps time. -/
def shutDown : Source Subscriber → Source Subscriber
  | manual t => manual t
  | interval t => interval t.shutDown

/-- Who gets a tick when the timer is fired; a timer that keeps time cannot be. -/
def targets (isAlive : Subscriber → Bool) : Source Subscriber → List Subscriber
  | manual t => t.targets isAlive
  | interval _ => []

/-- The interval that a subscription of the manual timer asked for. -/
def interval? (s : Source Subscriber) (id : SubscriptionId) : Option Nat :=
  match s with
  | manual t => t.interval? id
  | interval _ => none

/-- Whether the manual timer has a subscription. -/
def isSubscribed (s : Source Subscriber) (id : SubscriptionId) : Bool :=
  match s with
  | manual t => t.isSubscribed id
  | interval _ => false

/-- The turn of a pulse; the manual timer has none. -/
def beat (now : Nat) (isAlive : Subscriber → Bool) (id : SubscriptionId) :
    Source Subscriber → Interval.Beat Subscriber × Source Subscriber
  | manual t => (.over, manual t)
  | interval t =>
    let (beat, t) := t.beat now isAlive id
    (beat, interval t)

/-- A bound on the turns of a pulse until it waits or ends, where every tick may cause `cost` turns
of others. -/
def pulseEffort (cost now : Nat) (s : Source Subscriber) (id : SubscriptionId) : Nat :=
  match s with
  | manual _ => 1
  | interval t =>
    match t.find? id with
    | none => 1
    | some e =>
      match e.due with
      | none => 1
      | some due => if now < due then 1 else 1 + (1 + (now - due) / Duration.milli) * cost

/-- The counters that describe a timer: the live subscriptions, and for the manual timer how many
there ever were and how many were ended. -/
def counts : Source Subscriber → List Nat
  | manual t => [t.entries.length, t.created, t.removed]
  | interval t => [t.entries.length]

end Source
end Timer
end HomeMedia
