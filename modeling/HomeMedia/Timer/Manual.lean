import HomeMedia.Timer.Basic
/-!
# A timer that ticks on demand

The manual timer sends ticks only when it is fired: one for every subscription that exists at that
moment and whose subscriber is still there. The list of those who get one is drawn up before the
first tick is sent, so what a subscriber does inside its tick changes only later firings.
-/

namespace HomeMedia
namespace Timer

/-- A subscription of the manual timer. -/
structure Manual.Entry (Subscriber : Type) where
  /-- Its number. -/
  id : SubscriptionId
  /-- Who gets the ticks. -/
  subscriber : Subscriber
  /-- The interval it asked for, in nanoseconds. -/
  interval : Nat
  deriving DecidableEq, Repr

/-- The subscriptions of a manual timer, and counters of the calls. -/
structure Manual (Subscriber : Type) where
  /-- The subscriptions, oldest first. -/
  entries : List (Manual.Entry Subscriber) := []
  /-- How many subscriptions there ever were. -/
  created : Nat := 0
  /-- How many were ended. -/
  removed : Nat := 0
  deriving DecidableEq, Repr

namespace Manual

variable {Subscriber : Type}

/-- A new subscription, with its number. -/
def subscribe (subscriber : Subscriber) (interval : Nat) (t : Manual Subscriber) :
    SubscriptionId × Manual Subscriber :=
  let id := t.created + 1
  (id, { t with entries := t.entries ++ [⟨id, subscriber, interval⟩], created := id })

/-- Whether a subscription exists. -/
def isSubscribed (t : Manual Subscriber) (id : SubscriptionId) : Bool :=
  t.entries.any fun e => e.id == id

/-- Ends a subscription; tells whether there was one. -/
def unsubscribe (id : SubscriptionId) (t : Manual Subscriber) : Bool × Manual Subscriber :=
  if t.isSubscribed id then
    (true, { t with entries := t.entries.filter (fun e => e.id != id), removed := t.removed + 1 })
  else (false, t)

/-- The interval that a subscription asked for. -/
def interval? (t : Manual Subscriber) (id : SubscriptionId) : Option Nat :=
  (t.entries.find? fun e => e.id == id).map Entry.interval

/-- Who gets a tick when the timer is fired. -/
def targets (isAlive : Subscriber → Bool) (t : Manual Subscriber) : List Subscriber :=
  (t.entries.map Entry.subscriber).filter isAlive

end Manual
end Timer
end HomeMedia
