import HomeMedia.Timer.Source
import Mathlib.Data.List.Nodup
import Mathlib.Data.List.Basic
/-!
# What timers of both kinds do to their subscriptions

A timer of either kind holds a list of subscriptions (`Source.subs`) and counts those it ever made
(`Source.created`). Making one adds it at the end under the next number, ending one takes that
number out of the list, and the turn of a pulse leaves the list as it is or takes out the pulse's
own subscription, if its subscriber is gone. A timer is *numbered* if no two of its subscriptions
share a number and no number is still to come; all three keep that.
-/

namespace HomeMedia
namespace Timer

/-- A subscription, whatever kind of timer holds it. -/
structure Subscription (Subscriber : Type) where
  /-- Its number. -/
  id : SubscriptionId
  /-- Who gets the ticks. -/
  subscriber : Subscriber
  /-- Nanoseconds between two ticks. -/
  interval : Nat
  deriving DecidableEq, Repr

namespace Source

variable {Subscriber : Type}

/-- The subscriptions of a timer, oldest first. -/
def subs : Source Subscriber → List (Subscription Subscriber)
  | manual t => t.entries.map fun e => ⟨e.id, e.subscriber, e.interval⟩
  | interval t => t.entries.map fun e => ⟨e.id, e.subscriber, e.interval⟩

/-- How many subscriptions there ever were. -/
def created : Source Subscriber → Nat
  | manual t => t.created
  | interval t => t.created

/-- The interval that a subscription gets when it asks for one. -/
def granted (nanos : Nat) : Source Subscriber → Nat
  | manual _ => nanos
  | interval _ => max nanos minInterval

/-- An interval that is not too short is granted by every timer. -/
theorem granted_of_le {nanos : Nat} (h : minInterval ≤ nanos) (t : Source Subscriber) :
    t.granted nanos = nanos := by
  cases t with
  | manual t => rfl
  | interval t => exact Nat.max_eq_left h

/-! ## Making and ending subscriptions -/

variable (t : Source Subscriber)

/-- A new subscription gets the next number. -/
theorem id_subscribe (subscriber : Subscriber) (nanos : Nat) :
    (t.subscribe subscriber nanos).1.id = t.created + 1 := by
  cases t <;> rfl

/-- It makes one subscription more. -/
theorem created_subscribe (subscriber : Subscriber) (nanos : Nat) :
    (t.subscribe subscriber nanos).2.created = t.created + 1 := by
  cases t <;> rfl

/-- It stands behind the others, with the interval that is granted. -/
theorem subs_subscribe (subscriber : Subscriber) (nanos : Nat) :
    (t.subscribe subscriber nanos).2.subs =
      t.subs ++ [⟨t.created + 1, subscriber, t.granted nanos⟩] := by
  cases t <;> exact List.map_append

/-- That one ends does not unmake it. -/
theorem created_unsubscribe (id : SubscriptionId) : (t.unsubscribe id).2.created = t.created := by
  cases t with
  | manual t =>
    simp only [unsubscribe, Manual.unsubscribe]
    split <;> rfl
  | interval t => rfl

/-- The one that ends is taken from the others. -/
theorem subs_unsubscribe (id : SubscriptionId) :
    (t.unsubscribe id).2.subs = t.subs.filter fun s => s.id != id := by
  cases t with
  | manual t =>
    simp only [unsubscribe, Manual.unsubscribe]
    split
    · simp only [subs, List.filter_map]
      rfl
    · rename_i absent
      refine (List.filter_eq_self.2 fun s hs => ?_).symm
      obtain ⟨e, he, rfl⟩ := List.mem_map.1 hs
      simp only [Manual.isSubscribed, List.any_eq_true, not_exists, not_and] at absent
      exact bne_iff_ne.2 fun h => absent e he (beq_iff_eq.2 h)
  | interval t =>
    simp only [subs, List.filter_map]
    rfl

/-! ## Pulses -/

/-- Settling when the next tick is due does not change the list. -/
theorem subs_setDue (t : Interval Subscriber) (id : SubscriptionId) (due : Nat) :
    (interval (t.setDue id due)).subs = (interval t).subs := by
  refine List.map_map.trans (List.map_congr_left fun e _ => ?_)
  rw [Function.comp_apply]
  split <;> rfl

/-- The turn of a pulse makes no subscription. -/
theorem created_beat (now : Nat) (isAlive : Subscriber → Bool) (id : SubscriptionId) :
    (t.beat now isAlive id).2.created = t.created := by
  cases t with
  | manual t => rfl
  | interval t =>
    simp only [beat, Interval.beat]
    split
    · rfl
    · split
      · rfl
      · split_ifs <;> rfl

/-- **A pulse ends only if its subscriber is gone.** -/
theorem subs_beat (now : Nat) (isAlive : Subscriber → Bool) (id : SubscriptionId) :
    (t.beat now isAlive id).2.subs = t.subs ∨
      ∃ s ∈ t.subs, s.id = id ∧ isAlive s.subscriber = false ∧
        (t.beat now isAlive id).2.subs = t.subs.filter fun other => other.id != id := by
  cases t with
  | manual t => exact .inl rfl
  | interval t =>
    simp only [beat, Interval.beat]
    split
    · exact .inl rfl
    · rename_i e found
      split
      · exact .inl (subs_setDue ..)
      · split_ifs with early gone
        · exact .inl rfl
        · have hid : (e.id == id) = true :=
            List.find?_some (p := fun e : Interval.Entry Subscriber => e.id == id) found
          refine .inr ⟨_, List.mem_map_of_mem (List.mem_of_find?_eq_some found), beq_iff_eq.1 hid,
            by simpa using gone, ?_⟩
          simp only [subs, List.filter_map]
          rfl
        · exact .inl (subs_setDue ..)

/-! ## Numbers -/

/-- No two subscriptions share a number, and no number is still to come. -/
structure Numbered (t : Source Subscriber) : Prop where
  /-- The numbers differ. -/
  nodup : (t.subs.map Subscription.id).Nodup
  /-- The numbers were handed out. -/
  le_created : ∀ s ∈ t.subs, s.id ≤ t.created

namespace Numbered

variable {t u : Source Subscriber}

/-- Taking subscriptions out makes no difference. -/
theorem of_sublist (numbered : Numbered t) (subs : u.subs.Sublist t.subs)
    (created : u.created = t.created) : Numbered u where
  nodup := numbered.nodup.sublist (subs.map _)
  le_created s hs := created ▸ numbered.le_created s (subs.subset hs)

/-- The next number is new. -/
theorem subscribe (numbered : Numbered t) (subscriber : Subscriber) (nanos : Nat) :
    Numbered (t.subscribe subscriber nanos).2 where
  nodup := by
    rw [subs_subscribe, List.map_append, List.map_singleton]
    refine List.nodup_append.2 ⟨numbered.nodup, List.nodup_singleton _, ?_⟩
    intro id hid other hother
    obtain ⟨s, hs, rfl⟩ := List.mem_map.1 hid
    rw [List.mem_singleton.1 hother]
    exact Nat.ne_of_lt (Nat.lt_succ_of_le (numbered.le_created s hs))
  le_created s hs := by
    rw [subs_subscribe] at hs
    rw [created_subscribe]
    rcases List.mem_append.1 hs with hs | hs
    · exact Nat.le_succ_of_le (numbered.le_created s hs)
    · exact Nat.le_of_eq (congrArg Subscription.id (List.mem_singleton.1 hs))

/-- Ending a subscription leaves the other numbers. -/
theorem unsubscribe (numbered : Numbered t) (id : SubscriptionId) :
    Numbered (t.unsubscribe id).2 :=
  numbered.of_sublist (by rw [subs_unsubscribe]; exact List.filter_sublist)
    (created_unsubscribe t id)

/-- A number determines its subscription. -/
theorem eq_of_id (numbered : Numbered t) {s other : Subscription Subscriber} (hs : s ∈ t.subs)
    (hother : other ∈ t.subs) (same : s.id = other.id) : s = other :=
  List.inj_on_of_nodup_map numbered.nodup hs hother same

end Numbered
end Source
end Timer
end HomeMedia
