import HomeMedia.Proofs.Home.Episodes
import HomeMedia.Proofs.Timer.Episodes
/-!
# What a bench looks like to a timer

Lemmas about faces. What the turn of a pulse does is told by the entry in the table that it belongs
to: none, one whose pulse has not started yet, or one that knows when its next tick is due
(`Source.beat_of_none`, `beat_of_new`, `beat_of_due`). Turns take no time, make no subscription and
leave the counters alone (`Face.alike_turn`), and for the event loop they leave every other pulse as
it was (`Unmoved`).

All faces of a run are *sound* (`Face.Sound`): every pulse has a number that was handed out, every
alarm is for later, and ticks do not come too fast.
-/

namespace HomeMedia
namespace Timer

namespace Interval

variable {Subscriber : Type} {t : Interval Subscriber} {id : SubscriptionId}

/-- In the first millisecond that is not before a time, that time is not over for a millisecond. -/
theorem lt_of_le_milliOf {now nanos : Nat} (within : now ≤ milliOf nanos) :
    now * Duration.milli < nanos + Duration.milli := by
  have le := (Nat.le_div_iff_mul_le (by decide)).1 within
  simp only [Duration.milli] at le ⊢
  omega

/-- A pulse without a subscription ends. -/
theorem beat_of_none (absent : t.find? id = none) (now : Nat) (isAlive : Subscriber → Bool) :
    t.beat now isAlive id = (.over, t) := by
  unfold beat
  rw [absent]

/-- A pulse that starts waits for an interval. -/
theorem beat_of_new {e : Entry Subscriber} (found : t.find? id = some e) (new : e.due = none)
    (now : Nat) (isAlive : Subscriber → Bool) :
    t.beat now isAlive id =
      (.rest (milliOf (now + e.interval)), t.setDue id (now + e.interval)) := by
  unfold beat
  rw [found]
  dsimp only
  rw [new]

/-- A pulse with a time for its next tick waits for it, ends, or sends the tick. -/
theorem beat_of_due {e : Entry Subscriber} (found : t.find? id = some e) {due : Nat}
    (started : e.due = some due) (now : Nat) (isAlive : Subscriber → Bool) :
    t.beat now isAlive id =
      if now < due then (.rest (milliOf due), t)
      else if !isAlive e.subscriber then (.over, t.erase id)
      else (.tick e.subscriber, t.setDue id (following e.interval due now)) := by
  unfold beat
  rw [found]
  dsimp only
  rw [started]

end Interval

namespace Source

variable {Subscriber : Type} {t : Source Subscriber}

section Beats

variable {id : SubscriptionId} {e : Interval.Entry Subscriber} (now : Nat)
  (isAlive : Subscriber → Bool)

/-- The pulses of a timer that keeps time are its own. -/
theorem beat_interval (t : Interval Subscriber) :
    (interval t).beat now isAlive id =
      ((t.beat now isAlive id).1, interval (t.beat now isAlive id).2) := rfl

/-- The pulse of a subscription that is gone is over. -/
theorem beat_of_none (absent : t.row? id = none) : t.beat now isAlive id = (.over, t) := by
  cases t with
  | manual t => rfl
  | interval t => rw [beat_interval, Interval.beat_of_none absent]

/-- The first turn of a pulse sets the time of its first tick. -/
theorem beat_of_new (found : t.row? id = some e) (new : e.due = none) :
    ∃ u, t.beat now isAlive id = (.rest (Interval.milliOf (now + e.interval)), u) ∧
      u.row? id = some { e with due := some (now + e.interval) } := by
  cases t with
  | manual t => cases found
  | interval t =>
    refine ⟨.interval (t.setDue id (now + e.interval)), ?_, Interval.find?_setDue_self found _⟩
    rw [beat_interval, Interval.beat_of_new found new]

/-- Later it rests until the tick is due, and then sends it if somebody is there to get it. -/
theorem beat_of_due (found : t.row? id = some e) {due : Nat} (started : e.due = some due) :
    (now < due ∧ t.beat now isAlive id = (.rest (Interval.milliOf due), t)) ∨
      (due ≤ now ∧ isAlive e.subscriber = false ∧
        ∃ u, t.beat now isAlive id = (.over, u) ∧ u.row? id = none) ∨
      due ≤ now ∧ isAlive e.subscriber = true ∧
        ∃ u, t.beat now isAlive id = (.tick e.subscriber, u) ∧
          u.row? id = some { e with due := some (Interval.following e.interval due now) } := by
  cases t with
  | manual t => cases found
  | interval t =>
    have beaten := Interval.beat_of_due found started now isAlive
    rw [beat_interval]
    split_ifs at beaten with early gone
    · exact .inl ⟨early, by rw [beaten]⟩
    · refine .inr (.inl ⟨Nat.le_of_not_lt early, by simpa using gone, .interval (t.erase id), ?_,
        Interval.find?_erase_self t id⟩)
      rw [beaten]
    · refine .inr (.inr ⟨Nat.le_of_not_lt early, by simpa using gone, .interval (t.setDue id _), ?_,
        Interval.find?_setDue_self found _⟩)
      rw [beaten]

end Beats

/-- No number is handed out when a timer is shut down. -/
theorem created_shutDown (t : Source Subscriber) : t.shutDown.created = t.created := by
  cases t <;> rfl

/-- Whether a timer keeps time does not change when somebody subscribes. -/
theorem keepsTime_subscribe (t : Source Subscriber) (subscriber : Subscriber) (nanos : Nat) :
    (t.subscribe subscriber nanos).2.keepsTime = t.keepsTime := by
  cases t <;> rfl

/-- Neither does it when a subscription ends. -/
theorem keepsTime_unsubscribe (t : Source Subscriber) (id : SubscriptionId) :
    (t.unsubscribe id).2.keepsTime = t.keepsTime := by
  cases t <;> rfl

/-- Neither does it at the end. -/
theorem keepsTime_shutDown (t : Source Subscriber) : t.shutDown.keepsTime = t.keepsTime := by
  cases t <;> rfl

/-- Neither does it when a pulse has its turn. -/
theorem keepsTime_beat (t : Source Subscriber) (now : Nat) (isAlive : Subscriber → Bool)
    (id : SubscriptionId) : (t.beat now isAlive id).2.keepsTime = t.keepsTime := by
  cases t <;> rfl

/-- A timer that is shut down does not tick. -/
theorem isTicking_shutDown (t : Source Subscriber) : t.shutDown.isTicking = false := by
  cases t <;> rfl

/-- It has no rows. -/
theorem row?_shutDown (keeps : t.keepsTime = true) (id : SubscriptionId) :
    t.shutDown.row? id = none := by
  cases t with
  | manual t => cases keeps
  | interval t => rfl

/-- A subscription that is ended has no row. -/
theorem row?_unsubscribe_self (keeps : t.keepsTime = true) (id : SubscriptionId) :
    (t.unsubscribe id).2.row? id = none := by
  cases t with
  | manual t => cases keeps
  | interval t => exact Interval.find?_erase_self t id

/-- A new one has a row with the next number and no time yet. -/
theorem row?_subscribe_created (keeps : t.keepsTime = true) (numbered : Numbered t)
    (subscriber : Subscriber) (nanos : Nat) :
    (t.subscribe subscriber nanos).2.row? (t.created + 1) =
      some ⟨t.created + 1, subscriber, max nanos minInterval, none⟩ := by
  have absent := row?_new numbered
  cases t with
  | manual t => cases keeps
  | interval t =>
    refine (Interval.find?_subscribe t subscriber nanos (t.created + 1)).trans ?_
    rw [show t.find? (t.created + 1) = none from absent, Option.none_or,
      if_pos (beq_self_eq_true _)]
    rfl

/-- The others have the rows that they had. -/
theorem row?_subscribe_of_ne {id : SubscriptionId} (old : id ≠ t.created + 1)
    (subscriber : Subscriber) (nanos : Nat) :
    (t.subscribe subscriber nanos).2.row? id = t.row? id := by
  cases t with
  | manual t => rfl
  | interval t =>
    refine (Interval.find?_subscribe t subscriber nanos id).trans ?_
    have differs : ¬(t.created + 1 == id) = true := fun same => old (beq_iff_eq.1 same).symm
    rw [if_neg differs, Option.or_none]
    rfl

/-- Whether a number is answered when its subscription is to be ended. -/
theorem unsubscribe_eq_isSome (keeps : t.keepsTime = true) (id : SubscriptionId) :
    (t.unsubscribe id).1 = (t.row? id).isSome := by
  cases t with
  | manual t => cases keeps
  | interval t => rfl

end Source

namespace Bench

/-! ## What an event loop does about one pulse -/

/-- The same is going on about a pulse: it is ready or not, and it waits for the same times. -/
structure Unmoved (id : SubscriptionId) (l m : EventLoop SubscriptionId) : Prop where
  /-- It is ready if it was. -/
  ready : id ∈ m.ready ↔ id ∈ l.ready
  /-- It waits for what it waited for. -/
  alarms : ∀ due, ⟨due, id⟩ ∈ m.alarms ↔ ⟨due, id⟩ ∈ l.alarms

namespace Unmoved

variable {id other : SubscriptionId} {l m n : EventLoop SubscriptionId}

/-- Nothing is moved by doing nothing. -/
theorem refl (id : SubscriptionId) (l : EventLoop SubscriptionId) : Unmoved id l l :=
  ⟨Iff.rfl, fun _ => Iff.rfl⟩

/-- What is unmoved twice is unmoved. -/
theorem trans (first : Unmoved id l m) (second : Unmoved id m n) : Unmoved id l n :=
  ⟨second.ready.trans first.ready, fun due => (second.alarms due).trans (first.alarms due)⟩

/-- Waking another pulse moves nothing. -/
theorem wake (differs : id ≠ other) (l : EventLoop SubscriptionId) :
    Unmoved id l (l.wake other) where
  ready := by
    refine List.mem_append.trans (or_iff_left fun mem => ?_)
    exact differs (List.mem_singleton.1 mem)
  alarms _ := Iff.rfl

/-- Neither does letting it go on. -/
theorem goOn (differs : id ≠ other) (l : EventLoop SubscriptionId) :
    Unmoved id l (l.goOn other) where
  ready := List.mem_cons.trans (or_iff_right differs)
  alarms _ := Iff.rfl

/-- Neither does an alarm for it. -/
theorem wakeAt (differs : id ≠ other) (due : Nat) (l : EventLoop SubscriptionId) :
    Unmoved id l (l.wakeAt due other) where
  ready := Iff.rfl
  alarms time := by
    refine List.mem_append.trans (or_iff_left fun mem => ?_)
    have same := List.mem_singleton.1 mem
    exact differs (congrArg Alarm.agent same)

/-- Neither does taking it from the ready. -/
theorem leaveOut (differs : id ≠ other) {place : Nat} (here : l.ready[place]? = some other) :
    Unmoved id l { l with ready := l.ready.eraseIdx place } where
  ready := by
    refine ⟨fun mem => List.mem_of_mem_eraseIdx mem, fun mem => ?_⟩
    obtain ⟨i, hi⟩ := List.mem_iff_getElem?.1 mem
    refine List.mem_eraseIdx_iff_getElem?.2 ⟨i, fun same => ?_, hi⟩
    rw [same, here] at hi
    exact differs (Option.some.inj hi).symm
  alarms _ := Iff.rfl

end Unmoved

/-! ## Faces -/

namespace Face

open EventLoop (Onward)

/-- Every pulse has a number that was handed out, and is awake or waits for a time to come. -/
structure Sound (f : Face) : Prop where
  /-- The timer keeps time. -/
  keeps : f.timer.keepsTime = true
  /-- Ticks do not come too fast. -/
  paced : f.timer.Paced
  /-- Alarms are for later. -/
  ahead : ∀ a ∈ f.loop.alarms, f.loop.now < a.due
  /-- The numbers of those who are ready were handed out. -/
  ready : ∀ id ∈ f.loop.ready, id ≤ f.timer.created
  /-- So were the numbers of those who wait. -/
  alarms : ∀ a ∈ f.loop.alarms, a.agent ≤ f.timer.created
  /-- The numbers of the counters were handed out. -/
  held : ∀ serial ∈ f.held, serial < f.serials
  /-- No two counters share a number. -/
  distinct : f.held.Nodup

variable {f g : Face}

/-- The event loop without the pulse at a place among the ready. -/
def left (place : Nat) (f : Face) : EventLoop SubscriptionId :=
  { f.loop with ready := f.loop.ready.eraseIdx place }

/-- A pulse that is over is not ready any more. -/
theorem turn_of_over {timer : Source Receiver} {place : Nat} {id : SubscriptionId}
    (beat : f.timer.beat f.nanos f.isAlive id = (.over, timer)) :
    f.turn place id = { f with timer, loop := f.left place } := by
  unfold turn
  rw [beat]
  rfl

/-- One that rests has an alarm. -/
theorem turn_of_rest {timer : Source Receiver} {place ms : Nat} {id : SubscriptionId}
    (beat : f.timer.beat f.nanos f.isAlive id = (.rest ms, timer)) :
    f.turn place id = { f with timer, loop := (f.left place).wakeAt ms id } := by
  unfold turn
  rw [beat]
  rfl

/-- One that ticks goes on. -/
theorem turn_of_tick {timer : Source Receiver} {receiver : Receiver} {place : Nat}
    {id : SubscriptionId} (beat : f.timer.beat f.nanos f.isAlive id = (.tick receiver, timer)) :
    f.turn place id = { f with timer, loop := (f.left place).goOn id } := by
  unfold turn
  rw [beat]
  rfl

/-- A turn takes no time, makes no subscription, and leaves the counters alone. -/
theorem exists_turn (place : Nat) (id : SubscriptionId) (f : Face) :
    ∃ loop : EventLoop SubscriptionId, loop.now = f.loop.now ∧
      f.turn place id = { f with timer := (f.timer.beat f.nanos f.isAlive id).2, loop } := by
  cases beat : f.timer.beat f.nanos f.isAlive id with
  | mk what timer =>
    cases what with
    | rest ms => exact ⟨(f.left place).wakeAt ms id, rfl, turn_of_rest beat⟩
    | tick receiver => exact ⟨(f.left place).goOn id, rfl, turn_of_tick beat⟩
    | _ => exact ⟨f.left place, rfl, turn_of_over beat⟩

/-- No turn of a pulse stops the timer. -/
theorem isTicking_turn (place : Nat) (id : SubscriptionId) (f : Face) :
    (f.turn place id).timer.isTicking = f.timer.isTicking := by
  obtain ⟨loop, -, same⟩ := exists_turn place id f
  rw [same]
  exact Source.isTicking_beat ..

/-- The same is there at the same time. -/
structure Alike (f g : Face) : Prop where
  /-- No subscription was made. -/
  created : g.timer.created = f.timer.created
  /-- No counter was made. -/
  serials : g.serials = f.serials
  /-- No counter was dropped. -/
  held : g.held = f.held
  /-- No time has passed. -/
  now : g.loop.now = f.loop.now

/-- Where the same is there at the same time, it is the same time in nanoseconds. -/
theorem Alike.nanos (alike : Alike f g) : g.nanos = f.nanos :=
  congrArg (· * Duration.milli) alike.now

/-- Where the same is there, the same subscribers are. -/
theorem Alike.isAlive (alike : Alike f g) : g.isAlive = f.isAlive :=
  congrArg (fun held (r : Receiver) => List.contains held r.counter) alike.held

/-- The turn of a pulse takes no time, and everybody stays. -/
theorem alike_turn (place : Nat) (id : SubscriptionId) (f : Face) : Alike f (f.turn place id) := by
  obtain ⟨loop, now, same⟩ := exists_turn place id f
  rw [same]
  exact ⟨Source.created_beat f.timer f.nanos f.isAlive id, rfl, rfl, now⟩

/-- Counters that are gone do not come back. -/
theorem Stirs.isAlive_of {label : Stirring} (stirs : Stirs label f g) {receiver : Receiver}
    (met : receiver.counter < f.serials) (alive : g.isAlive receiver = true) :
    f.isAlive receiver = true := by
  cases stirs with
  | same => exact alive
  | pass => exact alive
  | meet =>
    -- The new counter is another one.
    have mem := List.contains_iff_mem.1 alive
    refine List.contains_iff_mem.2 ((List.mem_append.1 mem).resolve_right fun new => ?_)
    exact Nat.ne_of_lt met (List.mem_singleton.1 new)
  | drop _ held fewer =>
    exact List.contains_iff_mem.2 (fewer.subset (List.contains_iff_mem.1 alive))
  | turn _ place id => exact (alike_turn place id f).isAlive ▸ alive
  | tick _ place id => exact (alike_turn place id f).isAlive ▸ alive

/-- Nothing that is asked of the timer takes time. -/
theorem now_make (f : Face) (call : Call) : (f.make call).loop.now = f.loop.now := by
  cases call with
  | subscribe receiver nanos =>
    unfold make
    dsimp only
    split <;> rfl
  | unsubscribe id => rfl
  | shutDown => rfl

/-- What is asked of the timer takes no time. -/
theorem now_makes (f : Face) (call : Option Call) : (f.makes call).loop.now = f.loop.now := by
  cases call with
  | none => rfl
  | some call => exact now_make f call

/-- Nor does anybody come or go. -/
theorem isAlive_makes (f : Face) (call : Option Call) : (f.makes call).isAlive = f.isAlive := by
  cases call with
  | none => rfl
  | some call => cases call <;> rfl

namespace Sound

/-- **A pulse that has its turn leaves all pulses awake or waiting.** -/
theorem turn (sound : Sound f) {place : Nat} {id : SubscriptionId}
    (here : f.loop.ready[place]? = some id) : Sound (f.turn place id) := by
  have known := sound.ready id (List.mem_of_getElem? here)
  have created := Source.created_beat f.timer f.nanos f.isAlive id
  have paced := sound.paced.beat f.nanos f.isAlive id
  have keeps := (Source.keepsTime_beat f.timer f.nanos f.isAlive id).trans sound.keeps
  have rests (ms : Nat) : (f.timer.beat (f.loop.now * Duration.milli) f.isAlive id).1 = .rest ms →
      f.loop.now < ms := Source.lt_of_beat_rest sound.paced f.isAlive
  cases beat : f.timer.beat f.nanos f.isAlive id with
  | mk what timer =>
    rw [beat] at created paced keeps
    have rung : Sound { f with timer, loop := f.left place } :=
      ⟨keeps, paced, sound.ahead,
        fun other mem => created.symm ▸ sound.ready other (List.mem_of_mem_eraseIdx mem),
        fun a mem => created.symm ▸ sound.alarms a mem, sound.held, sound.distinct⟩
    cases what with
    | rest ms =>
      rw [turn_of_rest beat]
      have later : f.loop.now < ms := rests ms (congrArg Prod.fst beat)
      refine { rung with ahead := fun a mem => ?_, alarms := fun a mem => ?_ }
      · rcases List.mem_append.1 mem with old | new
        · exact sound.ahead a old
        · exact (List.mem_singleton.1 new) ▸ later
      · rcases List.mem_append.1 mem with old | new
        · exact rung.alarms a old
        · rw [List.mem_singleton.1 new]
          exact created.symm ▸ known
    | tick receiver =>
      rw [turn_of_tick beat]
      refine { rung with ready := fun other mem => ?_ }
      rcases List.mem_cons.1 mem with rfl | old
      · exact created.symm ▸ known
      · exact rung.ready other old
    | _ => exact turn_of_over beat ▸ rung

/-- So does whatever else can happen. -/
theorem stirs (sound : Sound f) {label : Stirring} (stirs : Stirs label f g) : Sound g := by
  cases stirs with
  | same => exact sound
  | meet =>
    refine { sound with held := fun serial mem => ?_, distinct := ?_ }
    · rcases List.mem_append.1 mem with old | new
      · exact Nat.lt_succ_of_lt (sound.held serial old)
      · rw [List.mem_singleton.1 new]
        exact Nat.lt_succ_self _
    · refine List.nodup_append.2 ⟨sound.distinct, List.nodup_singleton _, ?_⟩
      intro serial old new mem
      rw [List.mem_singleton.1 mem]
      exact Nat.ne_of_lt (sound.held serial old)
  | drop _ held fewer =>
    exact { sound with
      held := fun serial mem => sound.held serial (fewer.subset mem)
      distinct := sound.distinct.sublist fewer }
  | pass _ ms still =>
    refine { sound with ahead := ?_, ready := ?_, alarms := ?_ }
    · exact fun a mem => (EventLoop.mem_alarms_moveTo.1 mem).2
    · intro id mem
      rcases EventLoop.mem_ready_moveTo.1 mem with old | ⟨due, -, rung⟩
      · exact sound.ready id old
      · exact sound.alarms _ rung
    · exact fun a mem => sound.alarms a (EventLoop.mem_alarms_moveTo.1 mem).1
  | turn _ place id here silent => exact sound.turn here
  | tick _ place id here receiver ticks => exact sound.turn here

/-- So does what is asked of the timer. -/
theorem make (sound : Sound f) (call : Call) : Sound (f.make call) := by
  cases call with
  | subscribe receiver nanos =>
    have created := Source.created_subscribe f.timer receiver nanos
    have known : ∀ id ≤ f.timer.created, id ≤ (f.timer.subscribe receiver nanos).2.created :=
      fun id le => created.symm ▸ Nat.le_succ_of_le le
    have made : Sound { f with timer := (f.timer.subscribe receiver nanos).2 } := by
      refine ⟨?_, sound.paced.subscribe receiver nanos, sound.ahead,
        fun id mem => known id (sound.ready id mem),
        fun a mem => known a.agent (sound.alarms a mem), sound.held, sound.distinct⟩
      exact (Source.keepsTime_subscribe f.timer receiver nanos).trans sound.keeps
    unfold Face.make
    dsimp only
    split
    · refine { made with ready := fun id mem => ?_ }
      rcases List.mem_append.1 mem with old | new
      · exact made.ready id old
      · rw [List.mem_singleton.1 new, Source.id_subscribe]
        exact Nat.le_of_eq created.symm
    · exact made
  | unsubscribe id =>
    have created := Source.created_unsubscribe f.timer id
    refine ⟨?_, sound.paced.unsubscribe id, sound.ahead,
      fun other mem => created.symm ▸ sound.ready other mem,
      fun a mem => created.symm ▸ sound.alarms a mem, sound.held, sound.distinct⟩
    exact (Source.keepsTime_unsubscribe f.timer id).trans sound.keeps
  | shutDown =>
    have created := Source.created_shutDown f.timer
    refine ⟨?_, sound.paced.shutDown, sound.ahead,
      fun other mem => created.symm ▸ sound.ready other mem,
      fun a mem => created.symm ▸ sound.alarms a mem, sound.held, sound.distinct⟩
    exact (Source.keepsTime_shutDown f.timer).trans sound.keeps

/-- So does a call that may or may not be made. -/
theorem makes (sound : Sound f) (call : Option Call) : Sound (f.makes call) := by
  cases call with
  | none => exact sound
  | some call => exact sound.make call

end Sound
end Face

end Bench
end Timer
end HomeMedia
