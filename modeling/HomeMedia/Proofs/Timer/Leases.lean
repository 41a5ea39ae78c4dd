import HomeMedia.Proofs.Timer.Faces
/-!
# What becomes of a subscription

A *lease* is a subscription as its history tells it: when it was made and for whom, how many ticks
were sent, when the next one is due, and whether it is over. It is over when it was *ended*, by its
number or by a shutdown, or when it *lapsed*, because its pulse had a turn after a tick was due that
nobody was there to get. A lease does not look into the table of the timer; it only follows what
happens.

The table says the same (`Lease.Fits`): a lease that stands has an entry with its subscriber, its
interval and the same time for the next tick, and a pulse that is ready or waits for that time; a
lease that is over has no entry. What happens and what is asked keeps this up, whoever else has
subscriptions (`Fits.stirs`, `Fits.called`), since other pulses leave entry, place among the ready
and alarms alone (`Unmoved`). The entry of a subscription that was made after a shutdown has no
pulse, and nobody ever removes it but the one who ends it.

With it goes a bound. The next tick is due no earlier than one interval for each tick up to it has
gone by since the lease was made, and a tick is only sent when it is due.
-/

namespace HomeMedia
namespace Timer
namespace Bench

/-! ## Leases -/

/-- A subscription as its history tells it. -/
structure Lease where
  /-- Its number. -/
  id : SubscriptionId
  /-- Who gets the ticks. -/
  receiver : Receiver
  /-- Nanoseconds between two ticks. -/
  interval : Nat
  /-- When it was made, in nanoseconds. -/
  made : Nat
  /-- When its next tick is due, unless the timer was shut down when it was made. -/
  due : Option Nat
  /-- How many ticks were sent. -/
  sent : Nat := 0
  /-- Whether it was ended, by its number or with all others. -/
  ended : Bool := false
  /-- Whether a tick was due and its subscriber was gone. -/
  lapsed : Bool := false
  deriving DecidableEq, Repr

namespace Lease

/-- A new lease. -/
def new (f : Face) (receiver : Receiver) (nanos : Nat) : Lease :=
  { id := f.timer.created + 1, receiver, interval := max nanos minInterval, made := f.nanos
    due := if f.timer.isTicking then some (f.nanos + max nanos minInterval) else none }

/-- Whether neither has happened. -/
def stands (l : Lease) : Bool := !l.ended && !l.lapsed

/-- Whether a tick is due and nobody is there to get it. -/
def isMissed (f : Face) (l : Lease) : Bool :=
  !f.isAlive l.receiver && l.due.any fun due => due ≤ f.nanos

/-- The lease after its pulse had a turn without sending a tick. -/
def turned (f : Face) (l : Lease) : Lease := { l with lapsed := l.lapsed || l.isMissed f }

/-- The lease after a tick. -/
def ticked (f : Face) (l : Lease) : Lease :=
  { l with
    sent := l.sent + 1
    due := l.due.map fun due => Interval.following l.interval due f.nanos }

/-- The lease after something happened. -/
def stirred (f : Face) (l : Lease) : Face.Stirring → Lease
  | .turn id => if id = l.id then l.turned f else l
  | .tick id => if id = l.id then l.ticked f else l
  | _ => l

/-- The lease after something was asked of the timer. -/
def called (l : Lease) : Option Call → Lease
  | some (.unsubscribe id) => if id = l.id then { l with ended := true } else l
  | some .shutDown => { l with ended := true }
  | _ => l

/-- What the timer knows of a lease that stands. -/
inductive Stage (f : Face) (l : Lease) (e : Interval.Entry Receiver) : Prop where
  /-- It has no pulse. -/
  | pulseless (never : l.due = none) (entry : e.due = none) (asleep : l.id ∉ f.loop.ready)
    (silent : ∀ due, ⟨due, l.id⟩ ∉ f.loop.alarms)
  /-- Its pulse is about to start. -/
  | fresh (first : l.due = some (f.nanos + l.interval)) (entry : e.due = none)
    (ready : l.id ∈ f.loop.ready)
  /-- Its pulse knows when the next tick is due, and is ready or waits for it. -/
  | running (due : Nat) (next : l.due = some due) (entry : e.due = some due)
    (awake : l.id ∈ f.loop.ready ∨ ⟨Interval.milliOf due, l.id⟩ ∈ f.loop.alarms)

/-- The entry of a lease that stands. -/
structure Entered (f : Face) (l : Lease) (e : Interval.Entry Receiver) : Prop where
  /-- It is in the table. -/
  found : f.timer.row? l.id = some e
  /-- It has the same subscriber. -/
  subscriber : e.subscriber = l.receiver
  /-- It has the same interval. -/
  interval : e.interval = l.interval
  /-- It knows when the next tick is due. -/
  stage : Stage f l e

/-- What can be told about a lease without the table of the timer. -/
structure Told (f : Face) (l : Lease) : Prop where
  /-- Ticks do not come too fast. -/
  long : minInterval ≤ l.interval
  /-- Its number was handed out. -/
  known : l.id ≤ f.timer.created
  /-- So was the number of its subscriber. -/
  met : l.receiver.counter < f.serials
  /-- The ticks that were sent had time enough. -/
  since : l.made + l.sent * l.interval ≤ f.nanos
  /-- The next tick is an interval later at least. -/
  later : ∀ due, l.due = some due → l.made + (l.sent + 1) * l.interval ≤ due
  /-- If it lapsed, its subscriber was gone when a tick was due. -/
  missed : l.lapsed = true → l.isMissed f = true

/-- A lease fits what the timer knows. -/
structure Fits (f : Face) (l : Lease) : Prop extends Told f l where
  /-- If it does not stand, the timer does not know it any more. -/
  gone : l.stands = false → f.timer.row? l.id = none
  /-- If it stands, the timer knows it. -/
  entered : l.stands = true → ∃ e, l.Entered f e

variable {f g : Face} {l : Lease}

/-- What a lease is entered as does not depend on what others do. -/
theorem Entered.of_same {e : Interval.Entry Receiver} (entered : l.Entered f e)
    (row : g.timer.row? l.id = f.timer.row? l.id) (nanos : g.nanos = f.nanos)
    (unmoved : Unmoved l.id f.loop g.loop) : l.Entered g e where
  found := row.trans entered.found
  subscriber := entered.subscriber
  interval := entered.interval
  stage := by
    cases entered.stage with
    | pulseless never entry asleep silent =>
      exact .pulseless never entry (fun mem => asleep (unmoved.ready.1 mem))
        fun due mem => silent due ((unmoved.alarms due).1 mem)
    | fresh first entry ready => exact .fresh (by rw [nanos, first]) entry (unmoved.ready.2 ready)
    | running due next entry awake =>
      exact .running due next entry
        (awake.imp unmoved.ready.2 (unmoved.alarms (Interval.milliOf due)).2)

/-- A lease is missed if its subscriber is gone and its tick is due. -/
theorem isMissed_eq_true_iff : l.isMissed f = true ↔
    f.isAlive l.receiver = false ∧ ∃ due, l.due = some due ∧ due ≤ f.nanos := by
  unfold isMissed
  rw [Bool.and_eq_true, Bool.not_eq_true', Option.any_eq_true]
  refine and_congr_right fun _ => exists_congr fun due => and_congr_right fun _ => ?_
  exact decide_eq_true_iff

/-- Once missed, it is missed at every later time. -/
theorem isMissed_of_le (alive : g.isAlive l.receiver = true → f.isAlive l.receiver = true)
    (nanos : f.nanos ≤ g.nanos) (missed : l.isMissed f = true) : l.isMissed g = true := by
  obtain ⟨gone, due, next, passed⟩ := isMissed_eq_true_iff.1 missed
  refine isMissed_eq_true_iff.2 ⟨Bool.eq_false_iff.2 fun still => ?_, due, next,
    Nat.le_trans passed nanos⟩
  rw [alive still] at gone
  cases gone

/-- Nothing is missed as long as no tick is due. -/
theorem turned_of_lt {due : Nat} (next : l.due = some due) (early : f.nanos < due) :
    l.turned f = l := by
  have none : l.isMissed f = false := by
    refine Bool.eq_false_iff.2 fun missed => ?_
    obtain ⟨-, other, known, passed⟩ := isMissed_eq_true_iff.1 missed
    cases next.symm.trans known
    exact Nat.not_le_of_lt early passed
  rw [turned, none, Bool.or_false]

/-- After a turn without a tick it stands, unless it is missed. -/
theorem stands_turned (f : Face) (l : Lease) :
    (l.turned f).stands = (l.stands && !l.isMissed f) := by
  unfold stands turned
  rw [Bool.not_or, Bool.and_assoc]

/-- A tick that is due while nobody is there is missed. -/
theorem stands_turned_of_le {due : Nat} (next : l.due = some due) (late : due ≤ f.nanos)
    (gone : f.isAlive l.receiver = false) : (l.turned f).stands = false := by
  have missed : l.isMissed f = true := isMissed_eq_true_iff.2 ⟨gone, due, next, late⟩
  rw [stands_turned, missed, Bool.not_true, Bool.and_false]

/-- Time passes, and subscriptions and counters are made, but none comes back that is gone. -/
theorem Told.onward (told : l.Told f) (created : f.timer.created ≤ g.timer.created)
    (serials : f.serials ≤ g.serials) (nanos : f.nanos ≤ g.nanos)
    (alive : g.isAlive l.receiver = true → f.isAlive l.receiver = true) : l.Told g where
  long := told.long
  known := Nat.le_trans told.known created
  met := Nat.lt_of_lt_of_le told.met serials
  since := Nat.le_trans told.since nanos
  later := told.later
  missed lapsed := isMissed_of_le alive nanos (told.missed lapsed)

/-- What can be told about a lease depends only on who is there and when. -/
theorem Told.alike (told : l.Told f) (alike : f.Alike g) : l.Told g :=
  told.onward (Nat.le_of_eq alike.created.symm) (Nat.le_of_eq alike.serials.symm)
    (Nat.le_of_eq alike.nanos.symm) fun still => alike.isAlive ▸ still

/-- A tick is missed when it is due and nobody is there. -/
theorem Told.turned (told : l.Told f) : (l.turned f).Told f :=
  { told with
    missed := fun lapsed => by
      rcases Bool.or_eq_true_iff.1 lapsed with before | now
      · exact told.missed before
      · exact now }

/-- After a tick the next one is due on the grid. -/
theorem due_ticked {due : Nat} (next : l.due = some due) :
    (l.ticked f).due = some (Interval.following l.interval due f.nanos) := by
  rw [ticked, next, Option.map_some]

/-- A tick moves the next one on by an interval at least. -/
theorem Told.ticked (told : l.Told f) (stands : l.stands = true) {due : Nat}
    (next : l.due = some due) (late : due ≤ f.nanos) : (l.ticked f).Told f where
  long := told.long
  known := told.known
  met := told.met
  since := Nat.le_trans (told.later due next) late
  later other known := by
    cases (due_ticked next).symm.trans known
    have before := told.later due next
    have after := Interval.le_following l.interval due f.nanos
    change l.made + (l.sent + 1 + 1) * l.interval ≤ _
    rw [Nat.succ_mul (l.sent + 1)]
    omega
  missed lapsed := by
    have lasting : l.lapsed = false := by
      unfold Lease.stands at stands
      rw [Bool.and_eq_true, Bool.not_eq_true', Bool.not_eq_true'] at stands
      exact stands.2
    cases lasting.symm.trans lapsed

/-- The pulse of a lease that stands waits for its next tick, once everybody waits. -/
theorem Entered.waits {e : Interval.Entry Receiver} (entered : l.Entered f e)
    (still : f.loop.ready = []) {due : Nat} (next : l.due = some due) :
    ⟨Interval.milliOf due, l.id⟩ ∈ f.loop.alarms := by
  cases entered.stage with
  | pulseless never => cases never.symm.trans next
  | fresh first entry ready =>
    rw [still] at ready
    cases ready
  | running other known entry awake =>
    cases known.symm.trans next
    rcases awake with ready | alarm
    · rw [still] at ready
      cases ready
    · exact alarm

namespace Fits

/-- **Once everybody waits, the next tick is still to come.** -/
theorem lt_due (fits : l.Fits f) (sound : f.Sound) (stands : l.stands = true)
    (still : f.loop.ready = []) {due : Nat} (next : l.due = some due) : f.nanos < due := by
  obtain ⟨e, entered⟩ := fits.entered stands
  exact Interval.lt_milliOf.1 (sound.ahead _ (entered.waits still next))

/-- What others do keeps a lease fitting. -/
theorem of_unmoved (fits : l.Fits f) (created : f.timer.created ≤ g.timer.created)
    (serials : f.serials ≤ g.serials) (nanos : g.nanos = f.nanos)
    (alive : g.isAlive l.receiver = true → f.isAlive l.receiver = true)
    (row : g.timer.row? l.id = f.timer.row? l.id) (unmoved : Unmoved l.id f.loop g.loop) :
    l.Fits g where
  toTold := fits.onward created serials (Nat.le_of_eq nanos.symm) alive
  gone fallen := row.trans (fits.gone fallen)
  entered stands := by
    obtain ⟨e, entered⟩ := fits.entered stands
    exact ⟨e, entered.of_same row nanos unmoved⟩

/-- Time passes while nobody is ready. -/
theorem pass (fits : l.Fits f) (still : f.loop.ready = []) (ms : Nat) :
    l.Fits { f with loop := f.loop.moveTo (f.loop.now + ms) } := by
  have nanos : f.nanos ≤ ({ f with loop := f.loop.moveTo (f.loop.now + ms) } : Face).nanos :=
    Nat.mul_le_mul_right Duration.milli (Nat.le_add_right f.loop.now ms)
  have told : l.Told { f with loop := f.loop.moveTo (f.loop.now + ms) } :=
    fits.onward (Nat.le_refl _) (Nat.le_refl _) nanos fun still => still
  refine ⟨told, fits.gone, fun stands => ?_⟩
  obtain ⟨e, entered⟩ := fits.entered stands
  refine ⟨e, entered.found, entered.subscriber, entered.interval, ?_⟩
  cases entered.stage with
  | pulseless never entry asleep silent =>
    refine .pulseless never entry (fun mem => ?_) fun due mem => ?_
    · rcases EventLoop.mem_ready_moveTo.1 mem with old | ⟨due, -, rung⟩
      · exact asleep old
      · exact silent due rung
    · exact silent due (EventLoop.mem_alarms_moveTo.1 mem).1
  | fresh first entry ready =>
    rw [still] at ready
    cases ready
  | running due next entry awake =>
    refine .running due next entry ?_
    rcases awake with ready | alarm
    · exact .inl (EventLoop.mem_ready_moveTo.2 (.inl ready))
    · if rung : Interval.milliOf due ≤ f.loop.now + ms then
        exact .inl (EventLoop.mem_ready_moveTo.2 (.inr ⟨_, rung, alarm⟩))
      else exact .inr (EventLoop.mem_alarms_moveTo.2 ⟨alarm, Nat.lt_of_not_le rung⟩)

/-- A pulse that has a turn is not asleep. -/
theorem not_pulseless {place : Nat} {e : Interval.Entry Receiver} (entered : l.Entered f e)
    (here : f.loop.ready[place]? = some l.id) :
    (l.due = some (f.nanos + l.interval) ∧ e.due = none) ∨
      ∃ due, l.due = some due ∧ e.due = some due := by
  cases entered.stage with
  | pulseless never entry asleep silent => exact absurd (List.mem_of_getElem? here) asleep
  | fresh first entry ready => exact .inl ⟨first, entry⟩
  | running due next entry awake => exact .inr ⟨due, next, entry⟩

/-- A pulse that ends leaves nothing behind. -/
theorem turned_of_gone (fits : l.Fits f) (alike : f.Alike g)
    (fallen : (l.turned f).stands = false) (row : g.timer.row? l.id = none) :
    (l.turned f).Fits g where
  toTold := fits.toTold.turned.alike alike
  gone _ := row
  entered stands := by
    rw [fallen] at stands
    cases stands

/-- The turn of its own pulse, without a tick. -/
theorem turned (fits : l.Fits f) {place : Nat} (here : f.loop.ready[place]? = some l.id)
    (silent : (f.timer.beat f.nanos f.isAlive l.id).1.target? = none) :
    (l.turned f).Fits (f.turn place l.id) := by
  have alike := Face.alike_turn place l.id f
  cases stands : l.stands with
  | false =>
    have fallen : (l.turned f).stands = false := by rw [stands_turned, stands, Bool.false_and]
    have ends := Source.beat_of_none f.nanos f.isAlive (fits.gone stands)
    refine fits.turned_of_gone alike fallen ?_
    rw [Face.turn_of_over ends]
    exact fits.gone stands
  | true =>
    obtain ⟨e, entered⟩ := fits.entered stands
    have waiting {due : Nat} (next : l.due = some due) (early : f.nanos < due) {u : Source Receiver}
        (rests : f.timer.beat f.nanos f.isAlive l.id = (.rest (Interval.milliOf due), u))
        (row : u.row? l.id = some { e with due := some due }) :
        (l.turned f).Fits (f.turn place l.id) := by
      rw [turned_of_lt next early]
      refine ⟨fits.alike alike, fun fallen => ?_, fun _ => ⟨{ e with due := some due }, ?_⟩⟩
      · rw [stands] at fallen
        cases fallen
      · rw [Face.turn_of_rest rests]
        exact ⟨row, entered.subscriber, entered.interval,
          .running due next rfl (.inr (List.mem_append_right _ (List.mem_singleton_self _)))⟩
    rcases not_pulseless entered here with ⟨first, new⟩ | ⟨due, next, started⟩
    · obtain ⟨u, rests, row⟩ := Source.beat_of_new f.nanos f.isAlive entered.found new
      have long : 0 < l.interval := Nat.lt_of_lt_of_le (by decide) fits.long
      have early : f.nanos < f.nanos + l.interval := Nat.lt_add_of_pos_right long
      rw [← entered.interval] at first early
      exact waiting first early rests row
    · rcases Source.beat_of_due f.nanos f.isAlive entered.found started with
        ⟨early, rests⟩ | ⟨late, gone, u, ends, row⟩ | ⟨late, alive, u, ticks, row⟩
      · refine waiting next early rests ?_
        rw [entered.found, ← started]
      · rw [entered.subscriber] at gone
        refine fits.turned_of_gone alike (stands_turned_of_le next late gone) ?_
        rw [Face.turn_of_over ends]
        exact row
      · rw [ticks] at silent
        cases silent

/-- A tick that is due is noted in the lease and in the table alike. -/
theorem ticked_of_entered (fits : l.Fits f) (alike : f.Alike g) (stands : l.stands = true)
    {due : Nat} (next : l.due = some due) (late : due ≤ f.nanos) {e : Interval.Entry Receiver}
    (entered : l.Entered f e)
    (row : g.timer.row? l.id =
      some { e with due := some (Interval.following e.interval due f.nanos) })
    (ready : l.id ∈ g.loop.ready) : (l.ticked f).Fits g where
  toTold := (fits.toTold.ticked stands next late).alike alike
  gone fallen := by cases stands.symm.trans fallen
  entered _ := by
    refine ⟨_, row, entered.subscriber, entered.interval, ?_⟩
    refine .running _ (due_ticked next) ?_ (.inl ready)
    rw [entered.interval]

/-- A tick of its own pulse. -/
theorem ticked (fits : l.Fits f) {place : Nat} (here : f.loop.ready[place]? = some l.id)
    {receiver : Receiver}
    (ticks : (f.timer.beat f.nanos f.isAlive l.id).1.target? = some receiver) :
    receiver = l.receiver ∧ f.isAlive l.receiver = true ∧ l.stands = true ∧
      (∃ due, l.due = some due ∧ due ≤ f.nanos) ∧ (l.ticked f).Fits (f.turn place l.id) := by
  have alike := Face.alike_turn place l.id f
  cases stands : l.stands with
  | false =>
    rw [Source.beat_of_none f.nanos f.isAlive (fits.gone stands)] at ticks
    cases ticks
  | true =>
    obtain ⟨e, entered⟩ := fits.entered stands
    rcases not_pulseless entered here with ⟨first, new⟩ | ⟨due, next, started⟩
    · obtain ⟨u, rests, -⟩ := Source.beat_of_new f.nanos f.isAlive entered.found new
      rw [rests] at ticks
      cases ticks
    · rcases Source.beat_of_due f.nanos f.isAlive entered.found started with
        ⟨-, rests⟩ | ⟨-, -, u, ends, -⟩ | ⟨late, alive, u, sends, row⟩
      · rw [rests] at ticks
        cases ticks
      · rw [ends] at ticks
        cases ticks
      · rw [sends] at ticks
        cases ticks
        rw [entered.subscriber] at alive
        refine ⟨entered.subscriber, alive, rfl, ⟨due, next, late⟩, ?_⟩
        refine fits.ticked_of_entered alike stands next late entered ?_ ?_
        · rw [Face.turn_of_tick sends]
          exact row
        · rw [Face.turn_of_tick sends]
          exact List.mem_cons_self ..

/-- The turn of another pulse. -/
theorem turn_other (fits : l.Fits f) {place : Nat} {id : SubscriptionId}
    (here : f.loop.ready[place]? = some id) (other : l.id ≠ id) : l.Fits (f.turn place id) := by
  have alike := Face.alike_turn place id f
  have left : Unmoved l.id f.loop (f.left place) := .leaveOut other here
  refine fits.of_unmoved (Nat.le_of_eq alike.created.symm) (Nat.le_of_eq alike.serials.symm)
    alike.nanos (fun still => alike.isAlive ▸ still) ?_ ?_
  · obtain ⟨loop, -, same⟩ := Face.exists_turn place id f
    rw [same]
    exact Source.row?_beat other f.nanos f.isAlive
  · cases beat : f.timer.beat f.nanos f.isAlive id with
    | mk what timer =>
      cases what with
      | rest ms =>
        rw [Face.turn_of_rest beat]
        exact left.trans (.wakeAt other ms _)
      | tick receiver =>
        rw [Face.turn_of_tick beat]
        exact left.trans (.goOn other _)
      | _ =>
        rw [Face.turn_of_over beat]
        exact left

/-- **Whatever happens, a lease goes on fitting.** -/
theorem stirs (fits : l.Fits f) {label : Face.Stirring} (stirs : Face.Stirs label f g) :
    (l.stirred f label).Fits g := by
  have alive := stirs.isAlive_of fits.met
  cases stirs with
  | same => exact fits
  | meet => exact fits.of_unmoved (Nat.le_refl _) (Nat.le_succ _) rfl alive rfl (.refl ..)
  | drop => exact fits.of_unmoved (Nat.le_refl _) (Nat.le_refl _) rfl alive rfl (.refl ..)
  | pass _ ms still => exact fits.pass still ms
  | turn _ place id here silent =>
    if same : id = l.id then
      subst same
      rw [stirred, if_pos rfl]
      exact fits.turned here silent
    else
      rw [stirred, if_neg same]
      exact fits.turn_other here (Ne.symm same)
  | tick _ place id here receiver ticks =>
    if same : id = l.id then
      subst same
      rw [stirred, if_pos rfl]
      exact (fits.ticked here ticks).2.2.2.2
    else
      rw [stirred, if_neg same]
      exact fits.turn_other here (Ne.symm same)

/-- A lease that is ended is not in the table any more. -/
theorem ended (fits : l.Fits f) (alike : f.Alike g) (row : g.timer.row? l.id = none) :
    ({ l with ended := true } : Lease).Fits g where
  toTold := { fits.alike alike with }
  gone _ := row
  entered stands := by cases stands

/-- **Whatever is asked of the timer, a lease goes on fitting.** -/
theorem called (fits : l.Fits f) (sound : f.Sound) (call : Option Call) :
    (l.called call).Fits (f.makes call) := by
  cases call with
  | none => exact fits
  | some call =>
    cases call with
    | subscribe receiver nanos =>
      have created := Source.created_subscribe f.timer receiver nanos
      have other : l.id ≠ f.timer.created + 1 := Nat.ne_of_lt (Nat.lt_succ_of_le fits.known)
      refine fits.of_unmoved ?_ (Nat.le_refl _) ?_ (fun still => still)
        (Source.row?_subscribe_of_ne other receiver nanos) ?_
      · exact Nat.le_trans (Nat.le_succ _) (Nat.le_of_eq created.symm)
      · exact congrArg (· * Duration.milli) (Face.now_make f _)
      · unfold Face.makes Face.make
        dsimp only
        split
        · exact .wake (Source.id_subscribe f.timer receiver nanos ▸ other) f.loop
        · exact .refl ..
    | unsubscribe id =>
      have alike : f.Alike (f.make (.unsubscribe id)) :=
        ⟨Source.created_unsubscribe f.timer id, rfl, rfl, rfl⟩
      rw [Lease.called]
      if same : id = l.id then
        subst same
        rw [if_pos rfl]
        exact fits.ended alike (Source.row?_unsubscribe_self sound.keeps l.id)
      else
        rw [if_neg same]
        exact fits.of_unmoved (Nat.le_of_eq alike.created.symm) (Nat.le_refl _) rfl
          (fun still => still) (Source.row?_unsubscribe (Ne.symm same)) (.refl ..)
    | shutDown =>
      exact fits.ended ⟨Source.created_shutDown f.timer, rfl, rfl, rfl⟩
        (Source.row?_shutDown sound.keeps l.id)

end Fits

/-- Subscribing wakes the new pulse if the timer ticks. -/
theorem loop_make_subscribe (f : Face) (receiver : Receiver) (nanos : Nat) :
    (f.make (.subscribe receiver nanos)).loop =
      if f.timer.isTicking then f.loop.wake (f.timer.created + 1) else f.loop := by
  rw [← Source.id_subscribe f.timer receiver nanos,
    ← Source.hasPulse_subscribe (t := f.timer) receiver nanos]
  rfl

/-- **A new lease fits.** -/
theorem new_fits (sound : f.Sound) {receiver : Receiver} (met : receiver.counter < f.serials)
    (nanos : Nat) : (Lease.new f receiver nanos).Fits (f.make (.subscribe receiver nanos)) := by
  have numbered := sound.paced.toNumbered
  have row := Source.row?_subscribe_created sound.keeps numbered receiver nanos
  have still : (f.make (.subscribe receiver nanos)).nanos = f.nanos :=
    congrArg (· * Duration.milli) (Face.now_make f _)
  have loop := loop_make_subscribe f receiver nanos
  refine ⟨⟨Nat.le_max_right .., ?_, met, ?_, ?_, nofun⟩, nofun, fun _ => ⟨_, row, rfl, rfl, ?_⟩⟩
  · exact Nat.le_of_eq (Source.created_subscribe f.timer receiver nanos).symm
  · rw [still, show (new f receiver nanos).made = f.nanos from rfl,
      show (new f receiver nanos).sent = 0 from rfl, Nat.zero_mul, Nat.add_zero]
  · intro due next
    rw [new] at next ⊢
    dsimp only at next ⊢
    split_ifs at next
    rw [← Option.some.inj next, Nat.zero_add, Nat.one_mul]
  · cases ticking : f.timer.isTicking with
    | true =>
      rw [ticking, if_pos rfl] at loop
      refine .fresh ?_ rfl ?_
      · rw [still, new, ticking, if_pos rfl]
      · rw [loop]
        exact List.mem_append_right _ (List.mem_singleton_self _)
    | false =>
      rw [ticking, if_neg Bool.false_ne_true] at loop
      refine .pulseless ?_ rfl (fun mem => ?_) fun due mem => ?_
      · rw [new, ticking, if_neg Bool.false_ne_true]
      · rw [loop] at mem
        exact Nat.not_succ_le_self _ (sound.ready _ mem)
      · rw [loop] at mem
        exact Nat.not_succ_le_self _ (sound.alarms _ mem)

end Lease

end Bench
end Timer
end HomeMedia
