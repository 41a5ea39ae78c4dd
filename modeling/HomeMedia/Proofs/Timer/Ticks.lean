import HomeMedia.Proofs.Timer.Histories
/-!
# The ticks of a subscription

How many ticks a subscription gets, over all orderly runs of a timer that keeps time.

A lease counts the ticks that are sent, and it fits the table of the timer, so it bounds them: never
more than there were whole intervals (`ticksOf_le`). A lease is *silent* if it never had a pulse, is
over, or its subscriber is gone; it then stays silent and gets no tick, even if one is due at that
moment (`ticksOf_eq_zero`).

As long as the clock stops at every alarm, a lease that stands is *punctual*: its ticks keep the
grid of its interval, for each is handled within the millisecond in which it is due, and that is not
late enough to move the grid. Once everybody waits, the next tick is still to come, so the number of
those that were sent is the number of whole intervals (`ticksOf_eq`).
-/

namespace HomeMedia
namespace Timer
namespace Bench

open Face (Stirs Stirring)

variable {b : Bench} {e : Episode}

/-! ## Ticks are counted -/

/-- The counter that gets a tick in an episode. -/
def hears? (b : Bench) : Episode → Option Nat
  | .turn place => (b.loop.ready[place]?.bind b.target?).map Receiver.counter
  | _ => none

/-- Some counters afterwards, one of which may have counted a tick. -/
def Counted (serial : Option Nat) (before after : List Counter) : Prop :=
  ∀ c ∈ after, ∃ d ∈ before,
    d.serial = c.serial ∧ c.ticks = d.ticks + if serial = some c.serial then 1 else 0

/-- Where nothing was counted, the counters are as they were. -/
theorem Counted.refl (counters : List Counter) : Counted none counters counters :=
  fun c mem => ⟨c, mem, rfl, rfl⟩

/-- Counting a tick changes one counter. -/
theorem counted_update (serial : Nat) (b : Bench) : Counted (some serial) b.counters
    (b.update serial fun c => { c with ticks := c.ticks + 1 }).counters := by
  intro c mem
  obtain ⟨d, known, rfl⟩ := List.mem_map.1 mem
  refine ⟨d, known, ?_⟩
  cases mine : d.serial == serial with
  | true => simp [beq_iff_eq.1 mine]
  | false => simp [Ne.symm (beq_eq_false_iff_ne.1 mine)]

/-- What else is done to a counter does not matter. -/
theorem Counted.update {heard : Option Nat} {before : List Counter} {b : Bench}
    (counted : Counted heard before b.counters) (serial : Nat) {f : Counter → Counter}
    (same : ∀ c, (f c).serial = c.serial ∧ (f c).ticks = c.ticks) :
    Counted heard before (b.update serial f).counters := by
  intro c mem
  obtain ⟨d, known, rfl⟩ := List.mem_map.1 mem
  have heard := counted d known
  split
  · rwa [(same d).1, (same d).2]
  · exact heard

/-- A tick is counted by the counter of its receiver, whatever is done inside it. -/
theorem counted_tick (receiver : Receiver) (b : Bench) :
    Counted (some receiver.counter) b.counters (b.tick receiver).counters := by
  have counted := counted_update receiver.counter b
  unfold tick
  dsimp only
  split
  · split
    · rename_i reaction more _
      rw [counters_react]
      exact counted.update _ fun _ => ⟨rfl, rfl⟩
    · exact counted
  · exact counted

/-- The turn of a pulse is counted if it sends a tick. -/
theorem counted_poll (place : Nat) (id : SubscriptionId) (b : Bench) :
    Counted ((b.target? id).map Receiver.counter) b.counters
      (poll id (b.leaveOut place)).counters := by
  unfold poll target?
  rw [show (b.leaveOut place).timer.beat (b.leaveOut place).nanos (b.leaveOut place).isAlive id =
    b.timer.beat b.nanos b.isAlive id from rfl]
  cases b.timer.beat b.nanos b.isAlive id with
  | mk beat timer =>
    cases beat with
    | tick receiver => exact counted_tick receiver { b.leaveOut place with timer }
    | _ => exact .refl b.counters

/-- **A counter counts the ticks that it gets**, and starts at none. -/
theorem ticks_undergo (keeps : b.timer.keepsTime = true) (e : Episode) {c : Counter}
    (mem : c ∈ (b.undergo e).counters) :
    (∃ d ∈ b.counters, d.serial = c.serial ∧
      c.ticks = d.ticks + if b.hears? e = some c.serial then 1 else 0) ∨
    c.serial = b.serials ∧ c.ticks = 0 := by
  cases e with
  | command command atOnce =>
    have same (known : c ∈ b.counters) : ∃ d ∈ b.counters, d.serial = c.serial ∧
        c.ticks = d.ticks + if (none : Option Nat) = some c.serial then 1 else 0 :=
      Counted.refl b.counters c known
    cases command with
    | subscribe name nanos reactions =>
      have made : c ∈ (b.counter name reactions).2.counters := mem
      unfold counter at made
      split at made
      · exact .inl (same made)
      · rcases List.mem_append.1 made with old | new
        · exact .inl (same old)
        · rw [List.mem_singleton.1 new]
          exact .inr ⟨rfl, rfl⟩
    | intervalOf id =>
      unfold undergo act at mem
      dsimp only at mem
      split at mem <;> exact .inl (same mem)
    | drop name => exact .inl (same (List.mem_of_mem_filter mem))
    | fire =>
      have fired : c ∈ b.fire.2.counters := mem
      rw [fire_of_keepsTime keeps] at fired
      exact .inl (same fired)
    | fireTimes times =>
      have fired : c ∈ (b.fireTimes times).counters := mem
      rw [fireTimes_of_keepsTime keeps] at fired
      exact .inl (same fired)
    | sleep ms => cases atOnce
    | jump ms => cases atOnce
    | _ => exact .inl (same mem)
  | turn place =>
    have counted :
        Counted (b.hears? (.turn place)) b.counters (b.undergo (.turn place)).counters := by
      unfold undergo hears?
      dsimp only
      cases b.loop.ready[place]? with
      | none => exact .refl b.counters
      | some id => exact counted_poll place id b
    exact .inl (counted c mem)
  | pass ms =>
    unfold undergo at mem
    dsimp only at mem
    split at mem <;> exact .inl (Counted.refl b.counters c mem)

namespace Lease

variable {l : Lease}

/-- What is asked of the timer sends no tick. -/
theorem sent_called (l : Lease) (call : Option Call) : (l.called call).sent = l.sent := by
  obtain ⟨ended, same⟩ := l.exists_called call
  rw [same]

/-- An episode sends one tick of a lease, or none. -/
theorem sent_next (b : Bench) (e : Episode) (l : Lease) :
    (l.next b e).sent = l.sent + if b.sends? e = some l.id then 1 else 0 := by
  rw [next, sent_called]
  split
  · rw [stirred_of_sends ‹_›]
    rfl
  · rcases stirred_of_not_sends ‹_› with same | turned
    · rw [same, Nat.add_zero]
    · rw [turned, Lease.turned, Nat.add_zero]

/-- A lease knows how many of its ticks were sent in a run. -/
theorem sent_through (l : Lease) (b : Bench) (episodes : List Episode) :
    (l.through b episodes).sent = l.sent + ticksOf l.id b episodes := by
  induction episodes generalizing l b with
  | nil => rfl
  | cons e more ih => rw [through, ih, sent_next, id_next, ticksOf, Nat.add_assoc]

/-! ## Leases that get no tick any more -/

/-- Whether no tick can be sent any more: it never had a pulse, is over, or its subscriber is
gone. -/
def IsSilent (b : Bench) (l : Lease) : Prop :=
  l.due = none ∨ l.stands = false ∨ b.isAlive l.receiver = false

/-- **A tick is only sent if it is due, and to a subscriber who is there.** -/
theorem of_sends (fits : l.Fits b.face) (sends : b.sends? e = some l.id) :
    b.hears? e = some l.receiver.counter ∧ b.isAlive l.receiver = true ∧ l.stands = true ∧
      ∃ due, l.due = some due ∧ due ≤ b.nanos := by
  obtain ⟨place, receiver, rfl, here, target⟩ := exists_of_sends sends
  have ticks :
      (b.face.timer.beat b.face.nanos b.face.isAlive l.id).1.target? = some receiver := by
    rw [isAlive_face]
    exact target
  obtain ⟨mine, alive, stands, due, -⟩ := fits.ticked here ticks
  rw [isAlive_face] at alive
  refine ⟨?_, alive, stands, due⟩
  rw [hears?, here, Option.bind_some, target, mine]
  rfl

/-- **A silent lease gets no tick.** -/
theorem IsSilent.not_sends (silent : l.IsSilent b) (fits : l.Fits b.face) (e : Episode) :
    b.sends? e ≠ some l.id := by
  intro sends
  obtain ⟨-, alive, stands, due, next, -⟩ := of_sends fits sends
  rcases silent with never | fallen | gone
  · cases never.symm.trans next
  · cases fallen.symm.trans stands
  · cases gone.symm.trans alive

/-- A lease that is silent stays so. -/
theorem IsSilent.next (silent : l.IsSilent b) (sound : b.face.Sound) (fits : l.Fits b.face)
    (e : Episode) : (l.next b e).IsSilent (b.undergo e) := by
  rcases silent with never | fallen | gone
  · refine .inl ?_
    rw [due_next (IsSilent.not_sends (.inl never) fits e)]
    exact never
  · refine .inr (.inl (Bool.eq_false_iff.2 fun stands => ?_))
    exact Bool.false_ne_true (fallen.symm.trans (stands_of_next stands))
  · refine .inr (.inr (Bool.eq_false_iff.2 fun alive => ?_))
    rw [receiver_next] at alive
    exact Bool.false_ne_true (gone.symm.trans (isAlive_undergo sound e fits.met alive))

/-- It stays so during a run. -/
theorem IsSilent.through (silent : l.IsSilent b) (sound : b.face.Sound) (fits : l.Fits b.face)
    (episodes : List Episode) : (l.through b episodes).IsSilent (b.through episodes) := by
  induction episodes generalizing l b with
  | nil => exact silent
  | cons e more ih =>
    exact ih (silent.next sound fits e) (sound_undergo sound e) (fits_next sound fits e)

/-- **No tick of a silent lease is sent.** -/
theorem IsSilent.ticksOf (silent : l.IsSilent b) (sound : b.face.Sound) (fits : l.Fits b.face)
    (episodes : List Episode) : ticksOf l.id b episodes = 0 := by
  induction episodes generalizing l b with
  | nil => rfl
  | cons e more ih =>
    rw [Bench.ticksOf, if_neg (silent.not_sends fits e), Nat.zero_add, ← id_next b e l]
    exact ih (silent.next sound fits e) (sound_undergo sound e) (fits_next sound fits e)

/-! ## Leases on their grid -/

/-- No tick was late: the next one is due where the grid says, and is not overdue. -/
structure Punctual (f : Face) (l : Lease) : Prop where
  /-- The next tick is due one interval after those that were sent. -/
  grid : l.due = some (l.made + (l.sent + 1) * l.interval)
  /-- The millisecond in which it is due is not over. -/
  prompt : f.nanos < l.made + (l.sent + 1) * l.interval + Duration.milli

variable {f g : Face}

/-- The clock that stops at every alarm keeps every lease punctual. -/
theorem Punctual.pass (punctual : l.Punctual f) (fits : l.Fits f) (stands : l.stands = true)
    (still : f.loop.ready = []) {ms : Nat}
    (gentle : ∀ a ∈ f.loop.alarms, f.loop.now + ms ≤ a.due) :
    l.Punctual { f with loop := f.loop.moveTo (f.loop.now + ms) } := by
  obtain ⟨e, entered⟩ := fits.entered stands
  have alarm := entered.waits still punctual.grid
  exact ⟨punctual.grid, Interval.lt_of_le_milliOf (gentle _ alarm)⟩

/-- A tick that is handled in time is followed by one on the grid. -/
theorem Punctual.ticked (punctual : l.Punctual f) (nanos : g.nanos = f.nanos) :
    (l.ticked f).Punctual g := by
  have prompt := punctual.prompt
  have next : l.made + (l.sent + 1 + 1) * l.interval =
      l.made + (l.sent + 1) * l.interval + l.interval := by
    rw [Nat.succ_mul (l.sent + 1), Nat.add_assoc]
  have following : Interval.following l.interval (l.made + (l.sent + 1) * l.interval) f.nanos =
      l.made + (l.sent + 1 + 1) * l.interval := by
    rw [Interval.following, if_neg, next]
    unfold Interval.tolerance
    omega
  refine ⟨?_, ?_⟩
  · rw [Lease.ticked, punctual.grid, Option.map_some, following]
  · change g.nanos < l.made + (l.sent + 1 + 1) * l.interval + Duration.milli
    rw [nanos, next]
    omega

/-- A lease that stands stays punctual if time passes no alarm. -/
theorem Punctual.stirs (punctual : l.Punctual f) (fits : l.Fits f) (stands : l.stands = true)
    {label : Stirring} (stirs : Stirs label f g)
    (gentle : ∀ ms, label = .pass ms → ∀ a ∈ f.loop.alarms, f.loop.now + ms ≤ a.due) :
    (l.stirred f label).Punctual g := by
  cases stirs with
  | same => exact punctual
  | meet => exact ⟨punctual.grid, punctual.prompt⟩
  | drop => exact ⟨punctual.grid, punctual.prompt⟩
  | pass _ ms still => exact punctual.pass fits stands still (gentle ms rfl)
  | turn _ place id =>
    have kept : l.Punctual (f.turn place id) :=
      ⟨punctual.grid, (Face.alike_turn place id f).nanos.symm ▸ punctual.prompt⟩
    rw [stirred]
    split
    · exact ⟨kept.grid, kept.prompt⟩
    · exact kept
  | tick _ place id =>
    have nanos := (Face.alike_turn place id f).nanos
    rw [stirred]
    split
    · exact punctual.ticked nanos
    · exact ⟨punctual.grid, nanos.symm ▸ punctual.prompt⟩

/-- What is asked of the timer makes no tick late. -/
theorem Punctual.called (punctual : l.Punctual f) (call : Option Call) :
    (l.called call).Punctual (f.makes call) := by
  have nanos : (f.makes call).nanos = f.nanos := congrArg (· * Duration.milli) (Face.now_makes f call)
  obtain ⟨ended, same⟩ := l.exists_called call
  rw [same]
  exact ⟨punctual.grid, nanos.symm ▸ punctual.prompt⟩

/-- A gentle episode passes no alarm. -/
theorem le_of_isGentle (gentle : b.IsGentle e) (ms : Nat) (passes : b.stirring e = .pass ms) :
    ∀ a ∈ b.loop.alarms, b.loop.now + ms ≤ a.due := by
  cases eq_pass_of_stirring passes
  exact gentle

/-- **In a gentle episode no tick is late.** -/
theorem Punctual.next (punctual : l.Punctual b.face) (sound : b.face.Sound) (fits : l.Fits b.face)
    (stands : l.stands = true) (gentle : b.IsGentle e) :
    (l.next b e).Punctual (b.undergo e).face := by
  obtain ⟨f, stirs, same⟩ := undergo_cases sound.keeps e
  rw [same]
  exact (punctual.stirs fits stands stirs (le_of_isGentle gentle)).called (b.call? e)

/-- **As long as the clock stops at every alarm, a lease that stands is punctual.** -/
theorem Punctual.through (punctual : l.Punctual b.face) (sound : b.face.Sound)
    (fits : l.Fits b.face) {episodes : List Episode} (gently : b.Gently episodes)
    (stands : (l.through b episodes).stands = true) :
    (l.through b episodes).Punctual (b.through episodes).face := by
  induction episodes generalizing l b with
  | nil => exact punctual
  | cons e more ih =>
    have before : l.stands = true := stands_of_next (stands_of_through stands)
    exact ih (punctual.next sound fits before gently.1) (sound_undergo sound e)
      (fits_next sound fits e) gently.2 stands

/-- Once everybody waits, all ticks that were due were sent. -/
theorem Punctual.sent_eq (punctual : l.Punctual f) (sound : f.Sound) (fits : l.Fits f)
    (stands : l.stands = true) (still : f.loop.ready = []) :
    l.sent = (f.nanos - l.made) / l.interval := by
  have early := fits.lt_due sound stands still punctual.grid
  have since := fits.since
  refine (Nat.div_eq_of_lt_le ?_ ?_).symm
  · omega
  · omega

end Lease

/-! ## The ticks of a subscription -/

/-- Making a subscription takes no time. -/
theorem nanos_of_call? (sound : b.face.Sound) {call : Call} (asked : b.call? e = some call) :
    (b.undergo e).nanos = b.nanos := by
  obtain ⟨f, stirs, same⟩ := undergo_cases sound.keeps e
  obtain ⟨now, -, -⟩ := origin_of_call? asked stirs
  have later : (b.undergo e).loop.now = (f.makes (b.call? e)).loop.now :=
    congrArg (fun f => f.loop.now) same
  exact congrArg (· * Duration.milli) (later.trans ((Face.now_makes ..).trans now))

/-- A new lease is punctual. -/
theorem Lease.punctual_new (sound : b.face.Sound) {receiver : Receiver} {nanos : Nat}
    (asked : b.call? e = some (.subscribe receiver nanos)) (ticking : b.timer.isTicking = true) :
    (Lease.new b.face receiver nanos).Punctual (b.undergo e).face := by
  have grid : (Lease.new b.face receiver nanos).due = some (b.nanos + max nanos minInterval) :=
    if_pos ticking
  refine ⟨?_, ?_⟩
  · rw [grid]
    change _ = some (b.nanos + (0 + 1) * max nanos minInterval)
    rw [Nat.zero_add, Nat.one_mul]
  · change (b.undergo e).nanos < b.nanos + _ + _
    rw [nanos_of_call? sound asked, Nat.add_assoc]
    exact Nat.lt_add_of_pos_right (Nat.lt_of_lt_of_le (by decide) (Nat.le_add_left ..))

section Since

variable {receiver : Receiver} {nanos : Nat}

/-- A subscription has got the ticks that its lease has counted. -/
theorem sent_since (b c : Bench) (receiver : Receiver) (nanos : Nat) (after : List Episode) :
    ((Lease.new b.face receiver nanos).through c after).sent =
      ticksOf (b.timer.created + 1) c after := by
  rw [Lease.sent_through]
  exact Nat.zero_add _

variable (sound : b.face.Sound) (asked : b.call? e = some (.subscribe receiver nanos))
include sound asked

/-- **Ticks do not come faster than they were asked for.** -/
theorem ticksOf_le (after : List Episode) : ticksOf (b.timer.created + 1) (b.undergo e) after ≤
    (((b.undergo e).through after).nanos - b.nanos) / max nanos minInterval := by
  have fits := Lease.fits_through (sound_undergo sound e) (Lease.fits_new sound asked) after
  have since := fits.since
  have positive : 0 < max nanos minInterval :=
    Nat.lt_of_lt_of_le (by decide) (Nat.le_max_right ..)
  rw [Lease.made_through, Lease.interval_through, sent_since] at since
  rw [Nat.le_div_iff_mul_le positive]
  exact Nat.le_sub_of_add_le' since

/-- **No tick comes once a subscription is over.** -/
theorem ticksOf_eq_zero {first : List Episode}
    (ended : b.timer.isTicking = false ∨ .shutDown ∈ (b.undergo e).calls first ∨
      .unsubscribe (b.timer.created + 1) ∈ (b.undergo e).calls first ∨
      ((b.undergo e).through first).isAlive receiver = false) (last : List Episode) :
    ticksOf (b.timer.created + 1) ((b.undergo e).through first) last = 0 := by
  have fits := Lease.fits_new sound asked
  have silent : ((Lease.new b.face receiver nanos).through (b.undergo e) first).IsSilent
      ((b.undergo e).through first) := by
    rcases ended with never | gone
    · have pulseless : (Lease.new b.face receiver nanos).due = none :=
        if_neg (Bool.eq_false_iff.1 never)
      exact Lease.IsSilent.through (.inl pulseless) (sound_undergo sound e) fits first
    · rw [← or_assoc] at gone
      rcases gone with ended | gone
      · refine .inr (.inl ?_)
        rw [Lease.stands, (Lease.ended_through ..).2 (.inr ended.symm)]
        rfl
      · exact .inr (.inr ((Lease.receiver_through ..).symm ▸ gone))
  have none := silent.ticksOf (sound_through (sound_undergo sound e) first)
    (Lease.fits_through (sound_undergo sound e) fits first) last
  rwa [Lease.id_through] at none

/-- **No tick is missed that can be sent in time.** -/
theorem ticksOf_eq {after : List Episode} (ticking : b.timer.isTicking = true)
    (gently : (b.undergo e).Gently after) (settled : ((b.undergo e).through after).loop.ready = [])
    (running : .shutDown ∉ (b.undergo e).calls after)
    (kept : .unsubscribe (b.timer.created + 1) ∉ (b.undergo e).calls after)
    (alive : ((b.undergo e).through after).isAlive receiver = true) :
    ticksOf (b.timer.created + 1) (b.undergo e) after =
      (((b.undergo e).through after).nanos - b.nanos) / max nanos minInterval := by
  have sound' := sound_undergo sound e
  have new := Lease.fits_new sound asked
  have fits := Lease.fits_through sound' new after
  have stands : ((Lease.new b.face receiver nanos).through (b.undergo e) after).stands = true := by
    rw [Lease.stands, Bool.and_eq_true, Bool.not_eq_true', Bool.not_eq_true']
    refine ⟨Bool.eq_false_iff.2 fun ended => ?_, Bool.eq_false_iff.2 fun lapsed => ?_⟩
    · rcases (Lease.ended_through ..).1 ended with before | gone | down
      · cases before
      · exact kept gone
      · exact running down
    · obtain ⟨gone, -⟩ := Lease.isMissed_eq_true_iff.1 (fits.missed lapsed)
      rw [isAlive_face, Lease.receiver_through] at gone
      exact Bool.false_ne_true (gone.symm.trans alive)
  have punctual := (Lease.punctual_new sound asked ticking).through sound' new gently stands
  have sent := punctual.sent_eq (sound_through sound' after) fits stands settled
  rwa [sent_since, Lease.made_through, Lease.interval_through] at sent

end Since

/-- **The ticks of a subscription.** However commands are given, the run is an orderly one, and a
gentle one if the clock never jumps. In an orderly run, a subscription has never got more ticks than
there were whole intervals since it was made, and gets none once it was ended, the timer was shut
down or its subscriber is gone. If the run was gentle since and none of that has happened, it has
got one tick for each whole interval. -/
theorem ticks_of_subscription :
    (∀ commands : List Command, ∃ episodes, fresh.Brings commands episodes) ∧
    ∀ (before : List Episode) (e : Episode) (receiver : Receiver) (nanos : Nat),
      (fresh.through before).call? e = some (.subscribe receiver nanos) →
      let made := fresh.through before
      let id := made.timer.created + 1
      let start := made.undergo e
      let intervals (after : List Episode) :=
        ((start.through after).nanos - made.nanos) / max nanos minInterval
      (∀ after, ticksOf id start after ≤ intervals after) ∧
      (∀ first last, .shutDown ∈ fresh.calls (before ++ e :: first) ∨
          .unsubscribe id ∈ start.calls first ∨ (start.through first).isAlive receiver = false →
        ticksOf id (start.through first) last = 0) ∧
      ∀ after, start.Gently after → (start.through after).loop.ready = [] →
        .shutDown ∉ fresh.calls (before ++ e :: after) → .unsubscribe id ∉ start.calls after →
        (start.through after).isAlive receiver = true →
        ticksOf id start after = intervals after := by
  refine ⟨fun commands => exists_brings commands sound_fresh rfl, ?_⟩
  intro before e receiver nanos asked made id start intervals
  have sound : made.face.Sound := sound_through sound_fresh before
  -- The timer was shut down before the subscription was made, or later.
  have down (first : List Episode) : .shutDown ∈ fresh.calls (before ++ e :: first) ↔
      made.timer.isTicking = false ∨ .shutDown ∈ start.calls first := by
    have ticking := isTicking_through sound_fresh before
    rw [mem_calls_append, mem_calls_cons, asked, ← Bool.not_eq_true, ticking]
    have running : fresh.timer.isTicking = true := rfl
    simp [running, start, made]
  refine ⟨ticksOf_le sound asked, fun first last ended => ?_, ?_⟩
  · rw [down, or_assoc] at ended
    exact ticksOf_eq_zero sound asked ended last
  · intro after gently settled running kept alive
    rw [down, not_or, Bool.not_eq_false] at running
    exact ticksOf_eq sound asked running.1 gently settled running.2 kept alive

/-- Whoever asks for a tick after no time at all gets one each millisecond, and no more once the
subscription was ended. -/
theorem ticks_of_subscription_each_milli :
    let start := fresh.undergo (.command (.subscribe "a" 0 []) rfl)
    let after := [.turn 0, .pass 1, .turn 0, .turn 0, .pass 1, .turn 0, .turn 0]
    (∀ last, ticksOf 1 (start.through [.turn 0, .command (.unsubscribe 1) rfl]) last = 0) ∧
      ticksOf 1 start after = 2 := by
  obtain ⟨-, none, all⟩ :=
    ticks_of_subscription.2 [] (.command (.subscribe "a" 0 []) rfl) ⟨0, true⟩ 0 rfl
  refine ⟨fun last => none _ last (.inr (.inl (by decide +kernel))), ?_⟩
  have two := all [.turn 0, .pass 1, .turn 0, .turn 0, .pass 1, .turn 0, .turn 0]
    (by decide +kernel) (by decide +kernel) (by decide +kernel) (by decide +kernel)
    (by decide +kernel)
  exact two.trans (by decide +kernel)

end Bench
end Timer
end HomeMedia
