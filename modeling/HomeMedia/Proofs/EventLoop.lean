import HomeMedia.EventLoop
/-!
# What all turns keep, waiting keeps

A property of states that survives a turn of any agent, and does not depend on the clock or on who
is ready, survives everything that is made of turns: letting the agents settle, sleeping and
jumping (`Live.Kept`). The property may speak of an earlier state, so relations between states are
covered too.

Other properties are about the clock and about who is ready. If turns of those who are ready keep
such a property, take no time and wear the effort down (`Live.Wearing`), settling comes to an end:
nobody is ready any more (`Live.Wearing.settle`). If moreover no alarm is overdue, and the clock can
move as long as nobody is ready (`Live.Lasting`), the property survives sleeping and jumping.
Sleeping asks for less: the clock never moves past an alarm (`Live.Patient`), because each stop is
later than the one before and a sleep has more stops than milliseconds.

Two states can also be followed side by side. They go on in the same way if one is made of the other
by a change that nobody notices (`Live.Unnoticed`), or if they stand in a relation that turns keep
(`Live.Alike`); then one may need more turns to settle than the other.
-/

namespace HomeMedia

namespace EventLoop

variable {α : Type} {weight other : α → Nat}

/-- The total of two lists in a row is the sum of theirs. -/
theorem total_append (xs ys : List α) :
    total weight (xs ++ ys) = total weight xs + total weight ys := by
  induction xs with
  | nil => simp [total]
  | cons x xs ih => simp [total, ih, Nat.add_assoc]

/-- The total of what a list is mapped to, weighed there, is that of the list, weighed through the
map. -/
theorem total_map {β : Type} (f : β → α) (xs : List β) :
    total weight (xs.map f) = total (fun b => weight (f b)) xs := by
  induction xs with
  | nil => rfl
  | cons x xs ih => exact congrArg (weight (f x) + ·) ih

/-- Lighter elements make a lighter list. -/
theorem total_le (lighter : ∀ a, other a ≤ weight a) (xs : List α) :
    total other xs ≤ total weight xs := by
  induction xs with
  | nil => exact Nat.le_refl 0
  | cons x xs ih => exact Nat.add_le_add (lighter x) ih

variable {Agent : Type} {l : EventLoop Agent} {limit due : Nat}

/-- The earliest alarm is one of the alarms that are due. -/
theorem exists_alarm_of_nextDue? (next : l.nextDue? limit = some due) :
    due ≤ limit ∧ ∃ a ∈ l.alarms, a.due = due := by
  have mem := (List.min?_eq_some_iff.1 next).1
  obtain ⟨a, ha, rfl⟩ := List.mem_map.1 mem
  exact ⟨of_decide_eq_true (List.mem_filter.1 ha).2, a, (List.mem_filter.1 ha).1, rfl⟩

/-- No alarm is due before the next one. -/
theorem le_of_nextDue? (next : l.nextDue? limit = some due) {a : Alarm Agent} (ha : a ∈ l.alarms) :
    due ≤ a.due := by
  obtain ⟨mem, least⟩ := List.min?_eq_some_iff.1 next
  by_cases within : a.due ≤ limit
  · exact least _ (List.mem_map_of_mem (List.mem_filter.2 ⟨ha, decide_eq_true within⟩))
  · have le := (exists_alarm_of_nextDue? next).1
    omega

/-- If none is next up to a limit, all alarms are due behind it. -/
theorem lt_of_nextDue?_eq_none (none : l.nextDue? limit = none) {a : Alarm Agent}
    (ha : a ∈ l.alarms) : limit < a.due := by
  refine Nat.lt_of_not_le fun within => ?_
  have empty := List.map_eq_nil_iff.1 (List.min?_eq_none_iff.1 none)
  exact List.not_mem_nil (empty ▸ List.mem_filter.2 ⟨ha, decide_eq_true within⟩)

/-! Moving the clock lets the alarms go off that are due, and no others. -/

/-- When the clock moves, those become ready whose alarms are due by then, and nobody stops being
ready. -/
theorem mem_ready_moveTo {time : Nat} {agent : Agent} :
    agent ∈ (l.moveTo time).ready ↔
      agent ∈ l.ready ∨ ∃ due ≤ time, (⟨due, agent⟩ : Alarm Agent) ∈ l.alarms := by
  unfold moveTo
  dsimp only
  rw [List.mem_append, List.mem_map]
  refine or_congr Iff.rfl ⟨?_, ?_⟩
  · rintro ⟨a, mem, rfl⟩
    obtain ⟨mem, due⟩ := List.mem_filter.1 (List.mem_mergeSort.1 mem)
    exact ⟨a.due, of_decide_eq_true due, mem⟩
  · rintro ⟨due, within, mem⟩
    exact ⟨_, List.mem_mergeSort.2 (List.mem_filter.2 ⟨mem, decide_eq_true within⟩), rfl⟩

/-- The alarms that are left are those due later. -/
theorem mem_alarms_moveTo {time : Nat} {a : Alarm Agent} :
    a ∈ (l.moveTo time).alarms ↔ a ∈ l.alarms ∧ time < a.due := by
  refine List.mem_filter.trans (and_congr_right fun _ => ?_)
  rw [Bool.not_eq_true', decide_eq_false_iff_not, Nat.not_le]

end EventLoop

/-- A property that turns and the clock keep. -/
structure Live.Kept {State Agent : Type} [Live State Agent] (P : State → Prop) : Prop where
  /-- Another clock and other ready agents make no difference. -/
  withLoop : ∀ loop s, P s → P (Live.withLoop loop s)
  /-- A turn makes no difference. -/
  poll : ∀ agent s, P s → P (Live.poll agent s)

namespace Live.Kept

variable {State Agent : Type} [Live State Agent] {P : State → Prop}

/-- What is kept by polls is kept by the turn of whoever is first. -/
theorem turn (kept : Live.Kept P) {s t : State} (hs : P s) (ht : turn? s = some t) : P t := by
  unfold turn? at ht
  split at ht
  · cases ht
  · cases ht
    exact kept.poll _ _ (kept.withLoop _ _ hs)

/-- It is kept by any number of turns. -/
theorem settleWithin (kept : Live.Kept P) (turns : Nat) {s : State} (hs : P s) :
    P (Live.settleWithin turns s) := by
  induction turns generalizing s with
  | zero => exact hs
  | succ turns ih =>
    rw [Live.settleWithin]
    split
    · exact hs
    · exact ih (kept.turn hs ‹_›)

/-- It is kept by settling. -/
theorem settle (kept : Live.Kept P) {s : State} (hs : P s) : P (Live.settle s) :=
  kept.settleWithin _ hs

/-- It is kept by moving the clock. -/
theorem moveTo (kept : Live.Kept P) (time : Nat) {s : State} (hs : P s) : P (Live.moveTo time s) :=
  kept.withLoop _ _ hs

/-- It is kept by a sleep with any number of stops. -/
theorem sleepWithin (kept : Live.Kept P) (stops limit : Nat) {s : State} (hs : P s) :
    P (Live.sleepWithin stops limit s) := by
  induction stops generalizing s with
  | zero => exact kept.moveTo limit hs
  | succ stops ih =>
    rw [Live.sleepWithin]
    split
    · exact kept.moveTo limit hs
    · exact ih (kept.settle (kept.moveTo _ hs))

/-- It is kept by a sleep. -/
theorem sleep (kept : Live.Kept P) (ms : Nat) {s : State} (hs : P s) : P (Live.sleep ms s) :=
  kept.sleepWithin _ _ (kept.settle hs)

/-- It is kept by a jump. -/
theorem jump (kept : Live.Kept P) (ms : Nat) {s : State} (hs : P s) : P (Live.jump ms s) :=
  kept.settle (kept.moveTo _ hs)

end Live.Kept

/-- A property that turns of ready agents keep while they wear the effort down. -/
structure Live.Wearing {State Agent : Type} [Live State Agent] (P : State → Prop) : Prop where
  /-- A turn keeps the property, takes no time and wears the effort down. -/
  turn : ∀ {s t : State}, P s → turn? s = some t →
    P t ∧ (loop t).now = (loop s).now ∧ effort t < effort s

/-- Such a property that the clock keeps too, while nobody is ready. -/
structure Live.Lasting {State Agent : Type} [Live State Agent] (P : State → Prop) : Prop
    extends Live.Wearing P where
  /-- The clock and the agents can be exchanged. -/
  loop_withLoop : ∀ (l : EventLoop Agent) (s : State), loop (withLoop l s) = l
  /-- No alarm is overdue. -/
  ahead : ∀ {s : State}, P s → ∀ a ∈ (loop s).alarms, (loop s).now ≤ a.due
  /-- The clock moves on while nobody is ready. -/
  moveTo : ∀ {s : State} {time : Nat}, P s → (loop s).ready = [] → (loop s).now ≤ time →
    P (moveTo time s)

/-- Such a property that the clock keeps too, while nobody is ready and no alarm is passed. -/
structure Live.Patient {State Agent : Type} [Live State Agent] (P : State → Prop) : Prop
    extends Live.Wearing P where
  /-- The clock and the agents can be exchanged. -/
  loop_withLoop : ∀ (l : EventLoop Agent) (s : State), loop (withLoop l s) = l
  /-- Alarms are for later. -/
  ahead : ∀ {s : State}, P s → ∀ a ∈ (loop s).alarms, (loop s).now < a.due
  /-- The clock moves on, at most to the next alarm. -/
  moveTo : ∀ {s : State} {time : Nat}, P s → (loop s).ready = [] → (loop s).now ≤ time →
    (∀ a ∈ (loop s).alarms, time ≤ a.due) → P (moveTo time s)

namespace Live

variable {State Agent : Type} [Live State Agent] {P : State → Prop} {s : State}

/-- With turns enough, nobody is ready in the end. -/
theorem Wearing.settleWithin (wearing : Live.Wearing P) {turns : Nat} (hs : P s)
    (enough : effort s ≤ turns) :
    P (Live.settleWithin turns s) ∧ (loop (Live.settleWithin turns s)).ready = [] ∧
      (loop (Live.settleWithin turns s)).now = (loop s).now := by
  induction turns generalizing s with
  | zero =>
    refine ⟨hs, ?_, rfl⟩
    cases ready : (loop s).ready with
    | nil => exact ready
    | cons agent rest =>
      -- A turn would leave less than no effort.
      have next : turn? s = some (poll agent (withLoop { loop s with ready := rest } s)) := by
        rw [turn?, ready]
      exact absurd (wearing.turn hs next).2.2 (Nat.not_lt.2 (Nat.le_trans enough (Nat.zero_le _)))
  | succ turns ih =>
    rw [Live.settleWithin]
    cases next : turn? s with
    | none =>
      refine ⟨hs, ?_, rfl⟩
      unfold turn? at next
      split at next
      · assumption
      · cases next
    | some t =>
      obtain ⟨ht, now, less⟩ := wearing.turn hs next
      obtain ⟨kept, still, same⟩ := ih ht (Nat.le_of_lt_succ (Nat.lt_of_lt_of_le less enough))
      exact ⟨kept, still, same.trans now⟩

/-- **Settling comes to an end.** -/
theorem Wearing.settle (wearing : Live.Wearing P) (hs : P s) :
    P (Live.settle s) ∧ (loop (Live.settle s)).ready = [] ∧
      (loop (Live.settle s)).now = (loop s).now :=
  wearing.settleWithin hs (Nat.le_refl _)

namespace Lasting

/-- The clock shows the time that it is moved to. -/
theorem now_moveTo (lasting : Live.Lasting P) (time : Nat) (s : State) :
    (loop (Live.moveTo time s)).now = time :=
  congrArg EventLoop.now (lasting.loop_withLoop _ s)

/-- What lasts while time passes with nobody ready lasts through the stops of a sleep. -/
theorem sleepWithin (lasting : Live.Lasting P) (stops : Nat) {limit : Nat} (hs : P s)
    (still : (loop s).ready = []) (later : (loop s).now ≤ limit) :
    P (Live.sleepWithin stops limit s) := by
  induction stops generalizing s with
  | zero => exact lasting.moveTo hs still later
  | succ stops ih =>
    rw [Live.sleepWithin]
    split
    · exact lasting.moveTo hs still later
    · rename_i due next
      obtain ⟨within, a, ha, rfl⟩ := EventLoop.exists_alarm_of_nextDue? next
      obtain ⟨kept, still, now⟩ := lasting.settle (lasting.moveTo hs still (lasting.ahead hs a ha))
      exact ih kept still (Nat.le_trans (Nat.le_of_eq (now.trans (lasting.now_moveTo _ s))) within)

/-- It lasts through a sleep, which begins by settling. -/
theorem sleep (lasting : Live.Lasting P) (ms : Nat) (hs : P s) : P (Live.sleep ms s) := by
  obtain ⟨kept, still, now⟩ := lasting.settle hs
  exact lasting.sleepWithin _ kept still (Nat.le_trans (Nat.le_of_eq now) (Nat.le_add_right ..))

/-- Nobody may be ready when the clock jumps. -/
theorem jump (lasting : Live.Lasting P) (ms : Nat) (hs : P s) (still : (loop s).ready = []) :
    P (Live.jump ms s) :=
  (lasting.settle (lasting.moveTo hs still (Nat.le_add_right ..))).1

end Lasting

namespace Patient

/-- A sleep ends before it has used up its stops. -/
theorem sleepWithin (patient : Live.Patient P) (stops : Nat) {limit : Nat} (hs : P s)
    (still : (loop s).ready = []) (later : (loop s).now ≤ limit)
    (enough : limit < (loop s).now + stops) : P (Live.sleepWithin stops limit s) := by
  induction stops generalizing s with
  | zero => exact absurd enough (Nat.not_lt.2 later)
  | succ stops ih =>
    rw [Live.sleepWithin]
    split
    · rename_i none
      exact patient.moveTo hs still later fun a ha =>
        Nat.le_of_lt (EventLoop.lt_of_nextDue?_eq_none none ha)
    · rename_i due next
      obtain ⟨within, a, ha, rfl⟩ := EventLoop.exists_alarm_of_nextDue? next
      have ahead : (loop s).now < a.due := patient.ahead hs a ha
      have moved := patient.moveTo hs still (Nat.le_of_lt ahead) fun _ =>
        EventLoop.le_of_nextDue? next
      obtain ⟨kept, still, now⟩ := patient.settle moved
      have now : (loop (Live.settle (Live.moveTo a.due s))).now = a.due :=
        now.trans (congrArg EventLoop.now (patient.loop_withLoop _ s))
      refine ih kept still (Nat.le_trans (Nat.le_of_eq now) within) ?_
      omega

/-- What lasts only if no alarm is passed lasts through a sleep, which stops at each of them. -/
theorem sleep (patient : Live.Patient P) (ms : Nat) (hs : P s) : P (Live.sleep ms s) := by
  obtain ⟨kept, still, now⟩ := patient.settle hs
  refine patient.sleepWithin _ kept still ?_ ?_
  · exact Nat.le_trans (Nat.le_of_eq now) (Nat.le_add_right ..)
  · rw [now]
    exact Nat.lt_succ_self _

end Patient
end Live

/-- A change of states that turns and the clock do not notice. -/
structure Live.Unnoticed {State Agent : Type} [Live State Agent] (change : State → State) :
    Prop where
  /-- The clock and the agents are the same. -/
  loop : ∀ s, Live.loop (change s) = Live.loop s
  /-- The effort is the same. -/
  effort : ∀ s, Live.effort (change s) = Live.effort s
  /-- The clock and the agents can be exchanged before or after it. -/
  withLoop : ∀ l s, Live.withLoop l (change s) = change (Live.withLoop l s)
  /-- An agent can have its turn before or after it. -/
  poll : ∀ agent s, Live.poll agent (change s) = change (Live.poll agent s)

namespace Live.Unnoticed

variable {State Agent : Type} [Live State Agent] {change : State → State}

/-- After a change that nobody notices, the same one has the first turn and does the same. -/
theorem turn? (unnoticed : Live.Unnoticed change) (s : State) :
    Live.turn? (change s) = (Live.turn? s).map change := by
  unfold Live.turn?
  rw [unnoticed.loop]
  split
  · rfl
  · rw [unnoticed.withLoop, unnoticed.poll]
    rfl

/-- Such a change may as well be made after any number of turns. -/
theorem settleWithin (unnoticed : Live.Unnoticed change) (turns : Nat) (s : State) :
    Live.settleWithin turns (change s) = change (Live.settleWithin turns s) := by
  induction turns generalizing s with
  | zero => rfl
  | succ turns ih =>
    rw [Live.settleWithin, Live.settleWithin, unnoticed.turn?]
    cases Live.turn? s with
    | none => rfl
    | some t => exact ih t

/-- It may as well be made after settling. -/
theorem settle (unnoticed : Live.Unnoticed change) (s : State) :
    Live.settle (change s) = change (Live.settle s) := by
  unfold Live.settle
  rw [unnoticed.effort, unnoticed.settleWithin]

/-- It may as well be made after the clock has moved. -/
theorem moveTo (unnoticed : Live.Unnoticed change) (time : Nat) (s : State) :
    Live.moveTo time (change s) = change (Live.moveTo time s) := by
  unfold Live.moveTo
  rw [unnoticed.loop, unnoticed.withLoop]

/-- It may as well be made after the stops of a sleep. -/
theorem sleepWithin (unnoticed : Live.Unnoticed change) (stops limit : Nat) (s : State) :
    Live.sleepWithin stops limit (change s) = change (Live.sleepWithin stops limit s) := by
  induction stops generalizing s with
  | zero => exact unnoticed.moveTo limit s
  | succ stops ih =>
    rw [Live.sleepWithin, Live.sleepWithin, unnoticed.loop]
    split
    · exact unnoticed.moveTo limit s
    · rw [unnoticed.moveTo, unnoticed.settle, ih]

/-- It may as well be made after a sleep. -/
theorem sleep (unnoticed : Live.Unnoticed change) (ms : Nat) (s : State) :
    Live.sleep ms (change s) = change (Live.sleep ms s) := by
  unfold Live.sleep
  rw [unnoticed.settle, unnoticed.sleepWithin, unnoticed.loop]

/-- It may as well be made after a jump. -/
theorem jump (unnoticed : Live.Unnoticed change) (ms : Nat) (s : State) :
    Live.jump ms (change s) = change (Live.jump ms s) := by
  unfold Live.jump
  rw [unnoticed.loop, unnoticed.moveTo, unnoticed.settle]

end Live.Unnoticed

/-! ## Two states that go on alike -/

namespace Live

variable {State Agent : Type} [Live State Agent] {P : State → Prop} {s t : State}

/-- With nobody ready, no turn is had. -/
theorem settleWithin_of_still (still : (loop s).ready = []) (turns : Nat) :
    settleWithin turns s = s := by
  cases turns with
  | zero => rfl
  | succ turns => rw [settleWithin, turn?, still]

/-- Turns can be had in two portions. -/
theorem settleWithin_add (turns more : Nat) (s : State) :
    settleWithin (turns + more) s = settleWithin more (settleWithin turns s) := by
  induction turns generalizing s with
  | zero => rw [Nat.zero_add, settleWithin]
  | succ turns ih =>
    rw [Nat.succ_add, settleWithin, settleWithin]
    cases next : turn? s with
    | some u => exact ih u
    | none =>
      refine (settleWithin_of_still ?_ more).symm
      unfold turn? at next
      split at next
      · assumption
      · cases next

/-- Turns that are left over do not matter. -/
theorem Wearing.settleWithin_eq (wearing : Live.Wearing P) (hs : P s) {turns : Nat}
    (enough : effort s ≤ turns) : Live.settleWithin turns s = Live.settle s := by
  obtain ⟨more, rfl⟩ := Nat.exists_eq_add_of_le enough
  rw [settleWithin_add]
  exact settleWithin_of_still (wearing.settle hs).2.1 more

end Live

/-- A relation of states that turns and the clock keep, though the efforts may be different: the
same agents are ready, wait for the same times, and do related things. -/
structure Live.Alike {State Agent : Type} [Live State Agent] (R : State → State → Prop) : Prop where
  /-- The clock and the agents are the same. -/
  loop : ∀ {s t}, R s t → Live.loop s = Live.loop t
  /-- The clock and the agents can be exchanged in both. -/
  withLoop : ∀ l {s t}, R s t → R (Live.withLoop l s) (Live.withLoop l t)
  /-- An agent can have its turn in both. -/
  poll : ∀ agent {s t}, R s t → R (Live.poll agent s) (Live.poll agent t)

namespace Live.Alike

variable {State Agent : Type} [Live State Agent] {R : State → State → Prop} {P : State → Prop}
  {s t : State}

/-- States that are alike have turns alike. -/
theorem settleWithin (alike : Live.Alike R) (turns : Nat) (related : R s t) :
    R (Live.settleWithin turns s) (Live.settleWithin turns t) := by
  induction turns generalizing s t with
  | zero => exact related
  | succ turns ih =>
    rw [Live.settleWithin, Live.settleWithin, turn?, turn?, ← alike.loop related]
    cases (Live.loop s).ready with
    | nil => exact related
    | cons agent rest => exact ih (alike.poll agent (alike.withLoop _ related))

/-- Both come to an end, whichever needs more turns. -/
theorem settle (alike : Live.Alike R) (wearing : Live.Wearing P) (hs : P s) (ht : P t)
    (related : R s t) : R (Live.settle s) (Live.settle t) := by
  rw [← wearing.settleWithin_eq hs (Nat.le_max_left (effort s) (effort t)),
    ← wearing.settleWithin_eq ht (Nat.le_max_right (effort s) (effort t))]
  exact alike.settleWithin _ related

/-- They stay alike when the clock moves. -/
theorem moveTo (alike : Live.Alike R) (time : Nat) (related : R s t) :
    R (Live.moveTo time s) (Live.moveTo time t) := by
  unfold Live.moveTo
  rw [← alike.loop related]
  exact alike.withLoop _ related

/-- They stay alike through the stops of a sleep, if both settle before each of them. -/
theorem sleepWithin (alike : Live.Alike R) (wearing : Live.Wearing P) (kept : Live.Kept P)
    (stops limit : Nat) (hs : P s) (ht : P t) (related : R s t) :
    R (Live.sleepWithin stops limit s) (Live.sleepWithin stops limit t) := by
  induction stops generalizing s t with
  | zero => exact alike.moveTo limit related
  | succ stops ih =>
    rw [Live.sleepWithin, Live.sleepWithin, ← alike.loop related]
    cases (Live.loop s).nextDue? limit with
    | none => exact alike.moveTo limit related
    | some due =>
      have hs := kept.moveTo due hs
      have ht := kept.moveTo due ht
      exact ih (kept.settle hs) (kept.settle ht)
        (alike.settle wearing hs ht (alike.moveTo due related))

/-- They stay alike through a sleep. -/
theorem sleep (alike : Live.Alike R) (wearing : Live.Wearing P) (kept : Live.Kept P) (ms : Nat)
    (hs : P s) (ht : P t) (related : R s t) : R (Live.sleep ms s) (Live.sleep ms t) := by
  unfold Live.sleep
  rw [← alike.loop related]
  exact alike.sleepWithin wearing kept _ _ (kept.settle hs) (kept.settle ht)
    (alike.settle wearing hs ht related)

/-- They stay alike through a jump. -/
theorem jump (alike : Live.Alike R) (wearing : Live.Wearing P) (kept : Live.Kept P) (ms : Nat)
    (hs : P s) (ht : P t) (related : R s t) : R (Live.jump ms s) (Live.jump ms t) := by
  unfold Live.jump
  rw [← alike.loop related]
  exact alike.settle wearing (kept.moveTo _ hs) (kept.moveTo _ ht) (alike.moveTo _ related)

end Live.Alike

end HomeMedia
