import HomeMedia.Proofs.EventLoop
import HomeMedia.Proofs.Timer.Leases
/-!
# Commands that wait make orderly runs

A command of a bench waits until everybody waits. This comes to an end: the effort of a bench bounds
the turns until nobody is ready, and every turn wears it down (`effort_lt_of_turn?`). A pulse that
sends a tick has an interval less to catch up with, which pays for one turn of another pulse; and
what is done inside the tick makes at most one pulse ready and uses up a reaction of a counter.

So commands make orderly runs in which the same is asked in the same order (`exists_brings`). A
sleep stops at each alarm on its way, so without jumps such a run is gentle.
-/

namespace HomeMedia
namespace Timer
namespace Bench

open EventLoop (total total_append total_le)

variable {b c : Bench}

/-- **Every episode leaves the pulses awake or waiting.** -/
theorem sound_undergo (sound : b.face.Sound) (e : Episode) : (b.undergo e).face.Sound := by
  obtain ⟨f, stirs, same⟩ := undergo_cases sound.keeps e
  rw [same]
  exact (sound.stirs stirs).makes (b.call? e)

/-- So does a run. -/
theorem sound_through (sound : b.face.Sound) (episodes : List Episode) :
    (b.through episodes).face.Sound := by
  induction episodes generalizing b with
  | nil => exact sound
  | cons e more ih => exact ih (sound_undergo sound e)

/-- A timer that keeps time, of which nothing was asked yet. -/
def fresh : Bench := { timer := .interval {} }

/-- A new timer has no pulses. -/
theorem sound_fresh : fresh.face.Sound where
  keeps := rfl
  paced := ⟨⟨List.nodup_nil, nofun⟩, nofun⟩
  ahead := nofun
  ready := nofun
  alarms := nofun
  held := nofun
  distinct := List.nodup_nil

/-! ## Turns wear the effort down -/

namespace Face

variable {f : Face}

/-- A bound on the turns of the pulses that are ready. -/
def toil (f : Face) : Nat := total (f.timer.pulseEffort 1 f.nanos) f.loop.ready

/-- Another timer, whose pulses have no more to do. -/
theorem toil_withTimer {timer : Source Receiver}
    (pulses : ∀ id, timer.pulseEffort 1 f.nanos id ≤ f.timer.pulseEffort 1 f.nanos id) :
    ({ f with timer } : Face).toil ≤ f.toil :=
  total_le pulses f.loop.ready

/-- What is asked of the timer makes one more turn at most. -/
theorem toil_make (sound : f.Sound) (call : Call) : (f.make call).toil ≤ f.toil + 1 := by
  cases call with
  | subscribe receiver nanos =>
    have timed : ({ f with timer := (f.timer.subscribe receiver nanos).2 } : Face).toil ≤ f.toil :=
      toil_withTimer (Source.pulseEffort_subscribe receiver nanos)
    have new : (f.timer.subscribe receiver nanos).2.pulseEffort 1 f.nanos (f.timer.created + 1) =
        1 := Source.pulseEffort_subscribe_new sound.paced.toNumbered receiver nanos
    unfold make
    dsimp only
    split
    · change total _ (f.loop.ready ++ [_]) ≤ _
      rw [total_append, Source.id_subscribe]
      exact Nat.add_le_add timed (Nat.le_of_eq new)
    · exact Nat.le_succ_of_le timed
  | unsubscribe id =>
    exact Nat.le_succ_of_le (toil_withTimer fun other => Source.pulseEffort_unsubscribe id other)
  | shutDown =>
    refine Nat.le_succ_of_le (toil_withTimer fun other => ?_)
    cases timer : f.timer with
    | manual t => exact Nat.le_refl _
    | interval t => exact Source.one_le_pulseEffort (Source.interval t) 1 f.nanos other

/-- **The turn of a pulse leaves fewer turns.** -/
theorem toil_turn (sound : f.Sound) {id : SubscriptionId} {rest : List SubscriptionId}
    (ready : f.loop.ready = id :: rest) : (f.turn 0 id).toil < f.toil := by
  have before : f.toil = f.timer.pulseEffort 1 f.nanos id +
      total (f.timer.pulseEffort 1 f.nanos) rest := by
    rw [toil, ready]
    rfl
  have left : (f.left 0).ready = rest := by
    unfold Face.left
    dsimp only
    rw [ready]
    rfl
  have others : total ((f.timer.beat f.nanos f.isAlive id).2.pulseEffort 1 f.nanos) rest ≤
      total (f.timer.pulseEffort 1 f.nanos) rest :=
    total_le (Source.pulseEffort_beat sound.paced f.isAlive id) rest
  have tired :
      total ((f.timer.beat f.nanos f.isAlive id).2.pulseEffort 1 f.nanos) rest < f.toil := by
    rw [before]
    have own := Source.one_le_pulseEffort f.timer 1 f.nanos id
    omega
  cases beat : f.timer.beat f.nanos f.isAlive id with
  | mk what timer =>
    rw [beat] at others tired
    cases what with
    | rest ms =>
      rw [turn_of_rest beat]
      change total (timer.pulseEffort 1 f.nanos) (f.left 0).ready < _
      exact left.symm ▸ tired
    | tick receiver =>
      have paid : (f.timer.beat f.nanos f.isAlive id).2.pulseEffort 1 f.nanos id + 1 ≤
          f.timer.pulseEffort 1 f.nanos id :=
        Source.pulseEffort_beat_tick sound.paced f.isAlive id (congrArg Prod.fst beat)
      rw [beat] at paid
      rw [turn_of_tick beat, before]
      change timer.pulseEffort 1 f.nanos id +
        total (timer.pulseEffort 1 f.nanos) (f.left 0).ready < _
      rw [left]
      exact Nat.add_lt_add_of_lt_of_le paid others
    | _ =>
      rw [turn_of_over beat]
      change total (timer.pulseEffort 1 f.nanos) (f.left 0).ready < _
      exact left.symm ▸ tired

end Face

/-- The reactions that are still to come. -/
def pending (b : Bench) : Nat := total (fun c => c.reactions.length) b.counters

/-- The effort of a bench is the toil of its pulses and the reactions to come. -/
theorem effort_eq (b : Bench) : b.effort = b.face.toil + b.pending := rfl

/-- Only the counter with the number is changed. -/
theorem total_update {serial : Nat} (f : Counter → Counter) (weight : Counter → Nat)
    {counters : List Counter} (distinct : (counters.map Counter.serial).Nodup) {c : Counter}
    (found : (counters.find? fun c => c.serial == serial) = some c) :
    total weight (counters.map fun c => if c.serial == serial then f c else c) + weight c =
      total weight counters + weight (f c) := by
  induction counters with
  | nil => cases found
  | cons first rest ih =>
    rw [List.map_cons, List.nodup_cons] at distinct
    rw [List.map_cons, total, total]
    rw [List.find?_cons] at found
    split at found
    · rename_i same
      cases found
      -- Nobody else has the number of the first.
      have others : (rest.map fun c => if c.serial == serial then f c else c) = rest := by
        refine (List.map_congr_left fun c mem => if_neg fun also => ?_).trans (List.map_id _)
        have equal := (beq_iff_eq.1 also).trans (beq_iff_eq.1 same).symm
        exact distinct.1 (equal ▸ List.mem_map_of_mem mem)
      rw [others, same, if_pos rfl]
      omega
    · rename_i differs
      have later := ih distinct.2 found
      rw [differs, if_neg Bool.false_ne_true]
      omega

/-- Changing a counter takes no reactions, if it keeps them. -/
theorem pending_update (serial : Nat) {f : Counter → Counter}
    (same : ∀ c, (f c).reactions = c.reactions) (b : Bench) :
    (b.update serial f).pending = b.pending := by
  refine (EventLoop.total_map ..).trans (congrArg (total · b.counters) (funext fun c => ?_))
  split
  · exact congrArg List.length (same c)
  · rfl

/-- A counter may be changed in two steps or in one. -/
theorem update_update (serial : Nat) {f g : Counter → Counter}
    (same : ∀ c, (f c).serial = c.serial) (b : Bench) :
    (b.update serial f).update serial g = b.update serial fun c => g (f c) := by
  refine congrArg (fun counters => ({ b with counters } : Bench))
    (List.map_map.trans (List.map_congr_left fun c _ => ?_))
  rw [Function.comp_apply]
  cases mine : c.serial == serial with
  | false =>
    rw [if_neg Bool.false_ne_true, mine]
    rfl
  | true =>
    rw [if_pos rfl, same, mine]
    rfl

/-- A reaction changes no counter. -/
theorem counters_react (serial : Nat) (reaction : Reaction) (b : Bench) :
    (b.react serial reaction).counters = b.counters := by
  cases reaction <;> rfl

/-- **A tick uses up the reaction that it causes.** -/
theorem pending_tick (distinct : (b.counters.map Counter.serial).Nodup) (receiver : Receiver) :
    (b.tick receiver).pending + (b.inside? receiver).toList.length ≤ b.pending := by
  have counted : (b.update receiver.counter fun c => { c with ticks := c.ticks + 1 }).pending =
      b.pending := pending_update _ (f := fun c => { c with ticks := c.ticks + 1 }) (fun _ => rfl) b
  unfold tick inside? reaction?
  dsimp only
  cases receiver.reacts with
  | false => exact Nat.le_of_eq counted
  | true =>
    rw [if_pos rfl, if_pos rfl]
    cases found : b.counters.find? fun c => c.serial == receiver.counter with
    | none => exact Nat.le_of_eq counted
    | some c =>
      rw [Option.map_some]
      cases reactions : c.reactions with
      | nil => exact Nat.le_of_eq counted
      | cons reaction more =>
        have used := total_update (fun c => { c with ticks := c.ticks + 1, reactions := more })
          (fun c => c.reactions.length) distinct found
        have one := Option.length_toList_le (o := reaction.call? receiver.counter)
        dsimp only
        rw [update_update receiver.counter (f := fun c => { c with ticks := c.ticks + 1 })
          (fun _ => rfl), pending, counters_react]
        rw [reactions] at used
        change total _ _ + (more.length + 1) = b.pending + more.length at used
        change total _ _ + (reaction.call? receiver.counter).toList.length ≤ b.pending
        unfold update
        dsimp only at used ⊢
        omega

/-- What is asked inside a tick was a reaction to come. -/
theorem pending_poll (distinct : (b.counters.map Counter.serial).Nodup) (place : Nat)
    (id : SubscriptionId) : (poll id (b.leaveOut place)).pending +
      ((b.target? id).bind b.inside?).toList.length ≤ b.pending := by
  unfold poll target?
  rw [show (b.leaveOut place).timer.beat (b.leaveOut place).nanos (b.leaveOut place).isAlive id =
    b.timer.beat b.nanos b.isAlive id from rfl]
  cases b.timer.beat b.nanos b.isAlive id with
  | mk beat timer =>
    cases beat with
    | tick receiver => exact pending_tick (b := { b.leaveOut place with timer }) distinct receiver
    | _ => exact Nat.le_refl _

/-- What is asked of the timer wakes one pulse at most. -/
theorem toil_makes {f : Face} (sound : f.Sound) (call : Option Call) :
    (f.makes call).toil ≤ f.toil + call.toList.length := by
  cases call with
  | none => exact Nat.le_refl _
  | some call => exact Face.toil_make sound call

/-- Who has the turn is the first pulse that is ready. -/
theorem exists_of_turn? (turn : Live.turn? b = some c) :
    ∃ id rest, b.loop.ready = id :: rest ∧ c = poll id (b.leaveOut 0) := by
  unfold Live.turn? at turn
  split at turn
  · cases turn
  · rename_i id rest ready
    cases turn
    refine ⟨id, rest, ready, ?_⟩
    unfold leaveOut
    rw [show b.loop.ready = id :: rest from ready]
    rfl

/-- **A turn takes no time and wears the effort down.** -/
theorem effort_lt_of_turn? (sound : b.face.Sound) (turn : Live.turn? b = some c) :
    c.loop.now = b.loop.now ∧ c.effort < b.effort := by
  obtain ⟨id, rest, ready, rfl⟩ := exists_of_turn? turn
  have ready : b.face.loop.ready = id :: rest := ready
  have here : b.face.loop.ready[0]? = some id := by rw [ready, List.getElem?_cons_zero]
  have face := face_poll 0 id b
  constructor
  · have now : (poll id (b.leaveOut 0)).face.loop.now = _ := congrArg (fun f => f.loop.now) face
    exact now.trans ((Face.now_makes ..).trans (Face.alike_turn 0 id b.face).now)
  · have asked := toil_makes (sound.turn here) ((b.target? id).bind b.inside?)
    have tired := Face.toil_turn sound ready
    have used := pending_poll sound.distinct 0 id
    rw [effort_eq, effort_eq, face]
    omega

/-! ## Settling and letting time pass -/

/-- Turns are had and time passes, in order, and gently if need be. -/
def Idles (gentle : Prop) (b c : Bench) : Prop :=
  ∃ episodes : List Episode, episodes.filterMap Episode.command? = [] ∧ c = b.through episodes ∧
    (gentle → b.Gently episodes)

variable {gentle : Prop}

/-- A bench idles to itself. -/
theorem Idles.refl (gentle : Prop) (b : Bench) : Idles gentle b b :=
  ⟨[], rfl, rfl, fun _ => trivial⟩

/-- One more episode that is no command keeps the idling, if it is as gentle as needed. -/
theorem Idles.tail (idles : Idles gentle b c) {e : Episode} (other : e.command? = none)
    (soft : gentle → c.IsGentle e) : Idles gentle b (c.undergo e) := by
  obtain ⟨episodes, quiet, rfl, gently⟩ := idles
  refine ⟨episodes ++ [e], ?_, by rw [through_append]; rfl, fun need => ?_⟩
  · rw [List.filterMap_append, quiet, List.filterMap_cons_none other]
    rfl
  · exact gently_append.2 ⟨gently need, soft need, trivial⟩

/-- Turns wear down the effort of a bench that idles. -/
theorem idles_wearing (gentle : Prop) (b : Bench) :
    Live.Wearing fun c => c.face.Sound ∧ Idles gentle b c where
  turn := by
    rintro s t ⟨sound, idles⟩ turn
    obtain ⟨now, less⟩ := effort_lt_of_turn? sound turn
    obtain ⟨id, rest, ready, same⟩ := exists_of_turn? turn
    have undergone : t = s.undergo (.turn 0) := by
      unfold undergo
      dsimp only
      rw [ready]
      exact same
    rw [undergone] at now less ⊢
    exact ⟨⟨sound_undergo sound _, idles.tail rfl fun _ => trivial⟩, now, less⟩

/-- Moving the clock when nobody is ready is to let time pass. -/
theorem moveTo_eq_undergo {time : Nat} (still : b.loop.ready = []) (later : b.loop.now ≤ time) :
    Live.moveTo time b = b.undergo (.pass (time - b.loop.now)) := by
  unfold undergo
  dsimp only
  rw [if_pos still, Nat.add_sub_cancel' later]

/-- **Sleeping is orderly and gentle.** -/
theorem idles_patient (b : Bench) : Live.Patient fun c => c.face.Sound ∧ Idles True b c where
  toWearing := idles_wearing True b
  loop_withLoop _ _ := rfl
  ahead kept := kept.1.ahead
  moveTo := by
    rintro s time ⟨sound, idles⟩ still later ahead
    rw [moveTo_eq_undergo still later]
    refine ⟨sound_undergo sound _, idles.tail rfl fun _ a mem => ?_⟩
    exact Nat.le_trans (Nat.le_of_eq (Nat.add_sub_cancel' later)) (ahead a mem)

/-- **Jumping is orderly.** -/
theorem idles_lasting (b : Bench) : Live.Lasting fun c => c.face.Sound ∧ Idles False b c where
  toWearing := idles_wearing False b
  loop_withLoop _ _ := rfl
  ahead kept a mem := Nat.le_of_lt (kept.1.ahead a mem)
  moveTo := by
    rintro s time ⟨sound, idles⟩ still later
    rw [moveTo_eq_undergo still later]
    exact ⟨sound_undergo sound _, idles.tail rfl False.elim⟩

/-! ## Commands that wait -/

/-- Commands that each wait until everybody waits come to these episodes. -/
structure Brings (b : Bench) (commands : List Command) (episodes : List Episode) : Prop where
  /-- It comes to the same. -/
  through : commands.foldl (fun b command => (b.run command).2) b = b.through episodes
  /-- The same is asked for in the same order. -/
  asked : episodes.filterMap Episode.command? = commands.filter fun command => !command.takesTime
  /-- Everybody waits in the end. -/
  settled : (b.through episodes).loop.ready = []
  /-- If the clock never jumps, it passes no alarm. -/
  gently : (∀ ms, .jump ms ∉ commands) → b.Gently episodes

/-- Commands after commands come to episodes after episodes. -/
theorem Brings.append {commands more : List Command} {episodes rest : List Episode}
    (first : b.Brings commands episodes) (second : (b.through episodes).Brings more rest) :
    b.Brings (commands ++ more) (episodes ++ rest) where
  through := by rw [List.foldl_append, first.through, second.through, through_append]
  asked := by rw [List.filterMap_append, List.filter_append, first.asked, second.asked]
  settled := by
    rw [through_append]
    exact second.settled
  gently calm := by
    refine gently_append.2 ⟨first.gently fun ms mem => ?_, second.gently fun ms mem => ?_⟩
    · exact calm ms (List.mem_append_left _ mem)
    · exact calm ms (List.mem_append_right _ mem)

/-- Settling after a command. -/
theorem exists_brings_of_act {command : Command} {first : List Episode}
    (acted : (b.act command).2 = b.through first) (sound : (b.through first).face.Sound)
    (asked : first.filterMap Episode.command? = [command].filter fun command => !command.takesTime)
    (gently : (∀ ms, command ≠ .jump ms) → b.Gently first) :
    ∃ episodes, b.Brings [command] episodes := by
  have start : (b.through first).face.Sound ∧ Idles True (b.through first) (b.through first) :=
    ⟨sound, .refl ..⟩
  obtain ⟨⟨-, more, quiet, same, soft⟩, still, -⟩ := (idles_wearing True _).settle start
  have settled : (b.run command).2 = b.through (first ++ more) := by
    rw [through_append, ← same, ← acted]
    rfl
  refine ⟨first ++ more, settled, ?_, ?_, fun calm => ?_⟩
  · rw [List.filterMap_append, quiet, List.append_nil, asked]
  · rw [through_append, ← same]
    exact still
  · refine gently_append.2 ⟨gently fun ms jumps => ?_, soft trivial⟩
    exact calm ms (jumps ▸ List.mem_singleton_self _)

/-- **A command that waits until everybody waits is orderly.** -/
theorem exists_brings_run (sound : b.face.Sound) (still : b.loop.ready = []) (command : Command) :
    ∃ episodes, b.Brings [command] episodes := by
  have idled {gentle : Prop}
      (acted : (b.act command).2.face.Sound ∧ Idles gentle b (b.act command).2)
      (time : command.takesTime = true) (gently : (∀ ms, command ≠ .jump ms) → gentle) :
      ∃ episodes, b.Brings [command] episodes := by
    obtain ⟨sound, first, quiet, same, soft⟩ := acted
    refine exists_brings_of_act same (same ▸ sound) ?_ fun calm => soft (gently calm)
    rw [quiet, List.filter_cons_of_neg (by rw [time]; decide)]
    rfl
  cases time : command.takesTime with
  | false =>
    have asked : [Episode.command command time].filterMap Episode.command? =
        [command].filter fun command => !command.takesTime := by
      rw [List.filter_cons_of_pos (by rw [time]; rfl)]
      rfl
    have acted : (b.act command).2 = b.through [.command command time] := rfl
    exact exists_brings_of_act acted (sound_through sound _) asked fun _ => ⟨trivial, trivial⟩
  | true =>
    cases command with
    | sleep ms => exact idled ((idles_patient b).sleep ms ⟨sound, .refl ..⟩) time fun _ => trivial
    | jump ms =>
      exact idled ((idles_lasting b).jump ms ⟨sound, .refl ..⟩ still) time fun calm => calm ms rfl
    | _ => cases time

/-- **Commands that each wait until everybody waits make an orderly run.** -/
theorem exists_brings (commands : List Command) (sound : b.face.Sound)
    (still : b.loop.ready = []) : ∃ episodes, b.Brings commands episodes := by
  induction commands generalizing b with
  | nil => exact ⟨[], rfl, rfl, still, fun _ => trivial⟩
  | cons command more ih =>
    obtain ⟨first, brings⟩ := exists_brings_run sound still command
    obtain ⟨rest, later⟩ := ih (sound_through sound first) brings.settled
    exact ⟨first ++ rest, brings.append later⟩

end Bench
end Timer
end HomeMedia
