import HomeMedia.Timer.Bench
import HomeMedia.Proofs.Timer.Pulses
/-!
# Orderly runs of a bench

An orderly run of a bench is a list of *episodes*: something is asked that takes no time, the pulse
at a place among the ready has its turn, or some milliseconds pass while nobody is ready. Who is
next is left open, and things may be asked between any two turns. A run is *gentle* (`Gently`) if
the clock never passes an alarm, as it does not in sleeps.

What a timer does depends on little of the bench: on the timer itself, the clock with the pulses,
and which counters are held. That is its *face*. Whatever an episode does to the face, it is one of
a few things that happen (`Face.Stirs`), followed by at most one *call* of the timer, which comes
from outside or from inside a tick (`undergo_cases`). Names, reactions and results matter only for
which call it is.
-/

namespace HomeMedia
namespace Timer

/-- Who gets a tick when a pulse has its turn. -/
def Interval.Beat.target? {Subscriber : Type} : Beat Subscriber → Option Subscriber
  | .tick subscriber => some subscriber
  | _ => none

namespace Bench

/-! ## Episodes -/

/-- Whether a command lets time pass. -/
def Command.takesTime : Command → Bool
  | .sleep _ => true
  | .jump _ => true
  | _ => false

/-- Something that happens in order. -/
inductive Episode where
  /-- Something is asked from outside that takes no time. -/
  | command (command : Command) (atOnce : command.takesTime = false)
  /-- The pulse at a place among the ready has a turn. -/
  | turn (place : Nat)
  /-- Some milliseconds pass, if nobody is ready. -/
  | pass (ms : Nat)

/-- What is asked for in an episode from outside. -/
def Episode.command? : Episode → Option Command
  | command asked _ => some asked
  | _ => none

/-- The bench without a pulse that was ready. -/
def leaveOut (place : Nat) (b : Bench) : Bench :=
  { b with loop := { b.loop with ready := b.loop.ready.eraseIdx place } }

/-- The bench after an episode. -/
def undergo (b : Bench) : Episode → Bench
  | .command command _ => (b.act command).2
  | .turn place =>
    match b.loop.ready[place]? with
    | none => b
    | some id => poll id (b.leaveOut place)
  | .pass ms => if b.loop.ready = [] then Live.moveTo (b.loop.now + ms) b else b

/-- The bench after an orderly run. -/
def through (b : Bench) (episodes : List Episode) : Bench := episodes.foldl undergo b

/-- One run and then another is a run. -/
theorem through_append (b : Bench) (episodes more : List Episode) :
    b.through (episodes ++ more) = (b.through episodes).through more := List.foldl_append

/-- Whether an episode takes the clock past no alarm, as no stop of a sleep does. -/
def IsGentle (b : Bench) : Episode → Prop
  | .pass ms => ∀ a ∈ b.loop.alarms, b.loop.now + ms ≤ a.due
  | _ => True

/-- Whether all episodes of a run are gentle: time passes only by sleeps. -/
def Gently : Bench → List Episode → Prop
  | _, [] => True
  | b, e :: more => b.IsGentle e ∧ (b.undergo e).Gently more

instance (b : Bench) : (e : Episode) → Decidable (b.IsGentle e)
  | .command _ _ => isTrue trivial
  | .turn _ => isTrue trivial
  | .pass ms => inferInstanceAs (Decidable (∀ a ∈ b.loop.alarms, b.loop.now + ms ≤ a.due))

instance decidableGently : (b : Bench) → (episodes : List Episode) → Decidable (b.Gently episodes)
  | _, [] => isTrue trivial
  | b, e :: more =>
    have := decidableGently (b.undergo e) more
    inferInstanceAs (Decidable (b.IsGentle e ∧ (b.undergo e).Gently more))

/-- A run is gentle if its first part is, and its second part is from there on. -/
theorem gently_append {b : Bench} {episodes more : List Episode} :
    b.Gently (episodes ++ more) ↔ b.Gently episodes ∧ (b.through episodes).Gently more := by
  induction episodes generalizing b with
  | nil => exact (iff_of_eq (true_and _)).symm
  | cons e rest ih =>
    rw [List.cons_append, Gently, Gently, ih, and_assoc]
    rfl

/-! ## Calls and ticks -/

/-- Something that is asked of a timer. -/
inductive Call where
  /-- To make a subscription. -/
  | subscribe (receiver : Receiver) (nanos : Nat)
  /-- To end one. -/
  | unsubscribe (id : SubscriptionId)
  /-- To end all. -/
  | shutDown
  deriving DecidableEq, Repr

/-- What a reaction asks of the timer. -/
def Reaction.call? (serial : Nat) : Reaction → Option Call
  | .nothing => none
  | .unsubscribe id => some (.unsubscribe id)
  | .subscribe nanos => some (.subscribe ⟨serial, false⟩ nanos)

/-- What a receiver does inside its next tick. -/
def reaction? (b : Bench) (receiver : Receiver) : Option Reaction :=
  if receiver.reacts then
    ((b.counters.find? fun c => c.serial == receiver.counter).map Counter.reactions).bind List.head?
  else none

/-- Who is about to get a tick from a pulse. -/
def target? (b : Bench) (id : SubscriptionId) : Option Receiver :=
  (b.timer.beat b.nanos b.isAlive id).1.target?

/-- What is asked of the timer inside a tick. -/
def inside? (b : Bench) (receiver : Receiver) : Option Call :=
  (b.reaction? receiver).bind (Reaction.call? receiver.counter)

/-- What is asked of the timer in an episode, from outside or inside a tick. -/
def call? (b : Bench) : Episode → Option Call
  | .command (.subscribe name nanos reactions) _ =>
    some (.subscribe ⟨(b.counter name reactions).1, true⟩ nanos)
  | .command (.unsubscribe id) _ => some (.unsubscribe id)
  | .command .shutDown _ => some .shutDown
  | .turn place => (b.loop.ready[place]?.bind b.target?).bind b.inside?
  | _ => none

/-- What is asked of the timer in a run. -/
def calls : Bench → List Episode → List Call
  | _, [] => []
  | b, e :: more => (b.call? e).toList ++ calls (b.undergo e) more

/-- The subscription whose tick is sent in an episode. -/
def sends? (b : Bench) : Episode → Option SubscriptionId
  | .turn place => b.loop.ready[place]?.filter fun id => (b.target? id).isSome
  | _ => none

/-- How many ticks of a subscription are sent in a run. -/
def ticksOf (id : SubscriptionId) : Bench → List Episode → Nat
  | _, [] => 0
  | b, e :: more => (if b.sends? e = some id then 1 else 0) + ticksOf id (b.undergo e) more

/-! ## What the timer knows of a bench -/

/-- The timer of a bench, its clock, and who is there. -/
structure Face where
  /-- The timer. -/
  timer : Source Receiver
  /-- The clock and the pulses. -/
  loop : EventLoop SubscriptionId
  /-- The serial numbers of the counters that are held. -/
  held : List Nat
  /-- How many counters there ever were. -/
  serials : Nat

/-- The face of a bench. -/
def face (b : Bench) : Face := ⟨b.timer, b.loop, b.counters.map Counter.serial, b.serials⟩

namespace Face

/-- Whether a subscriber is still there. -/
def isAlive (f : Face) (r : Receiver) : Bool := f.held.contains r.counter

/-- The time in nanoseconds. -/
def nanos (f : Face) : Nat := f.loop.now * Duration.milli

/-- The face after something was asked of the timer. -/
def make (f : Face) : Call → Face
  | .subscribe receiver nanos =>
    let (made, timer) := f.timer.subscribe receiver nanos
    { f with timer, loop := if made.hasPulse then f.loop.wake made.id else f.loop }
  | .unsubscribe id => { f with timer := (f.timer.unsubscribe id).2 }
  | .shutDown => { f with timer := f.timer.shutDown }

/-- The face after something was asked of the timer, if anything was. -/
def makes (f : Face) : Option Call → Face
  | none => f
  | some call => f.make call

/-- The face after the turn of the pulse at a place among the ready, up to what is done inside its
tick. -/
def turn (place : Nat) (id : SubscriptionId) (f : Face) : Face :=
  let (beat, timer) := f.timer.beat f.nanos f.isAlive id
  let loop := { f.loop with ready := f.loop.ready.eraseIdx place }
  match beat with
  | .over => { f with timer, loop }
  | .rest ms => { f with timer, loop := loop.wakeAt ms id }
  | .tick _ => { f with timer, loop := loop.goOn id }

/-- What else can happen in an episode. -/
inductive Stirring where
  /-- Counters come and go. -/
  | aside
  /-- Some milliseconds pass. -/
  | pass (ms : Nat)
  /-- A pulse has a turn and sends no tick. -/
  | turn (id : SubscriptionId)
  /-- A pulse has a turn and sends a tick. -/
  | tick (id : SubscriptionId)

/-- What a face can become before something is asked of the timer. -/
inductive Stirs : Stirring → Face → Face → Prop where
  | same (f : Face) : Stirs .aside f f
  | meet (f : Face) :
    Stirs .aside f { f with held := f.held ++ [f.serials], serials := f.serials + 1 }
  | drop (f : Face) (held : List Nat) (fewer : held.Sublist f.held) : Stirs .aside f { f with held }
  | pass (f : Face) (ms : Nat) (still : f.loop.ready = []) :
    Stirs (.pass ms) f { f with loop := f.loop.moveTo (f.loop.now + ms) }
  | turn (f : Face) (place : Nat) (id : SubscriptionId) (ready : f.loop.ready[place]? = some id)
    (silent : (f.timer.beat f.nanos f.isAlive id).1.target? = none) :
    Stirs (.turn id) f (f.turn place id)
  | tick (f : Face) (place : Nat) (id : SubscriptionId) (ready : f.loop.ready[place]? = some id)
    (receiver : Receiver)
    (ticks : (f.timer.beat f.nanos f.isAlive id).1.target? = some receiver) :
    Stirs (.tick id) f (f.turn place id)

end Face

/-- Who is there can be told from the face. -/
theorem isAlive_face (b : Bench) : b.face.isAlive = b.isAlive := by
  funext r
  unfold Face.isAlive isAlive face
  rw [List.contains_eq_any_beq, List.any_map]
  refine congrArg (List.any b.counters) (funext fun c => ?_)
  rw [Function.comp_apply, Bool.beq_comm]

/-- Changing a counter does not change the face, if it keeps its serial. -/
theorem face_update (serial : Nat) {f : Counter → Counter} (same : ∀ c, (f c).serial = c.serial)
    (b : Bench) : (b.update serial f).face = b.face := by
  unfold face update
  dsimp only
  rw [List.map_map]
  refine congrArg (Face.mk b.timer b.loop · b.serials) (List.map_congr_left fun c _ => ?_)
  rw [Function.comp_apply]
  split
  · exact same c
  · rfl

/-- A reaction changes the face as far as it asks the timer for something. -/
theorem face_react (serial : Nat) (reaction : Reaction) (b : Bench) :
    (b.react serial reaction).face = b.face.makes (reaction.call? serial) := by
  cases reaction <;> rfl

/-- So does a tick. -/
theorem face_tick (receiver : Receiver) (b : Bench) :
    (b.tick receiver).face = b.face.makes (b.inside? receiver) := by
  have counted : (b.update receiver.counter fun c => { c with ticks := c.ticks + 1 }).face =
      b.face := face_update _ (f := fun c => { c with ticks := c.ticks + 1 }) (fun _ => rfl) b
  unfold tick inside? reaction?
  dsimp only
  cases receiver.reacts with
  | false => exact counted
  | true =>
    rw [if_pos rfl, if_pos rfl]
    cases (b.counters.find? fun c => c.serial == receiver.counter).map Counter.reactions with
    | none => exact counted
    | some reactions =>
      cases reactions with
      | nil => exact counted
      | cons reaction more =>
        refine (face_react ..).trans ?_
        rw [face_update receiver.counter (f := fun c => { c with reactions := more })
          (fun _ => rfl), counted]
        rfl

/-- A pulse can become ready before or after something is asked of the timer. -/
theorem Face.makes_goOn (id : SubscriptionId) (f : Face) (call : Option Call) :
    ({ f with loop := f.loop.goOn id } : Face).makes call =
      { f.makes call with loop := (f.makes call).loop.goOn id } := by
  cases call with
  | none => rfl
  | some call =>
    cases call with
    | subscribe receiver nanos =>
      unfold makes make
      dsimp only
      split <;> rfl
    | unsubscribe id => rfl
    | shutDown => rfl

/-- **The turn of a pulse:** what it does itself, and then what is done inside its tick. -/
theorem face_poll (place : Nat) (id : SubscriptionId) (b : Bench) :
    (poll id (b.leaveOut place)).face =
      (b.face.turn place id).makes ((b.target? id).bind b.inside?) := by
  unfold poll Face.turn target?
  rw [isAlive_face, show (b.leaveOut place).timer.beat (b.leaveOut place).nanos
    (b.leaveOut place).isAlive id = b.timer.beat b.nanos b.isAlive id from rfl,
    show b.face.timer.beat b.face.nanos b.isAlive id = b.timer.beat b.nanos b.isAlive id from rfl]
  cases b.timer.beat b.nanos b.isAlive id with
  | mk beat timer =>
    cases beat with
    | tick receiver =>
      have ticked := face_tick receiver { b.leaveOut place with timer }
      exact (congrArg (fun f : Face => { f with loop := f.loop.goOn id }) ticked).trans
        (Face.makes_goOn id _ _).symm
    | _ => rfl

/-- What happens in an episode besides what is asked of the timer. -/
def stirring (b : Bench) : Episode → Face.Stirring
  | .command _ _ => .aside
  | .turn place =>
    match b.loop.ready[place]? with
    | none => .aside
    | some id => if (b.target? id).isSome then .tick id else .turn id
  | .pass ms => if b.loop.ready = [] then .pass ms else .aside

/-- A new counter is somebody more who is there. -/
theorem counter_cases (name : String) (reactions : List Reaction) (b : Bench) :
    Face.Stirs .aside b.face (b.counter name reactions).2.face := by
  unfold counter
  split
  · exact .same _
  · have met := Face.Stirs.meet b.face
    unfold face at met ⊢
    dsimp only at met ⊢
    rwa [List.map_append]

/-- A timer that keeps time is not fired. -/
theorem fire_of_keepsTime {b : Bench} (keeps : b.timer.keepsTime = true) : b.fire = (0, b) := by
  unfold fire
  cases timer : b.timer with
  | manual t =>
    rw [timer] at keeps
    cases keeps
  | interval t => rfl

/-- It is not fired several times either. -/
theorem fireTimes_of_keepsTime {b : Bench} (keeps : b.timer.keepsTime = true) (times : Nat) :
    b.fireTimes times = b := by
  induction times with
  | zero => rfl
  | succ times ih =>
    rw [fireTimes, fire_of_keepsTime keeps]
    exact ih

/-- **What an episode does:** something happens, and then something may be asked of the timer. -/
theorem undergo_cases {b : Bench} (keeps : b.timer.keepsTime = true) (e : Episode) :
    ∃ f, Face.Stirs (b.stirring e) b.face f ∧ (b.undergo e).face = f.makes (b.call? e) := by
  cases e with
  | command command atOnce =>
    cases command with
    | subscribe name nanos reactions => exact ⟨_, counter_cases name reactions b, rfl⟩
    | unsubscribe id => exact ⟨_, .same _, rfl⟩
    | shutDown => exact ⟨_, .same _, rfl⟩
    | isSubscribed id => exact ⟨_, .same _, rfl⟩
    | intervalOf id =>
      refine ⟨_, .same _, ?_⟩
      unfold undergo act
      dsimp only
      split <;> rfl
    | drop name =>
      refine ⟨_, .drop _ _ ?_, rfl⟩
      exact List.filter_sublist.map _
    | fire =>
      refine ⟨_, .same _, ?_⟩
      unfold undergo act
      dsimp only
      rw [fire_of_keepsTime keeps]
      rfl
    | fireTimes times =>
      refine ⟨_, .same _, ?_⟩
      exact congrArg face (fireTimes_of_keepsTime keeps times)
    | sleep ms => cases atOnce
    | jump ms => cases atOnce
  | turn place =>
    unfold undergo stirring call?
    dsimp only
    cases ready : b.loop.ready[place]? with
    | none => exact ⟨_, .same _, rfl⟩
    | some id =>
      refine ⟨b.face.turn place id, ?_, face_poll place id b⟩
      have same : (b.face.timer.beat b.face.nanos b.face.isAlive id).1.target? = b.target? id := by
        rw [isAlive_face]
        rfl
      dsimp only
      split
      · rename_i ticks
        obtain ⟨receiver, target⟩ := Option.isSome_iff_exists.1 ticks
        exact .tick _ place id ready receiver (same.trans target)
      · rename_i silent
        exact .turn _ place id ready (same.trans (Option.not_isSome_iff_eq_none.1 silent))
  | pass ms =>
    unfold undergo stirring
    dsimp only
    split
    · exact ⟨_, .pass _ ms ‹_›, rfl⟩
    · exact ⟨_, .same _, rfl⟩

end Bench
end Timer
end HomeMedia
