import HomeMedia.Proofs.EventLoop
import HomeMedia.Proofs.Timer.Episodes
import HomeMedia.Proofs.Timer.Faces
import Mathlib.Data.List.Nodup
/-!
# Firings of a timer

Whoever gets a tick may make and end subscriptions from inside it, while the timer is still firing.
What was ever asked of a timer, with the answers, says which subscriptions stand: those that were
made and not ended (`Outcome.standing`). The table of the timer holds just these, in their order
(`Recalls`), and everything that is asked keeps it so, from outside and from inside a tick.

A timer that is fired draws up the list of those who get a tick before it sends the first one. So
the ticks of a firing are settled by what was answered before it (`Audience.ticks_of_run`). A
subscription that is ended gets no tick in any later firing. If it is ended inside the firing, by
somebody whose turn is earlier, its tick is sent all the same (`Bench.ticked_after_ending`).
-/

namespace HomeMedia
namespace Timer

variable {Subscriber : Type}

/-- Something that is asked of a timer about its subscriptions. -/
inductive Request (Subscriber : Type) where
  /-- To make one. -/
  | subscribe (subscriber : Subscriber) (nanos : Nat)
  /-- To end one. -/
  | unsubscribe (id : SubscriptionId)
  deriving DecidableEq, Repr

/-- What a timer answers. -/
inductive Outcome (Subscriber : Type) where
  /-- A subscription was made, under a number. -/
  | subscribed (id : SubscriptionId) (subscriber : Subscriber)
  /-- A subscription was to be ended, and was found or not. -/
  | unsubscribed (id : SubscriptionId) (found : Bool)
  deriving DecidableEq, Repr

namespace Outcome

/-- The subscription that was made, and for whom. -/
def made? : Outcome Subscriber → Option (SubscriptionId × Subscriber)
  | subscribed id subscriber => some (id, subscriber)
  | unsubscribed _ _ => none

/-- The subscription that was found and ended. -/
def ended? : Outcome Subscriber → Option SubscriptionId
  | unsubscribed id true => some id
  | _ => none

/-- The subscriptions that were made, oldest first. -/
def made (told : List (Outcome Subscriber)) : List (SubscriptionId × Subscriber) :=
  told.filterMap made?

/-- The subscriptions that were found and ended. -/
def ended (told : List (Outcome Subscriber)) : List SubscriptionId := told.filterMap ended?

/-- The subscriptions that were made and not ended, oldest first. -/
def standing (told : List (Outcome Subscriber)) : List (SubscriptionId × Subscriber) :=
  (made told).filter fun m => m.1 ∉ ended told

/-- What was made is what was made first and what was made then. -/
theorem made_append (told more : List (Outcome Subscriber)) :
    made (told ++ more) = made told ++ made more := List.filterMap_append

/-- So is what was ended. -/
theorem ended_append (told more : List (Outcome Subscriber)) :
    ended (told ++ more) = ended told ++ ended more := List.filterMap_append

/-- What stands was made and not ended. -/
theorem mem_standing_iff {told : List (Outcome Subscriber)} {m : SubscriptionId × Subscriber} :
    m ∈ standing told ↔ m ∈ made told ∧ m.1 ∉ ended told := by
  rw [standing, List.mem_filter, decide_eq_true_iff]

end Outcome

open Outcome

namespace Source

variable {t : Source Subscriber} {told : List (Outcome Subscriber)}

/-- A timer is asked for something. -/
def ask (t : Source Subscriber) : Request Subscriber → Outcome Subscriber × Source Subscriber
  | .subscribe subscriber nanos =>
    let (made, t) := t.subscribe subscriber nanos
    (.subscribed made.id subscriber, t)
  | .unsubscribe id =>
    let (found, t) := t.unsubscribe id
    (.unsubscribed id found, t)

/-- A timer is asked for one thing after the other. -/
def askAll : Source Subscriber → List (Request Subscriber) →
    List (Outcome Subscriber) × Source Subscriber
  | t, [] => ([], t)
  | t, request :: more =>
    let (outcome, t) := t.ask request
    let (rest, t) := t.askAll more
    (outcome :: rest, t)

/-- The subscriptions that get a tick when the timer is fired. -/
def called (isAlive : Subscriber → Bool) (t : Source Subscriber) :
    List (Subscription Subscriber) :=
  if t.keepsTime then [] else t.subs.filter fun s => isAlive s.subscriber

/-- Who gets a tick is the subscriber of a subscription that does. -/
theorem targets_eq_called (isAlive : Subscriber → Bool) (t : Source Subscriber) :
    t.targets isAlive = (t.called isAlive).map Subscription.subscriber := by
  cases t with
  | manual t =>
    rw [called, show (manual t).keepsTime = false from rfl, if_neg Bool.false_ne_true]
    simp only [targets, Manual.targets, subs, List.filter_map, List.map_map]
    rfl
  | interval t => rfl

/-- A timer that ticks on demand does so whatever it is asked. -/
theorem keepsTime_ask (t : Source Subscriber) (request : Request Subscriber) :
    (t.ask request).2.keepsTime = t.keepsTime := by
  cases request with
  | subscribe subscriber nanos => exact keepsTime_subscribe t subscriber nanos
  | unsubscribe id => exact keepsTime_unsubscribe t id

/-- So it does after several requests. -/
theorem keepsTime_askAll (requests : List (Request Subscriber)) (t : Source Subscriber) :
    (t.askAll requests).2.keepsTime = t.keepsTime := by
  induction requests generalizing t with
  | nil => rfl
  | cons request more ih => exact (ih _).trans (keepsTime_ask t request)

/-- A timer that does not keep time ticks on demand. -/
theorem exists_manual (manual : t.keepsTime = false) : ∃ m, t = .manual m := by
  cases t with
  | manual m => exact ⟨m, rfl⟩
  | interval m => cases manual

/-- A subscription is found if the table has it. -/
theorem found_unsubscribe_iff {id : SubscriptionId} :
    (t.unsubscribe id).1 = true ↔ ∃ s ∈ t.subs, s.id = id := by
  cases t with
  | manual t =>
    have known : (manual t |>.unsubscribe id).1 = t.isSubscribed id := by
      simp only [unsubscribe, Manual.unsubscribe]
      split
      · exact (‹t.isSubscribed id = true›).symm
      · exact (Bool.eq_false_iff.2 ‹_›).symm
    rw [known]
    simp [Manual.isSubscribed, subs]
  | interval t =>
    have known : (interval t |>.unsubscribe id).1 = (t.find? id).isSome := rfl
    rw [known]
    simp [Interval.find?, subs]

/-- What a timer was asked says what is in its table. -/
structure Recalls (t : Source Subscriber) (told : List (Outcome Subscriber)) : Prop where
  /-- Numbers were handed out from one on. -/
  numbers : (made told).map Prod.fst = List.range' 1 t.created
  /-- Nothing was ended twice. -/
  once : (ended told).Nodup
  /-- What was ended had been made. -/
  known : ∀ id ∈ ended told, id ≤ t.created
  /-- The table holds the subscriptions that stand. -/
  table : t.subs.map (fun s => (s.id, s.subscriber)) = standing told

namespace Recalls

/-- A new timer was asked nothing. -/
theorem new : Recalls (manual {} : Source Subscriber) [] where
  numbers := rfl
  once := List.nodup_nil
  known := nofun
  table := rfl

/-- No two subscriptions that were made have the same number. -/
theorem nodup_made (recalls : Recalls t told) : ((made told).map Prod.fst).Nodup := by
  rw [recalls.numbers]
  exact List.nodup_range'

/-- Neither have two that stand. -/
theorem nodup_standing (recalls : Recalls t told) : ((standing told).map Prod.fst).Nodup :=
  recalls.nodup_made.sublist (List.filter_sublist.map _)

/-- A number that was handed out is not still to come. -/
theorem le_created (recalls : Recalls t told) {m : SubscriptionId × Subscriber}
    (mem : m ∈ made told) : m.1 ≤ t.created := by
  have number : m.1 ∈ (made told).map Prod.fst := List.mem_map_of_mem mem
  rw [recalls.numbers, List.mem_range'_1, Nat.add_comm 1] at number
  exact Nat.le_of_lt_succ number.2

/-- **A subscription can be ended if and only if it stands.** -/
theorem found_unsubscribe_iff (recalls : Recalls t told) {id : SubscriptionId} :
    (t.unsubscribe id).1 = true ↔ id ∈ (standing told).map Prod.fst := by
  rw [Source.found_unsubscribe_iff, ← recalls.table, List.map_map, List.mem_map]
  rfl

/-- **A subscription that is made goes to the end of the table.** -/
theorem subscribe (recalls : Recalls t told) (subscriber : Subscriber) (nanos : Nat) :
    Recalls (t.subscribe subscriber nanos).2
      (told ++ [.subscribed (t.created + 1) subscriber]) := by
  have ends : ended (told ++ [.subscribed (t.created + 1) subscriber]) = ended told :=
    (ended_append ..).trans (List.append_nil _)
  have new : t.created + 1 ∉ ended told := fun mem =>
    Nat.not_succ_le_self _ (recalls.known _ mem)
  constructor
  case numbers =>
    rw [made_append, List.map_append, recalls.numbers, created_subscribe, List.range'_concat,
      Nat.one_mul, Nat.add_comm 1]
    rfl
  case once => exact ends ▸ recalls.once
  case known =>
    rw [ends, created_subscribe]
    exact fun id mem => Nat.le_succ_of_le (recalls.known id mem)
  case table =>
    rw [standing, ends, made_append, List.filter_append, subs_subscribe, List.map_append,
      recalls.table, standing]
    refine congrArg _ (List.filter_eq_self.2 fun m mem => ?_).symm
    rw [List.mem_singleton.1 mem]
    exact decide_eq_true new

/-- **One that is ended leaves it.** -/
theorem unsubscribe (recalls : Recalls t told) (id : SubscriptionId) :
    Recalls (t.unsubscribe id).2 (told ++ [.unsubscribed id (t.unsubscribe id).1]) := by
  have makes (found : Bool) : made (told ++ [.unsubscribed id found]) = made told :=
    (made_append ..).trans (List.append_nil _)
  have left : (t.unsubscribe id).2.subs.map (fun s => (s.id, s.subscriber)) =
      (standing told).filter fun m => m.1 ≠ id := by
    rw [← recalls.table, subs_unsubscribe, List.filter_map]
    refine congrArg _ (List.filter_congr fun s _ => ?_)
    rw [Function.comp_apply, decide_not, bne, beq_eq_decide]
  cases found : (t.unsubscribe id).1 with
  | true =>
    have ends : ended (told ++ [.unsubscribed id true]) = ended told ++ [id] := ended_append ..
    obtain ⟨m, stands, same⟩ := List.mem_map.1 (recalls.found_unsubscribe_iff.1 found)
    obtain ⟨known, lasting⟩ := mem_standing_iff.1 stands
    rw [same] at lasting
    constructor
    case numbers => rw [makes, recalls.numbers, created_unsubscribe]
    case once =>
      rw [ends, List.nodup_append_comm]
      exact List.nodup_cons.2 ⟨lasting, recalls.once⟩
    case known =>
      rw [ends, created_unsubscribe]
      intro other mem
      rcases List.mem_append.1 mem with old | last
      · exact recalls.known other old
      · exact List.mem_singleton.1 last ▸ same ▸ recalls.le_created known
    case table =>
      rw [left, standing, standing, List.filter_filter, makes, ends]
      exact List.filter_congr fun other _ => by simp [and_comm]
  | false =>
    have ends : ended (told ++ [.unsubscribed id false]) = ended told :=
      (ended_append ..).trans (List.append_nil _)
    constructor
    case numbers => rw [makes, recalls.numbers, created_unsubscribe]
    case once => exact ends ▸ recalls.once
    case known =>
      rw [ends, created_unsubscribe]
      exact recalls.known
    case table =>
      rw [left, standing, standing, makes, ends]
      refine List.filter_eq_self.2 fun m stands => decide_eq_true fun same => ?_
      rw [recalls.found_unsubscribe_iff.2 (List.mem_map.2 ⟨m, stands, same⟩)] at found
      cases found

/-- **A request is recalled.** -/
theorem ask (recalls : Recalls t told) (request : Request Subscriber) :
    Recalls (t.ask request).2 (told ++ [(t.ask request).1]) := by
  cases request with
  | subscribe subscriber nanos =>
    unfold Source.ask
    dsimp only
    rw [id_subscribe]
    exact recalls.subscribe subscriber nanos
  | unsubscribe id => exact recalls.unsubscribe id

/-- So is one request after the other. -/
theorem askAll (recalls : Recalls t told) (requests : List (Request Subscriber)) :
    Recalls (t.askAll requests).2 (told ++ (t.askAll requests).1) := by
  induction requests generalizing t told with
  | nil => exact (List.append_nil told).symm ▸ recalls
  | cons request more ih =>
    have later := ih (recalls.ask request)
    rwa [List.append_assoc] at later

/-- **Who gets a tick** is settled by what was answered. -/
theorem called_eq (recalls : Recalls t told) (manual : t.keepsTime = false)
    (isAlive : Subscriber → Bool) :
    (t.called isAlive).map (fun s => (s.id, s.subscriber)) =
      (standing told).filter fun m => isAlive m.2 := by
  rw [called, manual, if_neg Bool.false_ne_true, ← recalls.table, List.filter_map]
  rfl

end Recalls
end Source

open Source

/-- Somebody with a timer, and subscribers who do as they please inside their ticks. -/
structure Audience (State Subscriber : Type) where
  /-- The timer. -/
  timer : State → Source Subscriber
  /-- Whether a subscriber is still there. -/
  isAlive : State → Subscriber → Bool
  /-- A subscriber gets a tick. -/
  tick : State → Subscriber → State
  /-- What is asked of the timer inside a tick. -/
  requests : State → Subscriber → List (Request Subscriber)
  /-- Nothing else happens to the timer inside a tick. -/
  timer_tick : ∀ s subscriber,
    timer (tick s subscriber) = ((timer s).askAll (requests s subscriber)).2

/-- A tick that was sent. -/
structure Tick (Subscriber : Type) where
  /-- On account of which subscription. -/
  id : SubscriptionId
  /-- Who got it. -/
  subscriber : Subscriber
  /-- What was asked inside it, with the answers. -/
  outcomes : List (Outcome Subscriber)
  deriving DecidableEq, Repr

/-- A part of what happens to a timer. -/
inductive Chapter (Subscriber : Type) where
  /-- Something is asked of it between two firings. -/
  | aside (outcomes : List (Outcome Subscriber))
  /-- It is fired. -/
  | fire (ticks : List (Tick Subscriber))
  deriving DecidableEq, Repr

namespace Chapter

/-- What was asked in a chapter, with the answers. -/
def outcomes : Chapter Subscriber → List (Outcome Subscriber)
  | aside outcomes => outcomes
  | fire ticks => ticks.flatMap Tick.outcomes

/-- The ticks that are sent in a chapter. -/
def ticks : Chapter Subscriber → List (Tick Subscriber)
  | aside _ => []
  | fire ticks => ticks

end Chapter

namespace Audience

variable {State : Type} (a : Audience State Subscriber)

/-- The timer is fired: everybody who is there gets a tick. -/
def fire (s : State) : Nat × State :=
  let targets := (a.timer s).targets (a.isAlive s)
  (targets.length, targets.foldl a.tick s)

/-- The ticks of some subscriptions, one after the other. -/
def sends : State → List (Subscription Subscriber) → List (Tick Subscriber)
  | _, [] => []
  | s, sub :: more =>
    ⟨sub.id, sub.subscriber, ((a.timer s).askAll (a.requests s sub.subscriber)).1⟩ ::
      sends (a.tick s sub.subscriber) more

/-- The ticks of a firing. -/
def ticks (s : State) : List (Tick Subscriber) := a.sends s ((a.timer s).called (a.isAlive s))

/-- What can happen in a chapter. Between two firings everything may change that is not the timer,
and subscribers may come and go. -/
inductive Turns (s : State) : Chapter Subscriber → State → Prop where
  | aside (requests : List (Request Subscriber)) (next : State)
    (asked : a.timer next = ((a.timer s).askAll requests).2) :
    Turns s (.aside ((a.timer s).askAll requests).1) next
  | fire : Turns s (.fire (a.ticks s)) (a.fire s).2

/-- What can happen from a start on, chapter by chapter. -/
inductive Run (start : State) : List (Chapter Subscriber) → State → Prop where
  | start : Run start [] start
  | turn {record : List (Chapter Subscriber)} {s next : State} {chapter : Chapter Subscriber}
    (run : Run start record s) (turns : a.Turns s chapter next) :
    Run start (record ++ [chapter]) next

variable {a} {start s next : State} {record : List (Chapter Subscriber)}
  {chapter : Chapter Subscriber}

/-- Ticks are sent in the order of the subscriptions. -/
theorem map_sends (subs : List (Subscription Subscriber)) (s : State) :
    (a.sends s subs).map (fun t => (t.id, t.subscriber)) =
      subs.map fun sub => (sub.id, sub.subscriber) := by
  induction subs generalizing s with
  | nil => rfl
  | cons sub more ih => exact congrArg _ (ih _)

/-- A firing sends its ticks and does nothing else. -/
theorem fire_eq (s : State) :
    a.fire s = ((a.ticks s).length, ((a.ticks s).map Tick.subscriber).foldl a.tick s) := by
  have same : (a.ticks s).map Tick.subscriber = (a.timer s).targets (a.isAlive s) := by
    have pairs : (a.ticks s).map (fun t => (t.id, t.subscriber)) = _ := map_sends _ s
    have receivers := congrArg (List.map Prod.snd) pairs
    rw [List.map_map, List.map_map] at receivers
    exact receivers.trans (targets_eq_called ..).symm
  rw [fire, ← same, List.length_map]

/-- A timer that ticks on demand does so after any ticks. -/
theorem keepsTime_foldl_tick (subscribers : List Subscriber) (s : State) :
    (a.timer (subscribers.foldl a.tick s)).keepsTime = (a.timer s).keepsTime := by
  induction subscribers generalizing s with
  | nil => rfl
  | cons subscriber more ih =>
    refine (ih _).trans ?_
    rw [a.timer_tick]
    exact keepsTime_askAll ..

/-- So it does after a chapter. -/
theorem keepsTime_of_turns (turns : a.Turns s chapter next) :
    (a.timer next).keepsTime = (a.timer s).keepsTime := by
  cases turns with
  | aside requests next asked => rw [asked, keepsTime_askAll]
  | fire => exact keepsTime_foldl_tick ..

/-- So it does after a run. -/
theorem keepsTime_of_run (run : a.Run start record s) :
    (a.timer s).keepsTime = (a.timer start).keepsTime := by
  induction run with
  | start => rfl
  | turn run turns ih => exact (keepsTime_of_turns turns).trans ih

/-- **The ticks of a firing are recalled**, whatever is asked inside them. -/
theorem recalls_sends {told : List (Outcome Subscriber)} (recalls : (a.timer s).Recalls told)
    (subs : List (Subscription Subscriber)) :
    (a.timer ((subs.map Subscription.subscriber).foldl a.tick s)).Recalls
      (told ++ (a.sends s subs).flatMap Tick.outcomes) := by
  induction subs generalizing s told with
  | nil => exact (List.append_nil told).symm ▸ recalls
  | cons sub more ih =>
    have first := recalls.askAll (a.requests s sub.subscriber)
    rw [← a.timer_tick] at first
    have later := ih first
    rwa [List.append_assoc] at later

/-- **A chapter is recalled.** -/
theorem recalls_of_turns {told : List (Outcome Subscriber)} (recalls : (a.timer s).Recalls told)
    (turns : a.Turns s chapter next) : (a.timer next).Recalls (told ++ chapter.outcomes) := by
  cases turns with
  | aside requests next asked =>
    rw [asked]
    exact recalls.askAll requests
  | fire =>
    have sent := recalls_sends recalls ((a.timer s).called (a.isAlive s))
    rwa [← targets_eq_called] at sent

/-- **A run is recalled.** -/
theorem recalls_of_run (new : a.timer start = .manual {}) (run : a.Run start record s) :
    (a.timer s).Recalls (record.flatMap Chapter.outcomes) := by
  induction run with
  | start => exact new ▸ .new
  | turn run turns ih =>
    rw [List.flatMap_append, List.flatMap_singleton]
    exact recalls_of_turns ih turns

/-- One chapter is a run. -/
theorem Run.one (turns : a.Turns s chapter next) : a.Run s [chapter] next := .turn .start turns

/-- A run goes on with another. -/
theorem Run.append {more : List (Chapter Subscriber)} (run : a.Run start record s)
    (rest : a.Run s more next) : a.Run start (record ++ more) next := by
  induction rest with
  | start => exact (List.append_nil record).symm ▸ run
  | turn rest turns ih => exact (List.append_assoc record _ _) ▸ ih.turn turns

/-- A chapter of a run begins where the run had got to. -/
theorem exists_turns_of_run {before after : List (Chapter Subscriber)}
    (run : a.Run start (before ++ chapter :: after) s) :
    ∃ now next, a.Run start before now ∧ a.Turns now chapter next := by
  generalize whole : before ++ chapter :: after = record at run
  induction run generalizing after with
  | start => simp at whole
  | turn run turns ih =>
    rcases List.eq_nil_or_concat after with rfl | ⟨initial, last, rfl⟩
    · obtain ⟨rfl, same⟩ := List.append_inj' whole rfl
      rw [List.singleton_inj] at same
      exact ⟨_, _, run, same ▸ turns⟩
    · rw [List.concat_eq_append, ← List.cons_append, ← List.append_assoc] at whole
      exact ih (List.append_inj' whole rfl).1

/-- **The ticks of a firing** are settled by what was answered before it. -/
theorem ticks_of_turns {ticks : List (Tick Subscriber)} (new : a.timer start = .manual {})
    (run : a.Run start record s) (turns : a.Turns s (.fire ticks) next) :
    ticks.map (fun t => (t.id, t.subscriber)) =
      (standing (record.flatMap Chapter.outcomes)).filter fun m => a.isAlive s m.2 := by
  have manual : (a.timer s).keepsTime = false := by
    rw [keepsTime_of_run run, new]
    rfl
  cases turns
  exact (map_sends ..).trans ((recalls_of_run new run).called_eq manual _)

/-- Only what stands gets a tick. -/
theorem mem_standing_of_tick (new : a.timer start = .manual {})
    {before after : List (Chapter Subscriber)}
    (run : a.Run start (before ++ chapter :: after) s) {t : Tick Subscriber}
    (sent : t ∈ chapter.ticks) :
    (t.id, t.subscriber) ∈ standing (before.flatMap Chapter.outcomes) := by
  obtain ⟨now, next, first, turns⟩ := exists_turns_of_run run
  cases chapter with
  | aside outcomes => cases sent
  | fire ticks =>
    have stands : (t.id, t.subscriber) ∈ ticks.map fun t => (t.id, t.subscriber) :=
      List.mem_map_of_mem sent
    rw [ticks_of_turns new first turns] at stands
    exact (List.mem_filter.1 stands).1

/-- **The ticks of firings.** Nothing is found and ended twice. What is ended in a chapter gets no
tick in any later one. In a firing, the subscriptions that were made and not ended before it get one
tick each, in their order, if their subscribers are there when it begins, and no others do; so what
is made inside it gets none, and what is ended inside it loses none. -/
theorem ticks_of_run (new : a.timer start = .manual {}) (run : a.Run start record s) :
    (ended (record.flatMap Chapter.outcomes)).Nodup ∧
    ∀ before chapter after, record = before ++ chapter :: after →
      (∀ id ∈ ended chapter.outcomes, ∀ later ∈ after, id ∉ later.ticks.map Tick.id) ∧
      ∀ ticks, chapter = .fire ticks →
        (ticks.map Tick.id).Nodup ∧
        (∀ m ∈ made chapter.outcomes, m.1 ∉ ticks.map Tick.id) ∧
        ∃ now, a.Run start before now ∧
          a.fire now = (ticks.length, (ticks.map Tick.subscriber).foldl a.tick now) ∧
          ticks.map (fun t => (t.id, t.subscriber)) =
            (standing (before.flatMap Chapter.outcomes)).filter fun m => a.isAlive now m.2 := by
  refine ⟨(recalls_of_run new run).once, ?_⟩
  rintro before chapter after rfl
  constructor
  · intro id ends later mem ticked
    obtain ⟨t, sent, rfl⟩ := List.mem_map.1 ticked
    obtain ⟨between, rest, rfl⟩ := List.append_of_mem mem
    rw [← List.cons_append, ← List.append_assoc] at run
    have stands := mem_standing_of_tick new run sent
    refine (mem_standing_iff.1 stands).2 ?_
    rw [List.flatMap_append, List.flatMap_cons, ended_append, ended_append]
    exact List.mem_append_right _ (List.mem_append_left _ ends)
  · rintro ticks rfl
    obtain ⟨now, next, first, turns⟩ := exists_turns_of_run run
    have recalls := recalls_of_run new first
    have sent := ticks_of_turns new first turns
    have ids : ticks.map Tick.id = (ticks.map fun t => (t.id, t.subscriber)).map Prod.fst := by
      rw [List.map_map]
      rfl
    refine ⟨?_, fun m inside again => ?_, now, first, ?_, sent⟩
    · rw [ids, sent]
      exact recalls.nodup_standing.sublist (List.filter_sublist.map _)
    · -- Its number would have been handed out twice.
      rw [ids, sent] at again
      obtain ⟨other, mem, same⟩ := List.mem_map.1 again
      have old := (mem_standing_iff.1 (List.mem_filter.1 mem).1).1
      have distinct := (recalls_of_turns recalls turns).nodup_made
      rw [made_append, List.map_append] at distinct
      exact (List.nodup_append.1 distinct).2.2 _ (List.mem_map_of_mem old) _
        (List.mem_map_of_mem inside) same
    · cases turns
      exact fire_eq now

end Audience

namespace Bench

/-- What a reaction asks of the timer. -/
def Reaction.requests (serial : Nat) : Reaction → List (Request Receiver)
  | .nothing => []
  | .unsubscribe id => [.unsubscribe id]
  | .subscribe nanos => [.subscribe ⟨serial, false⟩ nanos]

/-- The timer and the counters of a bench. -/
def audience : Audience Bench Receiver where
  timer := timer
  isAlive := isAlive
  tick := tick
  requests b receiver := (b.reaction? receiver).elim [] (Reaction.requests receiver.counter)
  timer_tick b receiver := by
    refine (congrArg Face.timer (face_tick receiver b)).trans ?_
    unfold inside?
    cases b.reaction? receiver with
    | none => rfl
    | some reaction => cases reaction <;> rfl

/-- Firing the timer of a bench is firing the timer of its audience. -/
theorem audience_fire (b : Bench) : audience.fire b = b.fire := rfl

/-- A timer that ticks on demand, of which nothing was asked yet. -/
def onDemand : Bench := { timer := .manual {} }

/-- What happens when the timer is fired several times. -/
def firings : Nat → Bench → List (Chapter Receiver)
  | 0, _ => []
  | times + 1, b => .fire (audience.ticks b) :: firings times b.fire.2

/-- What happens to a timer that ticks on demand when something is asked of its bench. -/
def chapters (b : Bench) : Command → List (Chapter Receiver)
  | .subscribe name nanos reactions =>
    [.aside (b.timer.askAll [.subscribe ⟨(b.counter name reactions).1, true⟩ nanos]).1]
  | .unsubscribe id => [.aside (b.timer.askAll [.unsubscribe id]).1]
  | .fire => [.fire (audience.ticks b)]
  | .fireTimes times => firings times b
  | _ => [.aside []]

/-- What happens to a timer that ticks on demand in a list of commands. -/
def chronicle : Bench → List Command → List (Chapter Receiver)
  | _, [] => []
  | b, command :: more => b.chapters command ++ .aside [] :: chronicle (b.run command).2 more

variable {b c : Bench}

/-- A chapter in which the timer is left alone. -/
theorem turns_of_timer_eq (same : c.timer = b.timer) : audience.Turns b (.aside []) c :=
  .aside [] c same

/-- Turns of pulses and the clock leave a timer alone that ticks on demand. -/
theorem kept_manual (t : Manual Receiver) : Live.Kept fun b : Bench => b.timer = .manual t where
  withLoop _ _ same := same
  poll id b same := by
    change (poll id b).timer = _
    unfold poll
    rw [same]
    rfl

/-- Several firings are a run. -/
theorem run_firings (times : Nat) (b : Bench) :
    audience.Run b (firings times b) (b.fireTimes times) := by
  induction times generalizing b with
  | zero => exact .start
  | succ times ih => exact (Audience.Run.one .fire).append (ih _)

/-- So is a command. -/
theorem run_chapters (manual : b.timer.keepsTime = false) (command : Command) :
    audience.Run b (b.chapters command) (b.act command).2 := by
  obtain ⟨t, timer⟩ := exists_manual manual
  have alone {c : Bench} (same : c.timer = .manual t) : audience.Run b [.aside []] c :=
    .one (turns_of_timer_eq (same.trans timer.symm))
  cases command with
  | subscribe name nanos reactions =>
    have met : (b.counter name reactions).2.timer = b.timer := by
      unfold counter
      split <;> rfl
    refine .one (.aside _ _ ?_)
    change ((b.counter name reactions).2.timer.subscribe _ nanos).2 = _
    rw [met]
    rfl
  | unsubscribe id => exact .one (.aside [.unsubscribe id] _ rfl)
  | fire => exact .one .fire
  | fireTimes times => exact run_firings times b
  | intervalOf id =>
    refine alone ?_
    unfold act
    dsimp only
    split <;> exact timer
  | isSubscribed id => exact alone timer
  | drop name => exact alone timer
  | sleep ms => exact alone ((kept_manual t).sleep ms timer)
  | jump ms => exact alone ((kept_manual t).jump ms timer)
  | shutDown => exact alone (congrArg Source.shutDown timer)

/-- So is letting everybody have a turn, in which nothing happens. -/
theorem run_settle (manual : b.timer.keepsTime = false) :
    audience.Run b [.aside []] (Live.settle b) := by
  obtain ⟨t, timer⟩ := exists_manual manual
  exact .one (turns_of_timer_eq (((kept_manual t).settle timer).trans timer.symm))

/-- **Commands make a run.** -/
theorem run_chronicle (manual : b.timer.keepsTime = false) (commands : List Command) :
    audience.Run b (b.chronicle commands)
      (commands.foldl (fun b command => (b.run command).2) b) := by
  induction commands generalizing b with
  | nil => exact .start
  | cons command more ih =>
    have acted := run_chapters manual command
    have settled := run_settle ((Audience.keepsTime_of_run acted).trans manual)
    have run := acted.append settled
    have rest := run.append (ih ((Audience.keepsTime_of_run run).trans manual))
    rwa [List.append_assoc] at rest

/-- The first counter ends the subscription of the second: in the second firing it is alone. -/
theorem ticks_of_run_two_firings :
    let commands := [.subscribe "a" 1000000000 [.unsubscribe 2], .subscribe "b" 1000000000 [],
      .fire, .fire]
    let ticks : List (Tick Receiver) := [⟨1, ⟨0, true⟩, []⟩]
    (ended ((onDemand.chronicle commands).flatMap Chapter.outcomes)).Nodup ∧
    ∃ before, onDemand.chronicle commands = before ++ [.fire ticks, .aside []] ∧
      2 ∈ ended (before.flatMap Chapter.outcomes) ∧ (ticks.map Tick.id).Nodup ∧
      ∃ now, audience.Run onDemand before now ∧
        audience.fire now = (1, audience.tick now ⟨0, true⟩) ∧
        [(1, ⟨0, true⟩)] =
          (standing (before.flatMap Chapter.outcomes)).filter fun m => now.isAlive m.2 := by
  intro commands ticks
  have run := run_chronicle (b := onDemand) rfl commands
  obtain ⟨once, told⟩ := Audience.ticks_of_run rfl run
  have split : onDemand.chronicle commands =
    (onDemand.chronicle commands).take 6 ++ [.fire ticks, .aside []] := by decide
  obtain ⟨distinct, -, now, first, fires, sent⟩ := (told _ _ _ split).2 ticks rfl
  exact ⟨once, _, split, by decide, distinct, now, first, fires, sent⟩

/-- **A tick is sent although its subscription was ended:** the first counter ends the subscription
of the second inside its tick, is told that it was found, and the second gets its tick all the
same. -/
theorem ticked_after_ending :
    let commands := [.subscribe "a" 1000000000 [.unsubscribe 2], .subscribe "b" 1000000000 [],
      .fire]
    let b := commands.foldl (fun b command => (b.run command).2) onDemand
    audience.timer onDemand = .manual {} ∧ audience.Run onDemand (onDemand.chronicle commands) b ∧
    (∃ before after, onDemand.chronicle commands = before ++ .fire [
      ⟨1, ⟨0, true⟩, [.unsubscribed 2 true]⟩, ⟨2, ⟨1, true⟩, []⟩] :: after) ∧
    b.results = [.unsubscribed true] ∧ b.counters.map Counter.ticks = [1, 1] := by
  intro commands b
  refine ⟨rfl, run_chronicle (b := onDemand) rfl commands, ?_, by decide, by decide⟩
  exact ⟨(onDemand.chronicle commands).take 4, [.aside []], by decide⟩

end Bench
end Timer
end HomeMedia
