import HomeMedia.Proofs.Timer.Histories
/-!
# The subscriptions that a timer counts

The census of a run lists the leases of all subscriptions that were ever made, under the numbers
from one on. Since each of them fits the table and the table holds no others (`Covers`), the timer
counts the leases that stand, and a number can be given up as long as its lease stands.

While pulses are ready, a lease may stand although a tick is due that nobody is there to get. Once
everybody waits it stands if and only if it was not ended and no such tick is due. Those are the
live subscriptions, and besides them the *strays*: subscriptions that were made after the timer was
shut down. They have no pulse, so nothing takes them out of the table, and they are counted and can
be ended like live ones (`counts_of_stray`).
-/

namespace HomeMedia
namespace Timer

namespace Source

variable {Subscriber : Type} {t : Source Subscriber}

/-- The numbers of the subscriptions of a timer. -/
def ids (t : Source Subscriber) : List SubscriptionId := t.subs.map Subscription.id

/-- A timer that keeps time counts its subscriptions. -/
theorem counts_eq (keeps : t.keepsTime = true) : t.counts = [t.ids.length] := by
  cases t with
  | manual t => cases keeps
  | interval t =>
    unfold ids subs
    rw [List.length_map, List.length_map]
    rfl

/-- It has a row for each of them. -/
theorem isSome_row?_iff (keeps : t.keepsTime = true) {id : SubscriptionId} :
    (t.row? id).isSome = true ↔ id ∈ t.ids := by
  cases t with
  | manual t => cases keeps
  | interval t =>
    have found : (t.find? id).isSome = true ↔ ∃ e ∈ t.entries, (e.id == id) = true :=
      List.find?_isSome
    refine found.trans ?_
    simp [ids, subs]

/-- A new subscription stands behind the others, under the next number. -/
theorem ids_subscribe (t : Source Subscriber) (subscriber : Subscriber) (nanos : Nat) :
    (t.subscribe subscriber nanos).2.ids = t.ids ++ [t.created + 1] := by
  unfold ids
  rw [subs_subscribe, List.map_append]
  rfl

/-- Ending a subscription adds none. -/
theorem ids_unsubscribe_subset (t : Source Subscriber) (id : SubscriptionId) :
    (t.unsubscribe id).2.ids ⊆ t.ids := by
  unfold ids
  rw [subs_unsubscribe]
  exact List.map_subset _ (List.filter_subset_self _)

/-- Neither does the turn of a pulse. -/
theorem ids_beat_subset (t : Source Subscriber) (now : Nat) (isAlive : Subscriber → Bool)
    (id : SubscriptionId) : (t.beat now isAlive id).2.ids ⊆ t.ids := by
  unfold ids
  rcases subs_beat t now isAlive id with same | ⟨_, _, _, _, taken⟩
  · rw [same]
    exact List.Subset.refl _
  · rw [taken]
    exact List.map_subset _ (List.filter_subset_self _)

/-- A timer that is shut down has none left. -/
theorem ids_shutDown (keeps : t.keepsTime = true) : t.shutDown.ids = [] := by
  cases t with
  | manual t => cases keeps
  | interval t => rfl

/-- A pulse that sends a tick ends no subscription. -/
theorem unsubscribe_beat_of_tick {now : Nat} {isAlive : Subscriber → Bool} {pulse : SubscriptionId}
    {subscriber : Subscriber}
    (ticks : (t.beat now isAlive pulse).1.target? = some subscriber) (id : SubscriptionId) :
    ((t.beat now isAlive pulse).2.unsubscribe id).1 = (t.unsubscribe id).1 := by
  cases t with
  | manual t => cases ticks
  | interval t =>
    cases found : t.find? pulse with
    | none =>
      rw [beat_interval, Interval.beat_of_none found] at ticks
      cases ticks
    | some e =>
      cases started : e.due with
      | none =>
        rw [beat_interval, Interval.beat_of_new found started] at ticks
        cases ticks
      | some due =>
        rw [beat_interval, Interval.beat_of_due found started] at ticks ⊢
        split_ifs at ticks ⊢
        · cases ticks
        · cases ticks
        · change ((t.setDue pulse _).find? id).isSome = (t.find? id).isSome
          rw [Interval.find?_setDue, Option.isSome_map]

end Source

namespace Bench

open Face (Stirs Stirring)

variable {b : Bench} {e : Episode}

/-! ## All leases of a run -/

/-- The lease that a call makes. -/
def Call.lease? (f : Face) : Call → Option Lease
  | .subscribe receiver nanos => some (.new f receiver nanos)
  | _ => none

/-- The lease that is made in an episode. -/
def opens? (b : Bench) (e : Episode) : Option Lease := (b.call? e).bind (Call.lease? b.face)

/-- The leases that were made in a run and what they have come to, oldest first. -/
def census : Bench → List Episode → List Lease
  | _, [] => []
  | b, e :: more =>
    (b.opens? e).toList.map (fun l => l.through (b.undergo e) more) ++ census (b.undergo e) more

/-- These are the leases of all subscriptions that were ever made. -/
structure Covers (b : Bench) (leases : List Lease) : Prop where
  /-- They fit what the timer knows. -/
  fits : ∀ l ∈ leases, l.Fits b.face
  /-- They have the numbers that were handed out. -/
  numbers : leases.map Lease.id = List.range' 1 b.timer.created
  /-- The timer knows no others. -/
  known : ∀ id ∈ b.timer.ids, id ∈ leases.map Lease.id

/-- A lease is made where somebody subscribes. -/
theorem exists_of_opens? {l : Lease} (opens : b.opens? e = some l) :
    ∃ receiver nanos, b.call? e = some (.subscribe receiver nanos) ∧
      l = Lease.new b.face receiver nanos := by
  obtain ⟨call, asked, new⟩ := Option.bind_eq_some_iff.1 opens
  cases call with
  | subscribe receiver nanos => exact ⟨receiver, nanos, asked, (Option.some.inj new).symm⟩
  | unsubscribe id => cases new
  | shutDown => cases new

/-- A subscription is entered under the next number. -/
theorem ids_undergo (sound : b.face.Sound) (e : Episode) :
    (b.undergo e).timer.created = b.timer.created + (b.opens? e).toList.length ∧
      (b.undergo e).timer.ids ⊆ b.timer.ids ++ (b.opens? e).toList.map Lease.id := by
  obtain ⟨f, stirs, same⟩ := undergo_cases sound.keeps e
  have before : f.timer.created = b.timer.created ∧ f.timer.ids ⊆ b.timer.ids := by
    generalize b.stirring e = stirring at stirs
    have turned (place : Nat) (id : SubscriptionId) :
        (b.face.turn place id).timer.created = b.timer.created ∧
          (b.face.turn place id).timer.ids ⊆ b.timer.ids := by
      obtain ⟨loop, -, same⟩ := Face.exists_turn place id b.face
      rw [same]
      exact ⟨Source.created_beat .., Source.ids_beat_subset ..⟩
    cases stirs with
    | turn _ place id => exact turned place id
    | tick _ place id => exact turned place id
    | _ => exact ⟨rfl, List.Subset.refl _⟩
  have keeps : f.timer.keepsTime = true := (sound.stirs stirs).keeps
  rw [show (b.undergo e).timer = (f.makes (b.call? e)).timer from congrArg Face.timer same,
    ← before.1]
  unfold opens?
  cases b.call? e with
  | none => exact ⟨rfl, List.subset_append_of_subset_left _ before.2⟩
  | some call =>
    cases call with
    | subscribe receiver nanos =>
      refine ⟨Source.created_subscribe f.timer receiver nanos, ?_⟩
      change (f.timer.subscribe receiver nanos).2.ids ⊆ b.timer.ids ++ [b.timer.created + 1]
      rw [Source.ids_subscribe, before.1]
      refine List.append_subset.2 ⟨?_, List.subset_append_right ..⟩
      exact List.subset_append_of_subset_left _ before.2
    | unsubscribe id =>
      refine ⟨Source.created_unsubscribe f.timer id, ?_⟩
      exact List.subset_append_of_subset_left _
        (List.Subset.trans (Source.ids_unsubscribe_subset f.timer id) before.2)
    | shutDown =>
      refine ⟨Source.created_shutDown f.timer, ?_⟩
      change f.timer.shutDown.ids ⊆ _
      rw [Source.ids_shutDown keeps]
      exact List.nil_subset _

/-- The leases before an episode, and the one that is made in it, are those after it. -/
theorem Covers.undergo {leases : List Lease} (covers : b.Covers leases) (sound : b.face.Sound)
    (e : Episode) :
    (b.undergo e).Covers (leases.map (Lease.next b e) ++ (b.opens? e).toList) := by
  obtain ⟨created, ids⟩ := ids_undergo sound e
  have numbers : (leases.map (Lease.next b e)).map Lease.id = leases.map Lease.id := by
    rw [List.map_map]
    exact List.map_congr_left fun l _ => Lease.id_next b e l
  refine ⟨fun l mem => ?_, ?_, fun id mem => ?_⟩
  · rcases List.mem_append.1 mem with old | new
    · obtain ⟨l, known, rfl⟩ := List.mem_map.1 old
      exact Lease.fits_next sound (covers.fits l known) e
    · obtain ⟨receiver, nanos, asked, rfl⟩ := exists_of_opens? (Option.mem_toList.1 new)
      exact Lease.fits_new sound asked
  · rw [List.map_append, numbers, covers.numbers, created]
    cases opens : b.opens? e with
    | none => exact List.append_nil _
    | some l =>
      obtain ⟨receiver, nanos, -, rfl⟩ := exists_of_opens? opens
      refine Eq.trans ?_ List.range'_1_concat.symm
      rw [Nat.add_comm 1]
      rfl
  · rw [List.map_append, numbers]
    rcases List.mem_append.1 (ids mem) with old | new
    · exact List.mem_append_left _ (covers.known id old)
    · exact List.mem_append_right _ new

/-- **A run keeps track of all subscriptions.** -/
theorem Covers.through {leases : List Lease} (covers : b.Covers leases) (sound : b.face.Sound)
    (episodes : List Episode) : (b.through episodes).Covers
      (leases.map (fun l => l.through b episodes) ++ b.census episodes) := by
  induction episodes generalizing b leases with
  | nil =>
    have same : leases.map (fun l => l.through b []) = leases := List.map_id _
    rw [same, census, List.append_nil]
    exact covers
  | cons e more ih =>
    have later := ih (covers.undergo sound e) (sound_undergo sound e)
    rw [List.map_append, List.map_map, List.append_assoc] at later
    exact later

/-- **The census of a run has the leases of all subscriptions that were ever made.** -/
theorem covers_census (episodes : List Episode) :
    (fresh.through episodes).Covers (fresh.census episodes) := by
  have start : fresh.Covers [] := ⟨nofun, rfl, nofun⟩
  exact start.through sound_fresh episodes

/-! ## Which of them the timer knows -/

namespace Lease

variable {l : Lease} {f : Face}

/-- The timer knows a lease that stands and no other. -/
theorem Fits.isSome_row? (fits : l.Fits f) : (f.timer.row? l.id).isSome = l.stands := by
  cases stands : l.stands with
  | false => rw [fits.gone stands, Option.isSome_none]
  | true =>
    obtain ⟨e, entered⟩ := fits.entered stands
    rw [entered.found, Option.isSome_some]

/-- Once everybody waits, whoever missed a tick has lapsed. -/
theorem Fits.stands_eq (fits : l.Fits f) (sound : f.Sound) (still : f.loop.ready = []) :
    l.stands = (!l.ended && !l.isMissed f) := by
  cases stands : l.stands with
  | false =>
    cases ended : l.ended with
    | true => rfl
    | false =>
      have lapsed : l.lapsed = true := by
        rw [Lease.stands, ended] at stands
        simpa using stands
      rw [fits.missed lapsed]
      rfl
  | true =>
    have attended : l.isMissed f = false := by
      refine Bool.eq_false_iff.2 fun missed => ?_
      obtain ⟨-, due, next, passed⟩ := isMissed_eq_true_iff.1 missed
      exact Nat.not_lt_of_le passed (fits.lt_due sound stands still next)
    rw [Lease.stands, Bool.and_eq_true] at stands
    rw [stands.1, attended]
    rfl

/-- Whether a subscription is live: it has a pulse, was not ended, and no tick is due that nobody is
there to get. -/
def isLive (f : Face) (l : Lease) : Bool := l.due.isSome && (!l.ended && !l.isMissed f)

/-- Whether a subscription was made after the timer was shut down, and was not ended. -/
def isStray (l : Lease) : Bool := l.due.isNone && !l.ended

/-- Nobody misses a tick that is never due. -/
theorem isLive_or_isStray (f : Face) (l : Lease) :
    (l.isLive f || l.isStray) = (!l.ended && !l.isMissed f) := by
  cases due : l.due with
  | none =>
    have attended : l.isMissed f = false := by
      rw [isMissed, due, Option.any_none, Bool.and_false]
    rw [isLive, isStray, due, attended]
    cases l.ended <;> rfl
  | some next =>
    rw [isLive, isStray, due]
    exact Bool.or_false _

/-- The leases that are live and the strays are those that were not ended, but for the missed. -/
theorem countP_isLive_add (f : Face) (leases : List Lease) :
    leases.countP (isLive f) + leases.countP isStray =
      leases.countP fun l => !l.ended && !l.isMissed f := by
  induction leases with
  | nil => rfl
  | cons l rest ih =>
    have apart : l.isLive f = true → l.isStray = false := by
      unfold isLive isStray
      cases l.due with
      | none => exact nofun
      | some due => exact fun _ => rfl
    rw [List.countP_cons, List.countP_cons, List.countP_cons, ← ih, ← isLive_or_isStray]
    cases live : l.isLive f with
    | false =>
      rw [Bool.false_or, if_neg Bool.false_ne_true]
      omega
    | true =>
      rw [apart live, Bool.true_or, if_neg Bool.false_ne_true, if_pos rfl]
      omega

end Lease

namespace Covers

variable {leases : List Lease}

/-- No two leases have the same number. -/
theorem nodup (covers : b.Covers leases) : (leases.map Lease.id).Nodup := by
  rw [covers.numbers]
  exact List.nodup_range'

/-- The subscriptions of the timer are the leases that stand. -/
theorem mem_ids_iff (covers : b.Covers leases) (sound : b.face.Sound) {id : SubscriptionId} :
    id ∈ b.timer.ids ↔ ∃ l ∈ leases, l.id = id ∧ l.stands = true := by
  have row {l : Lease} (mem : l ∈ leases) : l.id ∈ b.timer.ids ↔ l.stands = true := by
    rw [← (covers.fits l mem).isSome_row?]
    exact (Source.isSome_row?_iff sound.keeps).symm
  constructor
  · intro known
    obtain ⟨l, mem, rfl⟩ := List.mem_map.1 (covers.known id known)
    exact ⟨l, mem, rfl, (row mem).1 known⟩
  · rintro ⟨l, mem, rfl, stands⟩
    exact (row mem).2 stands

/-- **A subscription can be ended as long as it stands.** -/
theorem unsubscribe_eq_true_iff (covers : b.Covers leases) (sound : b.face.Sound)
    {id : SubscriptionId} :
    (b.timer.unsubscribe id).1 = true ↔ ∃ l ∈ leases, l.id = id ∧ l.stands = true := by
  have keeps : b.timer.keepsTime = true := sound.keeps
  rw [Source.unsubscribe_eq_isSome keeps, Source.isSome_row?_iff keeps]
  exact covers.mem_ids_iff sound

/-- **The subscriptions that stand are counted.** -/
theorem counts_eq (covers : b.Covers leases) (sound : b.face.Sound) :
    b.timer.counts = [leases.countP Lease.stands] := by
  have same : b.timer.ids.Perm ((leases.filter Lease.stands).map Lease.id) := by
    refine (List.perm_ext_iff_of_nodup sound.paced.nodup ?_).2 fun id => ?_
    · exact covers.nodup.sublist (List.filter_sublist.map _)
    · refine (covers.mem_ids_iff sound).trans (Iff.trans ?_ List.mem_map.symm)
      refine exists_congr fun l => ?_
      rw [List.mem_filter, and_assoc, and_comm (b := l.stands = true)]
  have keeps : b.timer.keepsTime = true := sound.keeps
  rw [Source.counts_eq keeps, same.length_eq, List.length_map, List.countP_eq_length_filter]

/-- Once everybody waits, a subscription stands if it is live or astray. -/
theorem stands_eq (covers : b.Covers leases) (sound : b.face.Sound) (still : b.loop.ready = [])
    {l : Lease} (mem : l ∈ leases) : l.stands = (l.isLive b.face || l.isStray) :=
  ((covers.fits l mem).stands_eq sound still).trans (l.isLive_or_isStray b.face).symm

/-- Once all pulses have had their turns, those are the live ones and the strays. -/
theorem countP_stands (covers : b.Covers leases) (sound : b.face.Sound)
    (still : b.loop.ready = []) : leases.countP Lease.stands =
      leases.countP (Lease.isLive b.face) + leases.countP Lease.isStray := by
  rw [Lease.countP_isLive_add]
  refine List.countP_congr fun l mem => ?_
  rw [(covers.fits l mem).stands_eq sound still]

end Covers

/-! ## What a run makes of a subscription -/

/-- A lease goes through one run and then the other. -/
theorem Lease.through_append (l : Lease) (b : Bench) (episodes more : List Episode) :
    l.through b (episodes ++ more) = (l.through b episodes).through (b.through episodes) more := by
  induction episodes generalizing l b with
  | nil => rfl
  | cons e rest ih => exact ih (l.next b e) (b.undergo e)

/-- The leases of two runs are those of the first, gone through the second, and the second's. -/
theorem census_append (b : Bench) (episodes more : List Episode) :
    b.census (episodes ++ more) =
      (b.census episodes).map (fun l => l.through (b.through episodes) more) ++
        (b.through episodes).census more := by
  induction episodes generalizing b with
  | nil => rfl
  | cons e rest ih =>
    rw [List.cons_append, census, census, ih, List.map_append, List.map_map, List.append_assoc]
    refine congrArg (· ++ _) (List.map_congr_left fun l _ => ?_)
    exact l.through_append (b.undergo e) rest more

/-- What is asked for in the middle of a run is in its census. -/
theorem mem_census {before after : List Episode} {receiver : Receiver} {nanos : Nat}
    (asked : (b.through before).call? e = some (.subscribe receiver nanos)) :
    (Lease.new (b.through before).face receiver nanos).through
      ((b.through before).undergo e) after ∈ b.census (before ++ e :: after) := by
  have opens : (b.through before).opens? e =
      some (Lease.new (b.through before).face receiver nanos) := by
    rw [opens?, asked]
    rfl
  rw [census_append, census, opens]
  exact List.mem_append_right _ (List.mem_append_left _ (List.mem_singleton_self _))

/-- Whether a subscription has a pulse is settled when it is made. -/
theorem Lease.isSome_due_next (b : Bench) (e : Episode) (l : Lease) :
    (l.next b e).due.isSome = l.due.isSome := by
  rw [next, due_called]
  if sends : b.sends? e = some l.id then
    rw [stirred_of_sends sends, ticked, Option.isSome_map]
  else
    rcases stirred_of_not_sends sends with same | turned
    · rw [same]
    · rw [turned]
      rfl

/-- Whether a lease has a pulse is settled when it is made. -/
theorem Lease.isSome_due_through (l : Lease) (b : Bench) (episodes : List Episode) :
    (l.through b episodes).due.isSome = l.due.isSome := by
  induction episodes generalizing l b with
  | nil => rfl
  | cons e more ih => exact (ih (l.next b e) (b.undergo e)).trans (isSome_due_next b e l)

/-- It has one if the timer ticks. -/
theorem Lease.isSome_due_new (f : Face) (receiver : Receiver) (nanos : Nat) :
    (Lease.new f receiver nanos).due.isSome = f.timer.isTicking := by
  unfold Lease.new
  cases f.timer.isTicking <;> rfl

/-- **A number is given up for good.** -/
theorem unsubscribe_eq_false {first rest : List Episode} {id : SubscriptionId}
    (asked : (fresh.through first).call? e = some (.unsubscribe id))
    (found : ((fresh.through first).timer.unsubscribe id).1 = true) :
    ((fresh.through (first ++ e :: rest)).timer.unsubscribe id).1 = false := by
  have covers := covers_census (first ++ e :: rest)
  obtain ⟨l, mem, rfl, -⟩ := ((covers_census first).unsubscribe_eq_true_iff
    (sound_through sound_fresh first)).1 found
  have ended : (l.through (fresh.through first) (e :: rest)).ended = true :=
    (Lease.ended_through ..).2 (.inr (.inl (mem_calls_cons.2 (.inl asked))))
  have later : l.through (fresh.through first) (e :: rest) ∈ fresh.census (first ++ e :: rest) := by
    rw [census_append]
    exact List.mem_append_left _ (List.mem_map_of_mem mem)
  refine Bool.eq_false_iff.2 fun again => ?_
  obtain ⟨m, known, same, stands⟩ :=
    (covers.unsubscribe_eq_true_iff (sound_through sound_fresh _)).1 again
  rw [← Lease.id_through l (fresh.through first) (e :: rest)] at same
  rw [List.inj_on_of_nodup_map covers.nodup known later same, Lease.stands, ended] at stands
  cases stands

/-- What was answered to somebody who ends a subscription inside a tick is recorded. -/
theorem results_tick {receiver : Receiver} {id : SubscriptionId}
    (inside : b.inside? receiver = some (.unsubscribe id)) :
    (b.tick receiver).results = b.results ++ [.unsubscribed (b.timer.unsubscribe id).1] := by
  obtain ⟨reaction, reacting, called⟩ := Option.bind_eq_some_iff.1 inside
  have unsubscribes : reaction = .unsubscribe id := by
    cases reaction with
    | unsubscribe other =>
      cases called
      rfl
    | _ => cases called
  rw [unsubscribes, reaction?] at reacting
  split at reacting
  · rename_i reacts
    obtain ⟨reactions, known, first⟩ := Option.bind_eq_some_iff.1 reacting
    obtain ⟨more, rfl⟩ := List.head?_eq_some_iff.1 first
    unfold tick
    dsimp only
    rw [if_pos reacts, known]
    rfl
  · cases reacting

/-- **Inside a tick the answer is the same.** -/
theorem results_undergo {place : Nat} {id : SubscriptionId}
    (asked : b.call? (.turn place) = some (.unsubscribe id)) :
    (b.undergo (.turn place)).results =
      b.results ++ [.unsubscribed (b.timer.unsubscribe id).1] := by
  obtain ⟨receiver, sent, inside⟩ := Option.bind_eq_some_iff.1 asked
  obtain ⟨pulse, here, target⟩ := Option.bind_eq_some_iff.1 sent
  have same := Source.unsubscribe_beat_of_tick target id
  unfold undergo
  dsimp only
  rw [here]
  dsimp only
  unfold poll
  unfold target? at target
  rw [show (b.leaveOut place).timer.beat (b.leaveOut place).nanos (b.leaveOut place).isAlive pulse =
    b.timer.beat b.nanos b.isAlive pulse from rfl]
  cases beat : b.timer.beat b.nanos b.isAlive pulse with
  | mk what timer =>
    rw [beat] at target same
    cases what with
    | tick other =>
      cases target
      have ticked := results_tick (b := { b.leaveOut place with timer }) inside
      exact ticked.trans (congrArg (fun found => b.results ++ [.unsubscribed found]) same)
    | _ => cases target

/-- **The subscriptions of a timer.** In an orderly run every subscription has its lease, under its
number; it has a pulse unless the timer was shut down before, and it is ended if it was given up by
its number or the timer was shut down since. Once everybody waits, the live subscriptions are
counted and the strays with them, and exactly their numbers can be given up; so the live
subscriptions are all there is if and only if there are no strays. At any moment, the numbers whose
lease stands can be given up, and none can be twice. -/
theorem subscriptions_of_run (episodes : List Episode) :
    let b := fresh.through episodes
    let leases := fresh.census episodes
    leases.map Lease.id = List.range' 1 b.timer.created ∧
    (∀ before e after receiver nanos, episodes = before ++ e :: after →
      (fresh.through before).call? e = some (.subscribe receiver nanos) →
      ∃ l ∈ leases, l.id = (fresh.through before).timer.created + 1 ∧ l.receiver = receiver ∧
        (l.due.isSome = true ↔ .shutDown ∉ fresh.calls before) ∧
        (l.ended = true ↔ .unsubscribe l.id ∈ ((fresh.through before).undergo e).calls after ∨
          .shutDown ∈ ((fresh.through before).undergo e).calls after)) ∧
    (b.loop.ready = [] →
      b.timer.counts = [leases.countP (Lease.isLive b.face) + leases.countP Lease.isStray] ∧
      (∀ id, (b.timer.unsubscribe id).1 = true ↔
        ∃ l ∈ leases, l.id = id ∧ (l.isLive b.face || l.isStray) = true) ∧
      (b.timer.counts = [leases.countP (Lease.isLive b.face)] ∧
          (∀ id, (b.timer.unsubscribe id).1 = true ↔
            ∃ l ∈ leases, l.id = id ∧ l.isLive b.face = true) ↔
        ∀ l ∈ leases, l.isStray = false)) ∧
    (∀ id, (b.timer.unsubscribe id).1 = true ↔ ∃ l ∈ leases, l.id = id ∧ l.stands = true) ∧
    ∀ first e rest id, episodes = first ++ e :: rest →
      (fresh.through first).call? e = some (.unsubscribe id) →
      ((fresh.through first).timer.unsubscribe id).1 = true →
      (b.timer.unsubscribe id).1 = false := by
  intro b leases
  have sound : b.face.Sound := sound_through sound_fresh episodes
  have covers : b.Covers leases := covers_census episodes
  refine ⟨covers.numbers, ?_, fun still => ?_, fun id => covers.unsubscribe_eq_true_iff sound, ?_⟩
  · rintro before e after receiver nanos rfl asked
    refine ⟨_, mem_census asked, Lease.id_through .., Lease.receiver_through .., ?_, ?_⟩
    · rw [Lease.isSome_due_through, Lease.isSome_due_new]
      exact (isTicking_through sound_fresh before).trans (and_iff_right rfl)
    · rw [Lease.ended_through, Lease.id_through]
      exact or_iff_right nofun
  · have counts : b.timer.counts =
        [leases.countP (Lease.isLive b.face) + leases.countP Lease.isStray] := by
      rw [covers.counts_eq sound, covers.countP_stands sound still]
    have numbers (id : SubscriptionId) : (b.timer.unsubscribe id).1 = true ↔
        ∃ l ∈ leases, l.id = id ∧ (l.isLive b.face || l.isStray) = true := by
      rw [covers.unsubscribe_eq_true_iff sound]
      refine exists_congr fun l => and_congr_right fun mem => ?_
      rw [covers.stands_eq sound still mem]
    refine ⟨counts, numbers, fun live l mem => ?_, fun none => ⟨?_, fun id => ?_⟩⟩
    · -- The count leaves no room for strays.
      rw [counts] at live
      have zero : leases.countP Lease.isStray = 0 :=
        Nat.add_eq_left.1 (List.head_eq_of_cons_eq live.1)
      exact Bool.eq_false_iff.2 (List.countP_eq_zero.1 zero l mem)
    · have zero : leases.countP Lease.isStray = 0 :=
        List.countP_eq_zero.2 fun l mem => Bool.eq_false_iff.1 (none l mem)
      rw [counts, zero, Nat.add_zero]
    · refine (numbers id).trans (exists_congr fun l => and_congr_right fun mem => ?_)
      rw [none l mem, Bool.or_false]
  · rintro first e rest id rfl asked found
    exact unsubscribe_eq_false asked found

/-- **A subscription that is made after the timer was shut down** is not live, and is counted. -/
theorem counts_of_stray :
    let episodes := [.command .shutDown rfl, .command (.subscribe "a" 10000000 []) rfl]
    let b := fresh.through episodes
    b.loop.ready = [] ∧ (fresh.census episodes).countP (Lease.isLive b.face) = 0 ∧
      b.timer.counts = [1] ∧ (b.timer.unsubscribe 1).1 = true := by
  decide

end Bench
end Timer
end HomeMedia
