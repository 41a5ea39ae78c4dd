import HomeMedia.Proofs.Timer.Subscriptions
/-!
# What the turns of pulses cost

A pulse that is late sends its ticks one after the other until it has caught up. Each tick moves the
next one on by at least an interval, and no interval is shorter than a millisecond (`Paced`), so the
bound on the turns of a pulse falls with every tick (`pulseEffort_beat_tick`), by as much as a tick
is said to cost. Nothing that is done to a timer makes the pulses of others need more turns.
-/

namespace HomeMedia
namespace Timer

namespace Interval

variable {Subscriber : Type} (t : Interval Subscriber)

/-- A new subscription is found behind the others. -/
theorem find?_subscribe (subscriber : Subscriber) (nanos : Nat) (id : SubscriptionId) :
    (t.subscribe subscriber nanos).2.find? id = (t.find? id).or
      (if t.created + 1 == id then
        some ⟨t.created + 1, subscriber, max nanos minInterval, none⟩ else none) := by
  unfold find? subscribe
  rw [List.find?_append, List.find?_singleton]

/-- A subscription that is not ended is still found. -/
theorem find?_erase_of_ne {id other : SubscriptionId} (differs : other ≠ id) :
    (t.erase id).find? other = t.find? other := by
  unfold find? erase
  rw [List.find?_filter]
  congr 1
  funext e
  by_cases same : e.id = other
  · simp [same, differs]
  · simp [same]

/-- What is taken from the table is not found. -/
theorem find?_erase_self (id : SubscriptionId) : (t.erase id).find? id = none := by
  simp [find?, erase]

/-- Setting a due time changes one entry. -/
theorem find?_setDue (id other : SubscriptionId) (due : Nat) :
    (t.setDue id due).find? other =
      (t.find? other).map fun e => if e.id == id then { e with due := some due } else e := by
  unfold find? setDue
  rw [List.find?_map]
  congr 2
  funext e
  rw [Function.comp_apply]
  split <;> rfl

/-- What is found under a number has it. -/
theorem id_of_find? {t : Interval Subscriber} {id : SubscriptionId} {e : Entry Subscriber}
    (found : t.find? id = some e) : e.id = id :=
  beq_iff_eq.1 (List.find?_some (p := fun e : Entry Subscriber => e.id == id) found)

/-- The entry is then found with that time. -/
theorem find?_setDue_self {t : Interval Subscriber} {id : SubscriptionId} {e : Entry Subscriber}
    (found : t.find? id = some e) (due : Nat) :
    (t.setDue id due).find? id = some { e with due := some due } := by
  rw [find?_setDue, found, Option.map_some, if_pos (beq_iff_eq.2 (id_of_find? found))]

/-- The others are found as before. -/
theorem find?_setDue_of_ne {id other : SubscriptionId} (differs : other ≠ id) (due : Nat) :
    (t.setDue id due).find? other = t.find? other := by
  rw [find?_setDue]
  cases found : t.find? other with
  | none => rfl
  | some e =>
    rw [Option.map_some, if_neg]
    rw [id_of_find? found]
    exact fun same => differs (beq_iff_eq.1 same)

/-- The tick after a tick is due an interval later, or later still. -/
theorem le_following (interval due now : Nat) : due + interval ≤ following interval due now := by
  unfold following
  split <;> omega

/-- The tick after one that was due is due an interval from now at most. -/
theorem following_le (interval : Nat) {due now : Nat} (late : due ≤ now) :
    following interval due now ≤ now + interval := by
  unfold following
  split <;> omega

end Interval

namespace Source

variable {Subscriber : Type}

/-- Whether a timer sends its ticks by itself. -/
def keepsTime : Source Subscriber → Bool
  | manual _ => false
  | interval _ => true

/-- Subscriptions have numbers of their own, and ticks that a timer sends by itself do not come too
fast. -/
structure Paced (t : Source Subscriber) : Prop extends Numbered t where
  /-- No interval is too short. -/
  long : t.keepsTime = true → ∀ s ∈ t.subs, minInterval ≤ s.interval

namespace Paced

variable {t u : Source Subscriber}

/-- A timer with fewer subscriptions is as paced as one with more. -/
theorem of_sublist (paced : Paced t) (subs : u.subs.Sublist t.subs)
    (created : u.created = t.created) (kind : u.keepsTime = t.keepsTime) : Paced u where
  toNumbered := paced.toNumbered.of_sublist subs created
  long keeps s hs := paced.long (kind ▸ keeps) s (subs.subset hs)

/-- Intervals that are too short are lengthened, so a new subscription is paced. -/
theorem subscribe (paced : Paced t) (subscriber : Subscriber) (nanos : Nat) :
    Paced (t.subscribe subscriber nanos).2 where
  toNumbered := paced.toNumbered.subscribe subscriber nanos
  long keeps s hs := by
    rw [subs_subscribe] at hs
    cases t with
    | manual t => cases keeps
    | interval t =>
      rcases List.mem_append.1 hs with old | new
      · exact paced.long rfl s old
      · rw [List.mem_singleton.1 new]
        exact Nat.le_max_right ..

/-- Ending one leaves the timer paced. -/
theorem unsubscribe (paced : Paced t) (id : SubscriptionId) : Paced (t.unsubscribe id).2 :=
  paced.of_sublist (by rw [subs_unsubscribe]; exact List.filter_sublist) (created_unsubscribe t id)
    (by cases t <;> rfl)

/-- So does the turn of a pulse. -/
theorem beat (paced : Paced t) (now : Nat) (isAlive : Subscriber → Bool) (id : SubscriptionId) :
    Paced (t.beat now isAlive id).2 := by
  refine paced.of_sublist ?_ (created_beat ..) (by cases t <;> rfl)
  rcases subs_beat t now isAlive id with same | ⟨_, _, _, _, taken⟩
  · rw [same]
  · rw [taken]
    exact List.filter_sublist

/-- So does the end of the timer. -/
theorem shutDown (paced : Paced t) : Paced t.shutDown := by
  cases t with
  | manual t => exact paced
  | interval t => exact paced.of_sublist (List.nil_sublist _) rfl rfl

end Paced

/-! ## The subscription that a pulse belongs to -/

/-- Whether a timer keeps time and was not shut down, so that new subscriptions get a pulse. -/
def isTicking : Source Subscriber → Bool
  | manual _ => false
  | interval t => !t.isShutDown

/-- The subscription that a pulse belongs to. -/
def row? (id : SubscriptionId) : Source Subscriber → Option (Interval.Entry Subscriber)
  | manual _ => none
  | interval t => t.find? id

section Entries

variable {t : Source Subscriber} {id : SubscriptionId} {e : Interval.Entry Subscriber}

/-- A timer ticks on when somebody subscribes. -/
theorem isTicking_subscribe (subscriber : Subscriber) (nanos : Nat) :
    (t.subscribe subscriber nanos).2.isTicking = t.isTicking := by
  cases t <;> rfl

/-- A subscription gets a pulse if the timer ticks. -/
theorem hasPulse_subscribe (subscriber : Subscriber) (nanos : Nat) :
    (t.subscribe subscriber nanos).1.hasPulse = t.isTicking := by
  cases t <;> rfl

/-- A timer ticks on when a subscription ends. -/
theorem isTicking_unsubscribe (id : SubscriptionId) :
    (t.unsubscribe id).2.isTicking = t.isTicking := by
  cases t <;> rfl

/-- It ticks on when a pulse has its turn. -/
theorem isTicking_beat (now : Nat) (isAlive : Subscriber → Bool) (id : SubscriptionId) :
    (t.beat now isAlive id).2.isTicking = t.isTicking := by
  cases t with
  | manual t => rfl
  | interval t =>
    simp only [beat, Interval.beat]
    split
    · rfl
    · split
      · rfl
      · split_ifs <;> rfl

/-- The row of a subscription has its number. -/
theorem id_of_row? (found : t.row? id = some e) : e.id = id := by
  cases t with
  | manual t => cases found
  | interval t => exact Interval.id_of_find? found

/-- A number that is still to come is nobody's. -/
theorem row?_new (numbered : Numbered t) : t.row? (t.created + 1) = none := by
  cases t with
  | manual t => rfl
  | interval t =>
    refine List.find?_eq_none.2 fun e he same => ?_
    have known := numbered.le_created _ (List.mem_map_of_mem he)
    rw [beq_iff_eq.1 same] at known
    exact Nat.not_succ_le_self _ known

/-- **A new subscription**, whose pulse has not started yet. -/
theorem row?_subscribe_new (ticks : t.isTicking = true) (numbered : Numbered t)
    (subscriber : Subscriber) (nanos : Nat) :
    (t.subscribe subscriber nanos).2.row? (t.created + 1) =
      some ⟨t.created + 1, subscriber, max nanos minInterval, none⟩ := by
  have absent := row?_new numbered
  cases t with
  | manual t => cases ticks
  | interval t =>
    have found := Interval.find?_subscribe t subscriber nanos (t.created + 1)
    rw [show t.find? (t.created + 1) = none from absent, Option.none_or,
      if_pos (beq_self_eq_true _)] at found
    exact found

/-- A row stays when somebody subscribes. -/
theorem row?_subscribe (found : t.row? id = some e) (subscriber : Subscriber) (nanos : Nat) :
    (t.subscribe subscriber nanos).2.row? id = some e := by
  cases t with
  | manual t => cases found
  | interval t =>
    refine (Interval.find?_subscribe t subscriber nanos id).trans ?_
    rw [show t.find? id = some e from found]
    rfl

/-- It stays when another subscription ends. -/
theorem row?_unsubscribe {other : SubscriptionId} (differs : id ≠ other) :
    (t.unsubscribe other).2.row? id = t.row? id := by
  cases t with
  | manual t => rfl
  | interval t => exact Interval.find?_erase_of_ne t differs

/-- It stays when another pulse has its turn. -/
theorem row?_beat {other : SubscriptionId} (differs : id ≠ other) (now : Nat)
    (isAlive : Subscriber → Bool) : (t.beat now isAlive other).2.row? id = t.row? id := by
  cases t with
  | manual t => rfl
  | interval t =>
    simp only [beat, Interval.beat]
    split
    · rfl
    · split
      · exact Interval.find?_setDue_of_ne t differs _
      · split_ifs
        · rfl
        · exact Interval.find?_erase_of_ne t differs
        · exact Interval.find?_setDue_of_ne t differs _

/-- A timer that keeps time has an entry for each of its subscriptions. -/
theorem exists_row? (ticks : t.isTicking = true) (numbered : Numbered t)
    {s : Subscription Subscriber} (hs : s ∈ t.subs) :
    ∃ due, t.row? s.id = some ⟨s.id, s.subscriber, s.interval, due⟩ := by
  cases t with
  | manual t => cases ticks
  | interval t =>
    obtain ⟨e, he, rfl⟩ := List.mem_map.1 hs
    refine ⟨e.due, ?_⟩
    cases found : t.find? e.id with
    | none => exact absurd (beq_self_eq_true e.id) (List.find?_eq_none.1 found e he)
    | some other =>
      -- The numbers differ, so nobody else is found.
      have nodup : (t.entries.map Interval.Entry.id).Nodup := by
        have nodup := numbered.nodup
        rwa [subs, List.map_map] at nodup
      rw [List.inj_on_of_nodup_map nodup (List.mem_of_find?_eq_some found) he
        (Interval.id_of_find? found)] at found
      exact found

/-- **What a pulse does** whose subscriber is there: it starts, it waits, or it sends a tick and
settles when the next one is due. -/
theorem beat_cases (found : t.row? id = some e) (now : Nat) {isAlive : Subscriber → Bool}
    (alive : isAlive e.subscriber = true) :
    (e.due = none ∧ (t.beat now isAlive id).1 = .rest (Interval.milliOf (now + e.interval)) ∧
        (t.beat now isAlive id).2.row? id = some { e with due := some (now + e.interval) }) ∨
      (∃ due, e.due = some due ∧ t.beat now isAlive id = (.rest (Interval.milliOf due), t)) ∨
      ∃ due, e.due = some due ∧ due ≤ now ∧ (t.beat now isAlive id).1 = .tick e.subscriber ∧
        (t.beat now isAlive id).2.row? id =
          some { e with due := some (Interval.following e.interval due now) } := by
  cases t with
  | manual t => cases found
  | interval t =>
    have found : t.find? id = some e := found
    simp only [beat, Interval.beat, found]
    cases started : e.due with
    | none => exact .inl ⟨rfl, rfl, Interval.find?_setDue_self found _⟩
    | some due =>
      refine .inr ?_
      dsimp only
      split_ifs with early gone
      · exact .inl ⟨due, rfl, rfl⟩
      · exact absurd alive (by simpa using gone)
      · exact .inr ⟨due, rfl, Nat.le_of_not_lt early, rfl, Interval.find?_setDue_self found _⟩

end Entries

/-! ## Effort -/

variable {t : Source Subscriber} {cost now : Nat}

/-- Every turn of a pulse is some effort. -/
theorem one_le_pulseEffort (t : Source Subscriber) (cost now : Nat) (id : SubscriptionId) :
    1 ≤ t.pulseEffort cost now id := by
  unfold pulseEffort
  split
  · exact Nat.le_refl 1
  · split
    · exact Nat.le_refl 1
    · split
      · exact Nat.le_refl 1
      · split
        · exact Nat.le_refl 1
        · exact Nat.le_add_right ..

/-- The pulse of a new subscription starts and waits. -/
theorem pulseEffort_subscribe_new (numbered : Numbered t) (subscriber : Subscriber) (nanos : Nat) :
    (t.subscribe subscriber nanos).2.pulseEffort cost now (t.created + 1) = 1 := by
  cases t with
  | manual t => rfl
  | interval t =>
    have absent : t.find? (t.created + 1) = none := row?_new numbered
    simp only [Source.subscribe, pulseEffort, created, Interval.find?_subscribe, absent,
      Option.none_or, beq_self_eq_true, if_true]

/-- No pulse has more to do when somebody subscribes. -/
theorem pulseEffort_subscribe (subscriber : Subscriber) (nanos : Nat) (id : SubscriptionId) :
    (t.subscribe subscriber nanos).2.pulseEffort cost now id ≤ t.pulseEffort cost now id := by
  cases t with
  | manual t => exact Nat.le_refl _
  | interval t =>
    simp only [Source.subscribe, pulseEffort, Interval.find?_subscribe]
    cases found : t.find? id with
    | some e => exact Nat.le_refl _
    | none =>
      rw [Option.none_or]
      cases t.created + 1 == id <;> exact Nat.le_refl 1

/-- Neither has it when an entry is taken out. -/
theorem pulseEffort_erase (t : Interval Subscriber) (gone id : SubscriptionId) :
    (interval (t.erase gone)).pulseEffort cost now id ≤ (interval t).pulseEffort cost now id := by
  by_cases same : id = gone
  · subst same
    rw [pulseEffort, Interval.find?_erase_self]
    exact one_le_pulseEffort (interval t) cost now id
  · rw [pulseEffort, Interval.find?_erase_of_ne t same]
    exact Nat.le_refl _

/-- Neither has it when a subscription ends. -/
theorem pulseEffort_unsubscribe (gone id : SubscriptionId) :
    (t.unsubscribe gone).2.pulseEffort cost now id ≤ t.pulseEffort cost now id := by
  cases t with
  | manual t => exact Nat.le_refl _
  | interval t => exact pulseEffort_erase t gone id

/-- A pulse that waits for its next tick needs one turn, and the others as many as before. -/
theorem pulseEffort_setDue {t : Interval Subscriber} {id : SubscriptionId}
    {e : Interval.Entry Subscriber} (found : t.find? id = some e) {due : Nat} {n : Nat}
    (own : (if now < due then 1 else 1 + (1 + (now - due) / Duration.milli) * cost) ≤ n)
    (before : n ≤ (interval t).pulseEffort cost now id) (other : SubscriptionId) :
    (interval (t.setDue id due)).pulseEffort cost now other ≤
      (interval t).pulseEffort cost now other := by
  by_cases same : other = id
  · subst same
    refine Nat.le_trans ?_ before
    rw [pulseEffort, Interval.find?_setDue_self found]
    exact own
  · rw [pulseEffort, Interval.find?_setDue_of_ne t same]
    exact Nat.le_refl _

/-- Ticks that come later need fewer turns. -/
theorem turns_le {due next : Nat} (cost : Nat) (later : due + Duration.milli ≤ next)
    (late : ¬ now < due) :
    (if now < next then 1 else 1 + (1 + (now - next) / Duration.milli) * cost) + cost ≤
      1 + (1 + (now - due) / Duration.milli) * cost := by
  have milli : 0 < Duration.milli := by decide
  split
  · have := Nat.le_mul_of_pos_left cost
      (Nat.add_pos_left Nat.one_pos ((now - due) / Duration.milli))
    omega
  · have caught : (now - next) / Duration.milli + 1 ≤ (now - due) / Duration.milli := by
      rw [← Nat.add_div_right _ milli]
      exact Nat.div_le_div_right (by omega)
    have := Nat.mul_le_mul_right cost (Nat.add_le_add_left caught 1)
    rw [← Nat.add_assoc, Nat.add_mul (1 + _) 1, Nat.one_mul] at this
    omega

/-- In a timer that is paced no interval is too short. -/
theorem long_of_find? {t : Interval Subscriber} (paced : Paced (interval t)) {id : SubscriptionId}
    {e : Interval.Entry Subscriber} (found : t.find? id = some e) : minInterval ≤ e.interval :=
  paced.long rfl ⟨e.id, e.subscriber, e.interval⟩
    (List.mem_map_of_mem (List.mem_of_find?_eq_some found))

/-- **A turn of a pulse leaves no pulse more to do.** -/
theorem pulseEffort_beat (paced : Paced t) (isAlive : Subscriber → Bool)
    (id other : SubscriptionId) :
    (t.beat now isAlive id).2.pulseEffort cost now other ≤ t.pulseEffort cost now other := by
  cases t with
  | manual t => exact Nat.le_refl _
  | interval t =>
    simp only [Source.beat, Interval.beat]
    split
    · exact Nat.le_refl _
    · rename_i e found
      have long := long_of_find? paced found
      split
      · have first : now < now + e.interval :=
          Nat.lt_add_of_pos_right (Nat.lt_of_lt_of_le (by decide) long)
        exact pulseEffort_setDue found (Nat.le_of_eq (if_pos first)) (one_le_pulseEffort ..) other
      · rename_i due started
        split_ifs with early gone
        · exact Nat.le_refl _
        · exact pulseEffort_erase t id other
        · have later := Nat.le_trans (Nat.add_le_add_left long due)
            (Interval.le_following e.interval due now)
          refine pulseEffort_setDue found
            (Nat.le_trans (Nat.le_add_right _ cost) (turns_le cost later early)) ?_ other
          simp only [pulseEffort, found, started, if_neg early]
          exact Nat.le_refl _

/-- **A tick pays for what it costs.** -/
theorem pulseEffort_beat_tick (paced : Paced t) (isAlive : Subscriber → Bool) (id : SubscriptionId)
    {subscriber : Subscriber} (ticks : (t.beat now isAlive id).1 = .tick subscriber) :
    (t.beat now isAlive id).2.pulseEffort cost now id + cost ≤ t.pulseEffort cost now id := by
  cases t with
  | manual t => cases ticks
  | interval t =>
    simp only [Source.beat, Interval.beat] at ticks ⊢
    cases found : t.find? id with
    | none => simp [found] at ticks
    | some e =>
      have long := long_of_find? paced found
      cases started : e.due with
      | none => simp [found, started] at ticks
      | some due =>
        simp only [found, started] at ticks ⊢
        split_ifs at ticks ⊢ with early gone
        simp only [pulseEffort, Interval.find?_setDue_self found, found, started, if_neg early]
        exact turns_le cost (Nat.le_trans (Nat.add_le_add_left long due)
          (Interval.le_following e.interval due now)) early

end Source
end Timer
end HomeMedia
