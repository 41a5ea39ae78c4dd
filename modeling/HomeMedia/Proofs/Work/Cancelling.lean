import HomeMedia.Proofs.Work.Order
/-!
# Which tasks are cancelled

Cancelling by a number looks once at the current task and at those that wait. It reaches the task of
that number and the tasks that name it as their parent, no others, and not those that are added
later. So a task that waits is invalid iff it may be cancelled and, since it was added, a cancelling
was reported of its own number or of its parent's (`invalid_iff_named`). The current task is invalid
in that case as well; besides, it may have set its own token.

What the parent's own token says plays no part. A task that is added for a parent that has been
cancelled already is valid, and so is the child of a child of the task that was cancelled
(`children_stay_valid`).

The changes of a ledger fall into three: a task is added, tasks are cancelled by a number, and those
that are quiet: they report no cancelling and leave the tasks that wait as they are (`Ledger.Quiet`,
`Ledger.Step.cases_quiet`).
-/

namespace HomeMedia

/-- What was reported since a task was added. -/
def Event.since (id : Task.Id) : List Event → List Event
  | [] => []
  | event :: events =>
    if event.queued?.map Task.Tag.id = some id then events else since id events

namespace Event

variable {id : Task.Id} {events : List Event}

/-- Once a task has been added, what is reported next is reported since then. -/
theorem since_append (queued : id ∈ (events.filterMap queued?).map Task.Tag.id)
    (more : List Event) : since id (events ++ more) = since id events ++ more := by
  induction events with
  | nil => cases queued
  | cons event events ih =>
    rw [List.cons_append, since, since]
    split
    · rfl
    · rename_i other
      refine ih ?_
      cases tag : event.queued? with
      | none => rwa [List.filterMap_cons_none tag] at queued
      | some t =>
        rw [List.filterMap_cons_some tag, List.map_cons] at queued
        refine (List.mem_cons.1 queued).resolve_left fun same => other ?_
        rw [tag, same]
        rfl

/-- When a task is added nothing has been reported since. -/
theorem since_concat (fresh : id ∉ (events.filterMap queued?).map Task.Tag.id) (kind : Task.Kind)
    (description : String) : since id (events ++ [.taskQueued id kind description]) = [] := by
  induction events with
  | nil => simp [since, queued?]
  | cons event events ih =>
    rw [List.cons_append, since]
    cases tag : event.queued? with
    | none =>
      rw [List.filterMap_cons_none tag] at fresh
      exact (if_neg nofun).trans (ih fresh)
    | some t =>
      rw [List.filterMap_cons_some tag, List.map_cons, List.mem_cons, not_or] at fresh
      exact (if_neg fun same => fresh.1 (Option.some.inj same).symm).trans (ih fresh.2)

/-- What was reported of tasks since then is what was reported since then, of tasks. -/
theorem since_filter_ofTask (id : Task.Id) (events : List Event) :
    since id (events.filter Event.ofTask) = (since id events).filter Event.ofTask := by
  induction events with
  | nil => rfl
  | cons event events ih =>
    rw [List.filter_cons, since]
    cases counts : event.ofTask with
    | true =>
      rw [if_pos rfl, since]
      split
      · rfl
      · exact ih
    | false =>
      have other : event.queued? = none := by
        cases event <;> first | rfl | cases counts
      rw [if_neg nofun, other, if_neg nofun]
      exact ih

end Event

namespace Work.Entry

variable {e old : Work.Entry} {events : List Event}

/-- Cancelling by a number is about a task: it is the task's own number or its parent's. -/
def IsFor (id : Task.Id) (e : Work.Entry) : Prop := e.id = id ∨ e.parent = some id

/-- Since a task was added, a cancelling was reported that is about it. -/
def IsNamed (events : List Event) (e : Work.Entry) : Prop :=
  ∃ id count, .tasksInvalidated id count ∈ Event.since e.id events ∧ e.IsFor id

/-- Nothing may have become of a task but that its token was set. -/
def Ages (old e : Work.Entry) : Prop := e = old ∨ e = { old with valid := false }

/-- A cancelling hits a task that it is about, that may be cancelled, and that is still valid. -/
theorem isHit_iff {id : Task.Id} :
    e.isHit id = true ↔ e.IsFor id ∧ e.cancellable = true ∧ e.valid = true := by
  simp [isHit, IsFor, and_assoc]

/-- A task that is hit is invalid. -/
theorem hit_of_isHit {id : Task.Id} (isHit : e.isHit id = true) :
    e.hit id = { e with valid := false } := if_pos isHit

/-- Any other is spared. -/
theorem hit_of_not_isHit {id : Task.Id} (spared : ¬e.isHit id = true) : e.hit id = e :=
  if_neg spared

/-- A cancelling sets a token, or does nothing. -/
theorem ages_hit (id : Task.Id) (e : Work.Entry) : e.Ages (e.hit id) := by
  if isHit : e.isHit id = true then exact .inr (hit_of_isHit isHit)
  else exact .inl (hit_of_not_isHit isHit)

/-- **A cancelling leaves no task valid** that it is about and that may be cancelled. -/
theorem valid_hit {id : Task.Id} (about : e.IsFor id) (cancellable : e.cancellable = true) :
    (e.hit id).valid = false := by
  if isHit : e.isHit id = true then rw [hit_of_isHit isHit]
  else
    rw [hit_of_not_isHit isHit]
    exact Bool.eq_false_iff.2 fun valid => isHit (isHit_iff.2 ⟨about, cancellable, valid⟩)

namespace Ages

/-- A task keeps its number. -/
theorem id (ages : Ages old e) : e.id = old.id := by rcases ages with rfl | rfl <;> rfl

/-- What it is the child of stays. -/
theorem isFor (ages : Ages old e) {n : Task.Id} : e.IsFor n ↔ old.IsFor n := by
  rcases ages with rfl | rfl <;> rfl

/-- So does what was reported about it. -/
theorem isNamed (ages : Ages old e) : e.IsNamed events ↔ old.IsNamed events := by
  rcases ages with rfl | rfl <;> rfl

/-- So does whether it may be cancelled. -/
theorem cancellable (ages : Ages old e) : e.cancellable = old.cancellable := by
  rcases ages with rfl | rfl <;> rfl

/-- **No token is taken back.** -/
theorem invalid (ages : Ages old e) (invalid : old.valid = false) : e.valid = false := by
  rcases ages with rfl | rfl
  · exact invalid
  · rfl

end Ages

/-- A cancelling is about a task if one before was, or one of the new ones is. -/
theorem isNamed_append (queued : e.id ∈ (events.filterMap Event.queued?).map Task.Tag.id)
    (more : List Event) : e.IsNamed (events ++ more) ↔ e.IsNamed events ∨
      ∃ id count, .tasksInvalidated id count ∈ more ∧ e.IsFor id := by
  simp only [IsNamed, Event.since_append queued, List.mem_append, or_and_right, exists_or]

/-- Other reports do not count. -/
theorem isNamed_append_of_silent {more : List Event}
    (queued : e.id ∈ (events.filterMap Event.queued?).map Task.Tag.id)
    (silent : ∀ id count, .tasksInvalidated id count ∉ more) :
    e.IsNamed (events ++ more) ↔ e.IsNamed events := by
  rw [isNamed_append queued]
  exact or_iff_left fun ⟨id, count, reported, _⟩ => silent id count reported

/-- Only what is reported of tasks matters to that. -/
theorem isNamed_filter_ofTask : e.IsNamed (events.filter Event.ofTask) ↔ e.IsNamed events := by
  simp only [IsNamed, Event.since_filter_ofTask, List.mem_filter, Event.ofTask, and_true]

end Work.Entry

/-- A task that is there runs or waits. -/
theorem Work.mem_entries {e : Entry} {w : Work} :
    e ∈ w.entries ↔ w.current = some e ∨ e ∈ w.queue := by
  rw [entries, List.mem_append, Option.mem_toList]

/-- After a cancelling, the tasks that are there are the ones from before, those hit that it is
about. -/
theorem Work.exists_of_mem_entries_invalidate {e : Entry} {id : Task.Id} {w : Work}
    (mem : e ∈ (w.invalidate id).2.entries) : ∃ old ∈ w.entries, e = old.hit id := by
  rcases mem_entries.1 mem with current | waiting
  · obtain ⟨old, before, rfl⟩ := Option.map_eq_some_iff.1 current
    exact ⟨old, mem_entries.2 (.inl before), rfl⟩
  · obtain ⟨old, before, rfl⟩ := List.mem_map.1 waiting
    exact ⟨old, mem_entries.2 (.inr before), rfl⟩

/-- A cancelling is reported if it hit a task, with how many it hit. -/
theorem Work.mem_cancellings {n id : Task.Id} {count : Nat} {w : Work} :
    .tasksInvalidated n count ∈ w.cancellings id ↔
      n = id ∧ count = (w.invalidate id).1 ∧ count ≠ 0 := by
  unfold cancellings
  split
  · rename_i nobody
    rw [nobody]
    simp
  · rename_i somebody
    simp only [List.mem_singleton, Event.tasksInvalidated.injEq]
    exact and_congr_right fun _ => ⟨fun same => ⟨same, same ▸ somebody⟩, And.left⟩

/-- Whoever is hit is counted. -/
theorem Work.count_ne_zero {e : Entry} {id : Task.Id} {w : Work} (mem : e ∈ w.entries)
    (isHit : e.isHit id = true) : (w.invalidate id).1 ≠ 0 :=
  List.length_pos_iff.2 (List.ne_nil_of_mem (List.mem_filter.2 ⟨mem, isHit⟩)) |>.ne'

namespace Ledger

variable {l m : Ledger}

/-- A change of a ledger that reports no cancelling, adds no task and leaves those that wait as they
are. It may set the token of the current task. -/
structure Quiet (l m : Ledger) : Prop where
  /-- No task is added. -/
  added : m.work.added = l.work.added
  /-- Who waits has waited before. -/
  queue : m.work.queue ⊆ l.work.queue
  /-- The tasks were there before. -/
  entries : ∀ e ∈ m.work.entries, ∃ old ∈ l.work.entries, old.Ages e
  /-- No cancelling is reported. -/
  events : ∃ more, m.events = l.events ++ more ∧ ∀ id count, .tasksInvalidated id count ∉ more

/-- Nothing is different about the tasks. -/
theorem Quiet.of_same (queue : m.work.queue = l.work.queue)
    (current : m.work.current = l.work.current) (added : m.work.added = l.work.added)
    (events : m.events = l.events) : Quiet l m where
  added := added
  queue := by rw [queue]; exact List.Subset.refl _
  entries e mem := by
    rw [Work.mem_entries, current, queue, ← Work.mem_entries] at mem
    exact ⟨e, mem, .inl rfl⟩
  events := ⟨[], by rw [events, List.append_nil], fun _ _ => List.not_mem_nil⟩

/-- **What a change can do to the tasks.** -/
theorem Step.cases_quiet (change : Step l m) :
    (∃ task parent, m = ⟨(l.work.enqueue task parent).2,
      l.events ++ [.taskQueued (l.work.added + 1) task.kind task.description]⟩) ∨
    (∃ id, m = ⟨(l.work.invalidate id).2, l.events ++ l.work.cancellings id⟩) ∨ Quiet l m := by
  cases change with
  | add task parent => exact .inl ⟨task, parent, rfl⟩
  | invalidate id => exact .inr (.inl ⟨id, rfl⟩)
  | notify =>
    have same := Work.notify_eq l.work
    exact .inr (.inr (.of_same (by rw [same]) (by rw [same]) (by rw [same]) rfl))
  | interrupt =>
    refine .inr (.inr ⟨rfl, List.Subset.refl _, fun e mem => ?_,
      [], (List.append_nil _).symm, fun _ _ => List.not_mem_nil⟩)
    rcases Work.mem_entries.1 mem with current | waiting
    · obtain ⟨old, before, rfl⟩ := Option.map_eq_some_iff.1 current
      exact ⟨old, Work.mem_entries.2 (.inl before), .inr rfl⟩
    · exact ⟨e, Work.mem_entries.2 (.inr waiting), .inl rfl⟩
  | @take first queue looking waiting =>
    refine .inr (.inr ⟨rfl, ?_, fun e mem => ⟨e, ?_, .inl rfl⟩,
      _, rfl, fun _ _ mem => by cases List.mem_singleton.1 mem⟩)
    · rw [waiting]
      exact List.subset_cons_self _ _
    · rw [Work.mem_entries, waiting, List.mem_cons]
      rcases Work.mem_entries.1 mem with current | later
      · exact .inr (.inl (Option.some.inj current).symm)
      · exact .inr (.inr later)
  | finish busy current outcome =>
    refine .inr (.inr ⟨rfl, List.Subset.refl _, fun e mem => ⟨e, mem, .inl rfl⟩,
      _, rfl, fun _ _ mem => ?_⟩)
    have same := List.mem_singleton.1 mem
    cases outcome <;> cases same
  | putAway ended inUse =>
    refine .inr (.inr ⟨rfl, List.Subset.refl _, fun e mem => ⟨e, ?_, .inl rfl⟩,
      [], (List.append_nil _).symm, fun _ _ => List.not_mem_nil⟩)
    refine Work.mem_entries.2 ((Work.mem_entries.1 mem).imp_left fun current => ?_)
    cases inUse with
    | true => cases current
    | false => exact current
  | _ => exact .inr (.inr (.of_same rfl rfl rfl rfl))

namespace Ordered

/-- Whatever is there was added. -/
theorem mem_queued (o : Ordered l) {e : Work.Entry} (mem : e ∈ l.work.entries) :
    e.id ∈ l.queued.map Task.Tag.id := by
  refine List.mem_map.2 ⟨e.tag, ?_, rfl⟩
  rw [o.waiting, List.mem_append]
  rcases Work.mem_entries.1 mem with current | waiting
  · have last := o.current e.tag (congrArg (Option.map Work.Entry.tag) current)
    exact .inl (List.mem_of_getLast? last)
  · exact .inr (List.mem_map_of_mem waiting)

/-- The next number is new. -/
theorem not_mem_queued (o : Ordered l) : l.work.added + 1 ∉ l.queued.map Task.Tag.id := by
  rw [o.numbered, List.mem_range'_1]
  omega

end Ordered

/-! ## Why tasks are invalid -/

/-- The tokens of the tasks and what was reported go together. -/
structure Accounted (l : Ledger) : Prop where
  /-- A task that may be cancelled is invalid, if that was reported. -/
  reached : ∀ e ∈ l.work.entries, e.cancellable = true → e.IsNamed l.events → e.valid = false
  /-- Who waits is invalid for no other reason. -/
  cause : ∀ e ∈ l.work.queue, e.valid = false → e.cancellable = true ∧ e.IsNamed l.events

namespace Accounted

/-- A quiet change keeps the account. -/
theorem quiet (a : Accounted l) (o : Ordered l) (q : Quiet l m) : Accounted m := by
  obtain ⟨more, events, silent⟩ := q.events
  have same : ∀ {e : Work.Entry}, e ∈ l.work.entries →
      (e.IsNamed m.events ↔ e.IsNamed l.events) := fun mem =>
    events ▸ Work.Entry.isNamed_append_of_silent (o.mem_queued mem) silent
  refine ⟨fun e mem cancellable named => ?_, fun e waiting invalid => ?_⟩
  · obtain ⟨old, before, ages⟩ := q.entries e mem
    have named := (same before).1 (ages.isNamed.1 named)
    exact ages.invalid (a.reached old before (ages.cancellable ▸ cancellable) named)
  · have before := q.queue waiting
    rw [same (Work.mem_entries.2 (.inr before))]
    exact a.cause e before invalid

/-- A task that is added has been named by nobody yet. -/
theorem add (a : Accounted l) (o : Ordered l) (task : Task) (parent : Option Task.Id) :
    Accounted ⟨(l.work.enqueue task parent).2,
      l.events ++ [.taskQueued (l.work.added + 1) task.kind task.description]⟩ := by
  have same : ∀ {e : Work.Entry}, e ∈ l.work.entries →
      (e.IsNamed (l.events ++ [.taskQueued (l.work.added + 1) task.kind task.description]) ↔
        e.IsNamed l.events) := fun mem =>
    Work.Entry.isNamed_append_of_silent (o.mem_queued mem) fun _ _ reported => by
      cases List.mem_singleton.1 reported
  refine ⟨fun e mem cancellable named => ?_, fun e waiting invalid => ?_⟩
  · -- The new task has the next number, so nothing was reported since it was added.
    rcases (Work.mem_entries.1 mem).imp_right List.mem_append.1 with current | waiting | new
    · have before : e ∈ l.work.entries := Work.mem_entries.2 (.inl current)
      exact a.reached e before cancellable ((same before).1 named)
    · have before : e ∈ l.work.entries := Work.mem_entries.2 (.inr waiting)
      exact a.reached e before cancellable ((same before).1 named)
    · obtain ⟨id, count, reported, -⟩ := named
      rw [List.mem_singleton.1 new] at reported
      exact absurd (Event.since_concat o.not_mem_queued .. ▸ reported) List.not_mem_nil
  · rcases List.mem_append.1 waiting with before | new
    · rw [same (Work.mem_entries.2 (.inr before))]
      exact a.cause e before invalid
    · rw [List.mem_singleton.1 new] at invalid
      cases invalid

/-- A cancelling keeps the account, as it reports what it hits. -/
theorem invalidate (a : Accounted l) (o : Ordered l) (id : Task.Id) :
    Accounted ⟨(l.work.invalidate id).2, l.events ++ l.work.cancellings id⟩ := by
  refine ⟨fun e mem cancellable named => ?_, fun e waiting invalid => ?_⟩
  · obtain ⟨old, before, rfl⟩ := Work.exists_of_mem_entries_invalidate mem
    have ages := Work.Entry.ages_hit id old
    rw [ages.cancellable] at cancellable
    rw [ages.isNamed, Work.Entry.isNamed_append (o.mem_queued before)] at named
    rcases named with earlier | ⟨n, count, reported, about⟩
    · exact ages.invalid (a.reached old before cancellable earlier)
    · obtain ⟨rfl, -, -⟩ := Work.mem_cancellings.1 reported
      exact Work.Entry.valid_hit about cancellable
  · obtain ⟨old, before, rfl⟩ := List.mem_map.1 waiting
    have among := Work.mem_entries.2 (.inr before)
    have ages := Work.Entry.ages_hit id old
    rw [ages.cancellable, ages.isNamed, Work.Entry.isNamed_append (o.mem_queued among)]
    if isHit : old.isHit id = true then
      obtain ⟨about, cancellable, -⟩ := Work.Entry.isHit_iff.1 isHit
      exact ⟨cancellable, .inr ⟨id, _,
        Work.mem_cancellings.2 ⟨rfl, rfl, Work.count_ne_zero among isHit⟩, about⟩⟩
    else
      rw [Work.Entry.hit_of_not_isHit isHit] at invalid
      exact (a.cause old before invalid).imp_right .inl

/-- **No change of a ledger sets a token for another reason.** -/
theorem step (a : Accounted l) (o : Ordered l) (change : Step l m) : Accounted m := by
  rcases change.cases_quiet with ⟨task, parent, rfl⟩ | ⟨id, rfl⟩ | q
  · exact a.add o task parent
  · exact a.invalidate o id
  · exact a.quiet o q

/-- **So do any changes of a ledger.** -/
theorem steps (a : Accounted l) (o : Ordered l) (changes : Steps l m) : Accounted m := by
  induction changes with
  | refl => exact a
  | tail before change ih => exact ih.step (o.steps before) change

end Accounted

/-! ## What becomes of the tasks that are there -/

/-- So many tasks have been added, and those of them that are still there are so. -/
structure Lasting (first : Nat) (Q : Work.Entry → Prop) (l : Ledger) : Prop where
  /-- So many have been added. -/
  added : first ≤ l.work.added
  /-- They are so. -/
  holds : ∀ e ∈ l.work.entries, e.id ≤ first → Q e

/-- **What is true of tasks whether their token is set or not lasts.**  Who is added later has a
later number. -/
theorem Lasting.step {first : Nat} {Q : Work.Entry → Prop}
    (stable : ∀ old e : Work.Entry, old.Ages e → Q old → Q e) (lasting : Lasting first Q l)
    (change : Step l m) : Lasting first Q m := by
  have aged : ∀ {old e : Work.Entry}, old ∈ l.work.entries → old.Ages e → e.id ≤ first → Q e :=
    fun before ages early => stable _ _ ages (lasting.holds _ before (ages.id ▸ early))
  rcases change.cases_quiet with ⟨task, parent, rfl⟩ | ⟨n, rfl⟩ | q
  · refine ⟨Nat.le_succ_of_le lasting.added, fun e mem early => ?_⟩
    rcases (Work.mem_entries.1 mem).imp_right List.mem_append.1 with current | before | new
    · exact aged (Work.mem_entries.2 (.inl current)) (.inl rfl) early
    · exact aged (Work.mem_entries.2 (.inr before)) (.inl rfl) early
    · rw [List.mem_singleton.1 new] at early
      exact absurd (Nat.lt_of_succ_le early) (Nat.not_lt.2 lasting.added)
  · refine ⟨lasting.added, fun e mem => ?_⟩
    obtain ⟨old, before, rfl⟩ := Work.exists_of_mem_entries_invalidate mem
    exact aged before (Work.Entry.ages_hit n old)
  · refine ⟨q.added ▸ lasting.added, fun e mem => ?_⟩
    obtain ⟨old, before, ages⟩ := q.entries e mem
    exact aged before ages

/-- What lasts for the first tasks lasts over any changes, if setting a token does not end it. -/
theorem Lasting.steps {first : Nat} {Q : Work.Entry → Prop}
    (stable : ∀ old e : Work.Entry, old.Ages e → Q old → Q e) (lasting : Lasting first Q l)
    (changes : Steps l m) : Lasting first Q m := by
  induction changes with
  | refl => exact lasting
  | tail _ change ih => exact ih.step stable change

/-- Of the first tasks, all that a cancelling was about and that may be cancelled are invalid. -/
def Reached (id : Task.Id) (first : Nat) (l : Ledger) : Prop :=
  Lasting first (fun e => e.IsFor id → e.cancellable = true → e.valid = false) l

/-- Among the first tasks, those that a cancelling was about are invalid. -/
theorem Reached.invalid {id : Task.Id} {first : Nat} (r : Reached id first l) (e : Work.Entry)
    (mem : e ∈ l.work.entries) (early : e.id ≤ first) (about : e.IsFor id)
    (cancellable : e.cancellable = true) : e.valid = false :=
  r.holds e mem early about cancellable

/-- Right after a cancelling that holds of all tasks so far. -/
theorem reached_invalidate (id : Task.Id) (l : Ledger) (events : List Event) :
    Reached id l.work.added ⟨(l.work.invalidate id).2, events⟩ where
  added := Nat.le_refl _
  holds e mem _ about cancellable := by
    obtain ⟨old, -, rfl⟩ := Work.exists_of_mem_entries_invalidate mem
    have ages := Work.Entry.ages_hit id old
    exact Work.Entry.valid_hit (ages.isFor.1 about) (ages.cancellable ▸ cancellable)

end Ledger

namespace Home

/-- Cancelling changes the queue as the queue does it. -/
theorem work_invalidate (id : Task.Id) (h : Home) :
    (h.invalidate id).2.work = (h.work.invalidate id).2 := by
  obtain ⟨events, -, cancelled⟩ := exists_invalidate id h
  rw [cancelled]
  rfl

/-- The tokens and the report go together after any run. -/
theorem accounted_after {h : Home} (o : h.ledger.Ordered) (a : h.ledger.Accounted)
    (run : List Happening) : (h.after run).ledger.Accounted :=
  (after_of_next (P := fun g => g.ledger.Ordered ∧ g.ledger.Accounted)
    (fun happening _ g ⟨o, a⟩ =>
      ⟨o.steps (next_steps g happening), a.steps o (next_steps g happening)⟩) ⟨o, a⟩).2

/-- What lasts for the first tasks lasts during a run. -/
theorem lasting_after {first : Nat} {Q : Work.Entry → Prop}
    (stable : ∀ old e : Work.Entry, old.Ages e → Q old → Q e) {h : Home}
    (lasting : h.ledger.Lasting first Q) (run : List Happening) :
    (h.after run).ledger.Lasting first Q :=
  after_of_next (P := fun g => g.ledger.Lasting first Q)
    (fun happening _ g lasting => lasting.steps stable (next_steps g happening)) lasting

/-- **Who was reached stays cancelled.** -/
theorem reached_after {h : Home} {id : Task.Id} {first : Nat} (r : h.ledger.Reached id first)
    (run : List Happening) : (h.after run).ledger.Reached id first :=
  lasting_after (fun _ _ ages struck about cancellable =>
    ages.invalid (struck (ages.isFor.1 about) (ages.cancellable ▸ cancellable))) r run

/-- **Which tasks are invalid.**  At every moment of every run of a home server that began with a
new queue and no log, a task that waits is invalid iff it may be cancelled and, since it was added,
a cancelling was reported of its own number or of its parent's. In that case the current task is
invalid as well.

Whenever tasks are cancelled by a number, reported or not, all tasks that were added before, that
may be cancelled and that have this number or name it as their parent are invalid from then on. -/
theorem invalid_iff_named (h₀ : Home) (run : List Happening) :
    let h := ({ h₀ with work := {}, log := [] } : Home).after run
    (∀ e ∈ h.work.queue, e.valid = false ↔ e.cancellable = true ∧ e.IsNamed h.log) ∧
    (∀ e ∈ h.work.entries, e.cancellable = true → e.IsNamed h.log → e.valid = false) ∧
    ∀ id later, ∀ e ∈ ((h.invalidate id).2.after later).work.entries,
      e.id ≤ h.work.added → e.IsFor id → e.cancellable = true → e.valid = false := by
  intro h
  have a : h.ledger.Accounted := accounted_after (ordered_new h₀)
    ⟨fun e mem => (by cases mem), fun e mem => (by cases mem)⟩ run
  have reached : ∀ e ∈ h.work.entries, e.cancellable = true → e.IsNamed h.log →
      e.valid = false := by
    intro e mem cancellable named
    exact a.reached e mem cancellable (Work.Entry.isNamed_filter_ofTask.2 named)
  refine ⟨fun e waiting => ⟨fun invalid => ?_, fun ⟨cancellable, named⟩ => ?_⟩, reached, ?_⟩
  · exact (a.cause e waiting invalid).imp_right Work.Entry.isNamed_filter_ofTask.1
  · exact reached e (Work.mem_entries.2 (.inr waiting)) cancellable named
  · intro id later e mem early about cancellable
    have struck : (h.invalidate id).2.ledger.Reached id h.work.added := by
      have fresh := Ledger.reached_invalidate id h.ledger (h.invalidate id).2.ledger.events
      rwa [show h.ledger.work = h.work from rfl, ← work_invalidate] at fresh
    exact (reached_after struck later).invalid e mem early about cancellable

/-- Task 1 is added with a child, task 2, which has a child of its own, task 3. Then task 1 is
cancelled, and after that it gets another child, task 4. -/
def family : List Happening :=
  let task : Task :=
    { kind := .generic, description := "", cancellable := true, scheduled := false, body := [] }
  [.command (.addTask task none), .command (.addTask task (some 1)),
    .command (.addTask task (some 2)), .command (.invalidate 1),
    .command (.addTask task (some 1))]

/-- The child that was there when its parent was cancelled is invalid. -/
theorem invalid_iff_named_child :
    let h := ({} : Home).after family
    ∃ e ∈ h.work.queue, e.parent = some 1 ∧ e.cancellable = true ∧ e.IsNamed h.log ∧
      e.valid = false := by
  intro h
  obtain ⟨waits, -, -⟩ := invalid_iff_named {} family
  have named : ∀ e : Work.Entry, e.id = 2 → e.parent = some 1 → e.IsNamed h.log := by
    intro e id parent
    exact ⟨1, 2, by rw [id]; decide, .inr parent⟩
  refine ⟨_, .tail _ (.head _), rfl, rfl, named _ rfl rfl, ?_⟩
  exact (waits _ (.tail _ (.head _))).2 ⟨rfl, named _ rfl rfl⟩

/-- **A cancelled parent may have valid children**: the one that was added later, and, as task 2 was
cancelled with its parent, the one that was there before. -/
theorem children_stay_valid :
    let h := ({} : Home).after family
    ¬(∀ p ∈ h.work.entries, p.valid = false → ∀ e ∈ h.work.entries,
        e.parent = some p.id → e.cancellable = true → e.valid = false) ∧
      h.work.entries.map (fun e => (e.id, e.parent, e.cancellable, e.valid)) =
        [(1, none, true, false), (2, some 1, true, false), (3, some 2, true, true),
          (4, some 1, true, true)] := by
  decide

end Home
end HomeMedia
