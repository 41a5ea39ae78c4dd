import HomeMedia.Proofs.Refresh.Cycle
import HomeMedia.Proofs.Work.Cancelling
/-!
# What cancelling does, and what else sets a token

Cancelling by a number sets the tokens of the tasks that it is about, of those that may be cancelled
and whose token is unset, and does nothing else but report how many there were. Doing it twice is
doing it once. No token is ever taken back: whatever happens, a task that is still there is as it
was or has its token set (`ages_after`).

A task that may not be cancelled is therefore valid as long as it waits. Once it runs, it has its
token in its own hands: it may set it by a step of its own, or hand it to the online service, which
may set it during the refresh. Nobody else does (`Work.Minds`, `invalidate_strikes`). A scheduled
fetch that may not be cancelled can be invalid for that reason (`scheduled_fetch_set`).
-/

namespace HomeMedia

/-- A refresh sets its task's token if its script says so. -/
theorem Refresh.Script.interrupt_mem_steps {script : Refresh.Script} :
    .interrupt ∈ script.steps ↔ script.cancels = true := by
  rcases script with ⟨sleep, gate, cancels, ending⟩
  cases cancels <;> cases ending <;> simp [steps]

namespace Work.Entry

variable {e old mid : Work.Entry}

instance (id : Task.Id) (e : Work.Entry) : Decidable (e.IsFor id) :=
  inferInstanceAs (Decidable (e.id = id ∨ e.parent = some id))

/-- The task with its token set, if a cancelling is about it, it may be cancelled, and its token is
unset. -/
def strike (id : Task.Id) (e : Work.Entry) : Work.Entry :=
  if e.IsFor id ∧ e.cancellable = true ∧ e.valid = true then { e with valid := false } else e

/-- To be hit is to have the token set by a cancelling that is about the task. -/
theorem hit_eq_strike (id : Task.Id) : hit id = strike id := by
  funext e
  exact if_congr isHit_iff rfl rfl

/-- Nobody is hit twice. -/
theorem isHit_hit (id : Task.Id) (e : Work.Entry) : (e.hit id).isHit id = false := by
  refine Bool.eq_false_iff.2 fun again => ?_
  obtain ⟨about, cancellable, valid⟩ := isHit_iff.1 again
  have ages := ages_hit id e
  rw [valid_hit (ages.isFor.1 about) (ages.cancellable ▸ cancellable)] at valid
  cases valid

/-- A task that was hit is not hit again. -/
theorem hit_hit (id : Task.Id) (e : Work.Entry) : (e.hit id).hit id = e.hit id :=
  hit_of_not_isHit (Bool.eq_false_iff.1 (isHit_hit id e))

/-- Ageing twice is ageing. -/
theorem Ages.trans (first : Ages old mid) (second : Ages mid e) : Ages old e := by
  rcases second with rfl | rfl
  · exact first
  · rcases first with rfl | rfl <;> exact .inr rfl

/-- What a task may come to do when its service behaves in one of some ways: a step of its own, or a
step of the refresh, if it turns to the service. -/
def MayDo (scripts : List Refresh.Script) (e : Work.Entry) (action : Task.Action) : Prop :=
  action ∈ e.body ∨ .fetch ∈ e.body ∧
    ∃ script, (script = .idle ∨ script ∈ scripts) ∧ action ∈ script.steps

variable {scripts : List Refresh.Script} {action : Task.Action}

/-- What a task may do depends on the task alone. -/
theorem MayDo.congr (same : e.toTask = old.toTask) (may : old.MayDo scripts action) :
    e.MayDo scripts action := by
  unfold MayDo
  rw [show e.body = old.body from congrArg Task.body same]
  exact may

/-- A task that fetches has that step of its own. -/
theorem MayDo.fetch (may : e.MayDo scripts .fetch) : .fetch ∈ e.body := may.elim (fun own => own) And.left

end Work.Entry

namespace Work

variable {scripts : List Refresh.Script} {v w : Work}

/-- **Cancelling twice is cancelling once.** -/
theorem invalidate_invalidate (id : Task.Id) (w : Work) :
    (w.invalidate id).2.invalidate id = (0, (w.invalidate id).2) := by
  have spared : (w.invalidate id).2.entries.filter (Entry.isHit id) = [] := by
    refine List.filter_eq_nil_iff.2 fun e mem => ?_
    obtain ⟨old, -, rfl⟩ := exists_of_mem_entries_invalidate mem
    exact Bool.eq_false_iff.1 (Entry.isHit_hit id old)
  have again : Entry.hit id ∘ Entry.hit id = Entry.hit id := funext (Entry.hit_hit id)
  refine Prod.ext (congrArg List.length spared) ?_
  simp only [invalidate, Option.map_map, List.map_map, again]

/-- A cancelling hits something if a valid task that it is about may be cancelled. -/
theorem count_ne_zero_iff {id : Task.Id} : (w.invalidate id).1 ≠ 0 ↔
    ∃ e ∈ w.entries, e.IsFor id ∧ e.cancellable = true ∧ e.valid = true := by
  refine ⟨fun some => ?_, fun ⟨e, mem, struck⟩ => count_ne_zero mem (Entry.isHit_iff.2 struck)⟩
  obtain ⟨e, mem⟩ := List.exists_mem_of_length_pos (Nat.pos_of_ne_zero some)
  obtain ⟨mem, isHit⟩ := List.mem_filter.1 mem
  exact ⟨e, mem, Entry.isHit_iff.1 isHit⟩

/-- Tasks that may not be cancelled have their tokens in their own hands. -/
structure Minds (scripts : List Refresh.Script) (w : Work) : Prop where
  /-- As long as they wait they are valid. -/
  waiting : ∀ e ∈ w.queue, e.cancellable = false → e.valid = true
  /-- The current task is not going to do what it may not do. -/
  planned : ∀ e, w.current = some e → ∀ action ∈ w.worker.rest, e.MayDo scripts action
  /-- It is invalid only if it may set its token. -/
  running : ∀ e, w.current = some e → e.cancellable = false → e.valid = false →
    e.MayDo scripts .interrupt

namespace Minds

/-- With fewer tasks and fewer steps there is less to mind. -/
theorem of_fewer (minds : w.Minds scripts) (queue : v.queue ⊆ w.queue)
    (current : ∀ e, v.current = some e → w.current = some e)
    (rest : v.worker.rest ⊆ w.worker.rest) : v.Minds scripts where
  waiting e waits := minds.waiting e (queue waits)
  planned e is action left := minds.planned e (current e is) action (rest left)
  running e is := minds.running e (current e is)

/-- Waking the worker sets no token. -/
theorem notify (minds : w.Minds scripts) : w.notify.2.Minds scripts := by
  unfold Work.notify
  split
  · exact minds.of_fewer (List.Subset.refl _) (fun _ is => is) (List.nil_subset _)
  · exact minds.of_fewer (List.Subset.refl _) (fun _ is => is) (List.Subset.refl _)

/-- A task that is added is valid. -/
theorem enqueue (minds : w.Minds scripts) (task : Task) (parent : Option Task.Id) :
    (w.enqueue task parent).2.Minds scripts where
  waiting e waits fixed := by
    rcases List.mem_append.1 waits with old | new
    · exact minds.waiting e old fixed
    · rw [List.mem_singleton.1 new]
  planned := minds.planned
  running := minds.running

/-- Cancelling by a number does not reach them. -/
theorem invalidate (minds : w.Minds scripts) (id : Task.Id) :
    (w.invalidate id).2.Minds scripts := by
  have spares : ∀ old : Entry, (old.hit id).cancellable = false → old.hit id = old := by
    intro old fixed
    rw [(Entry.ages_hit id old).cancellable] at fixed
    exact Entry.hit_of_not_isHit fun isHit =>
      absurd (Entry.isHit_iff.1 isHit).2.1 (Bool.eq_false_iff.1 fixed)
  refine ⟨fun e waits fixed => ?_, fun e is action left => ?_, fun e is fixed invalid => ?_⟩
  · obtain ⟨old, before, rfl⟩ := List.mem_map.1 waits
    have same := spares old fixed
    rw [same] at fixed ⊢
    exact minds.waiting old before fixed
  · obtain ⟨old, before, rfl⟩ := Option.map_eq_some_iff.1 is
    exact (minds.planned old before action left).congr (Entry.toTask_hit id old)
  · obtain ⟨old, before, rfl⟩ := Option.map_eq_some_iff.1 is
    have same := spares old fixed
    rw [same] at fixed invalid ⊢
    exact minds.running old before fixed invalid

/-- The current task sets its token only if it had planned to. -/
theorem interrupt (minds : w.Minds scripts) (planned : .interrupt ∈ w.worker.rest) :
    w.interrupt.Minds scripts := by
  have sets : ∀ e, w.interrupt.current = some e →
      ∃ old, w.current = some old ∧ e.toTask = old.toTask := by
    intro e is
    obtain ⟨old, before, rfl⟩ := Option.map_eq_some_iff.1 is
    exact ⟨old, before, rfl⟩
  refine ⟨minds.waiting, fun e is action left => ?_, fun e is _ _ => ?_⟩
  · obtain ⟨old, before, same⟩ := sets e is
    exact (minds.planned old before action left).congr same
  · obtain ⟨old, before, same⟩ := sets e is
    exact (minds.planned old before .interrupt planned).congr same

/-- The worker takes a task from the queue. -/
theorem take (minds : w.Minds scripts) {e : Entry} {queue : List Entry}
    (first : w.queue = e :: queue) :
    Minds scripts { w with queue, current := some e, worker := .running e.body } where
  waiting other waits := minds.waiting other (first ▸ List.mem_cons_of_mem e waits)
  planned other is action left := by
    cases is
    exact .inl left
  running other is fixed invalid := by
    cases is
    rw [minds.waiting e (first ▸ List.mem_cons_self ..) fixed] at invalid
    cases invalid

end Minds
end Work

namespace Home

/-- **Nothing becomes of a task but that its token is set.** -/
theorem ages_after {h : Home} (o : h.ledger.Ordered) {old : Work.Entry}
    (there : old ∈ h.work.entries) (run : List Happening) {e : Work.Entry}
    (still : e ∈ (h.after run).work.entries) (same : e.id = old.id) : old.Ages e := by
  have lasting : h.ledger.Lasting old.id fun e => e.id = old.id → old.Ages e :=
    ⟨o.id_le there, fun e mem _ same => .inl (o.eq_of_id mem there same)⟩
  have stable : ∀ mid e : Work.Entry, mid.Ages e → (mid.id = old.id → old.Ages mid) →
      e.id = old.id → old.Ages e :=
    fun mid e ages before same => (before (ages.id ▸ same)).trans ages
  exact (lasting_after stable lasting run).holds e still (Nat.le_of_eq same) same

/-! ## Who sets the token of a task that may not be cancelled -/

variable {scripts : List Refresh.Script}

/-- Adding a task sets no token. -/
theorem addTask_minds {h : Home} (minds : h.work.Minds scripts) (task : Task)
    (parent : Option Task.Id) : (h.addTask task parent).2.work.Minds scripts :=
  (minds.enqueue task parent).notify

/-- Neither does letting go. -/
theorem letGo_minds {release : Home → Home} {h : Home} (minds : (release h).work.Minds scripts) :
    (h.letGo release).work.Minds scripts := by
  rcases letGo_cases release h with woken | kept
  · exact woken ▸ minds.notify
  · exact kept ▸ minds

/-- Neither does asking for a fetch. -/
theorem refreshNow_minds {h : Home} (minds : h.work.Minds scripts) :
    (h.refreshNow false).2.work.Minds scripts :=
  addTask_minds (h := h.disarm) (work_disarm h ▸ minds) _ none

/-- Neither does taking a task from the queue. -/
theorem look_minds {h : Home} (minds : h.work.Minds scripts) : h.look.work.Minds scripts := by
  have looked := h.looked
  generalize h.look = g at looked ⊢
  cases looked with
  | take inUse waiting => exact minds.take waiting
  | again empty free woken => exact ⟨minds.waiting, minds.planned, minds.running⟩
  | _ => exact minds.of_fewer (List.Subset.refl _) (fun _ is => is) (List.nil_subset _)

/-- What the worker has planned, the current task may do. -/
theorem Planned.mayDo {h : Home} {rest : List Task.Action} (planned : h.Planned rest)
    (behaves : h.service.scripts ⊆ scripts) (minds : h.work.Minds scripts) {e : Work.Entry}
    (current : h.work.current = some e) {action : Task.Action} (left : action ∈ rest) :
    e.MayDo scripts action := by
  rcases planned.known action left with old | ⟨fetching, asked⟩
  · exact minds.planned e current action old
  · refine .inr ⟨(minds.planned e current .fetch fetching).fetch, h.service.next.1, ?_, asked⟩
    rcases h.service.next_cases with ⟨-, idle⟩ | ⟨script, more, scripted, next⟩
    · exact .inl (congrArg Prod.fst idle)
    · rw [next]
      exact .inr (behaves (scripted ▸ List.mem_cons_self ..))

/-- **No deed sets the token of a task that may not be cancelled, but by a step of its run.** -/
theorem Deed.minds {label : Deed.Label} {h g : Home} (deed : Deed label h g)
    (behaves : h.service.scripts ⊆ scripts) (minds : h.work.Minds scripts) :
    g.work.Minds scripts := by
  have same : ∀ {w : Work}, w.queue = h.work.queue → w.current = h.work.current →
      w.worker.rest ⊆ h.work.worker.rest → w.Minds scripts := fun queue current rest =>
    minds.of_fewer (queue ▸ List.Subset.refl _) (fun _ is => current ▸ is) rest
  have goesOn : ∀ {rest : List Task.Action} {worker : Work.Worker}, h.Planned rest →
      worker.rest = rest → Work.Minds scripts { h.work with worker } := fun planned is =>
    ⟨minds.waiting, fun e current action left =>
      planned.mayDo behaves minds current (is ▸ left), minds.running⟩
  cases deed with
  | aside aside => exact aside.aloof.work ▸ minds
  | addTask h task parent => exact addTask_minds minds task parent
  | invalidate h id => exact work_invalidate id h ▸ minds.invalidate id
  | requestStop h => exact same rfl rfl (List.Subset.refl _)
  | call h index => exact (same (w := { h.work with stopping := true, calls := _ }) rfl rfl
      (List.Subset.refl _)).notify
  | dropWork h => exact letGo_minds minds
  | release h gate =>
    rcases release_cases gate h with ⟨rest, waits, woken⟩ | opened
    · rw [woken]
      exact same rfl rfl (waits ▸ List.Subset.refl _)
    · exact opened ▸ minds
  | look h looking => exact look_minds minds
  | putAway h ended =>
    refine minds.of_fewer (List.Subset.refl _) (fun e is => ?_) (List.nil_subset _)
    change (if h.usesWork = true then none else h.work.current) = some e at is
    split at is
    · cases is
    · exact is
  | goOn h rest busy planned => exact goesOn planned rfl
  | sleep h ms rest busy planned later => exact goesOn planned rfl
  | await h gate rest busy planned => exact goesOn planned rfl
  | spawn h task parent planned => exact addTask_minds minds task parent
  | interrupt h busy planned => exact minds.interrupt planned
  | finish h outcome busy =>
    rcases finish_cases outcome h with ⟨-, kept⟩ | ⟨e, armed, -, -, ended⟩
    · exact kept.symm ▸ minds
    · exact ended ▸ same rfl rfl (List.nil_subset _)
  | start h =>
    change Work.Minds scripts (arm _).work
    rw [work_arm]
    exact minds
  | stop h =>
    change Work.Minds scripts (disarm _).work
    rw [work_disarm]
    exact minds
  | refresh h => exact refreshNow_minds minds
  | tick h armed => exact refreshNow_minds minds
  | dropSchedule h => exact letGo_minds minds

/-- **During a run nobody sets the token of a task that may not be cancelled but the task and its
service.** -/
theorem minds_after {h : Home} (minds : h.work.Minds h.service.scripts) (run : List Happening) :
    (h.after run).work.Minds h.service.scripts := by
  have kept : (h.after run).service.scripts ⊆ h.service.scripts ∧
      (h.after run).work.Minds h.service.scripts :=
    after_of_next (P := fun g => g.service.scripts ⊆ h.service.scripts ∧
        g.work.Minds h.service.scripts)
      (fun happening _ g kept => next_keeps (P := fun g => g.service.scripts ⊆ h.service.scripts ∧
          g.work.Minds h.service.scripts) (fun _ _ kept => kept)
        (fun _ _ _ _ deed kept =>
          ⟨List.Subset.trans deed.service_kept.2.2 kept.1, deed.minds kept.1 kept.2⟩) kept)
      ⟨List.Subset.refl _, minds⟩
  exact kept.2

/-- **Cancelling by a number strikes once.**  At every moment of every run of a home server that
began with a new queue and no log, cancelling by a number sets the tokens of those among the current
task and the tasks that wait that have this number or name it as their parent, may be cancelled and
are valid. It changes nothing else but the log, tells whether there was any such task, and when it
is repeated at once it changes nothing.

Whatever happens later, a task that is still there is as it was or has its token set. A task that
may not be cancelled and is invalid nevertheless is the current one, and has a step that sets its
token, or turns to the online service, which may set it. -/
theorem invalidate_strikes (h₀ : Home) (run : List Happening) :
    let h := ({ h₀ with work := {}, log := [] } : Home).after run
    (∀ id, let g := (h.invalidate id).2
      g.work = { h.work with
        current := h.work.current.map (Work.Entry.strike id)
        queue := h.work.queue.map (Work.Entry.strike id) } ∧
      g = { h with work := g.work, log := h.log ++ h.work.cancellings id } ∧
      ((h.invalidate id).1 = true ↔
        ∃ e ∈ h.work.entries, e.IsFor id ∧ e.cancellable = true ∧ e.valid = true) ∧
      g.invalidate id = (false, g)) ∧
    (∀ old ∈ h.work.entries, ∀ later, ∀ e ∈ (h.after later).work.entries, e.id = old.id →
      e = old ∨ e = { old with valid := false }) ∧
    ∀ e ∈ h.work.entries, e.cancellable = false → e.valid = false →
      h.work.current = some e ∧ (.interrupt ∈ e.body ∨
        .fetch ∈ e.body ∧ ∃ script ∈ h₀.service.scripts, script.cancels = true) := by
  intro h
  have o : h.ledger.Ordered := ordered_after (ordered_new h₀) run
  have minds : h.work.Minds h₀.service.scripts :=
    minds_after (h := { h₀ with work := {}, log := [] })
      ⟨fun e mem => (by cases mem), fun e is => (by cases is), fun e is => (by cases is)⟩ run
  refine ⟨fun id => ⟨?_, ?_, ?_, ?_⟩, fun old there later e still => ages_after o there later still,
    fun e mem fixed invalid => ?_⟩
  · rw [work_invalidate, ← Work.Entry.hit_eq_strike]
    rfl
  · obtain ⟨events, rfl, cancelled⟩ := exists_invalidate id h
    rw [cancelled]
    rfl
  · rw [← Work.count_ne_zero_iff]
    unfold invalidate
    dsimp only
    split <;> simp [*]
  · have again := Work.invalidate_invalidate id h.work
    rw [← work_invalidate] at again
    generalize (h.invalidate id).2 = g at again ⊢
    simp only [invalidate, again, if_pos]
  · rcases Work.mem_entries.1 mem with current | waits
    · refine ⟨current, (minds.running e current fixed invalid).imp_right fun ⟨asks, script, of, set⟩ =>
        ⟨asks, script, of.resolve_left fun idle => ?_, Refresh.Script.interrupt_mem_steps.1 set⟩⟩
      have := Refresh.Script.interrupt_mem_steps.1 (idle ▸ set)
      cases this
    · rw [minds.waiting e waits fixed] at invalid
      cases invalid

/-- A number whose task is over still reaches the child of that task. -/
example :
    let task (body : List Task.Action) : Task :=
      { kind := .generic, description := "", cancellable := true, scheduled := false, body }
    let h := ({} : Home).after [.command (.addTask (task []) none), .turn .worker, .turn .worker,
      .turn .worker, .command (.addTask (task []) (some 1)), .command (.invalidate 1)]
    h.log.filterMap Event.ended? = [1] ∧ h.work.current = none ∧
      h.work.queue.map (fun e => (e.id, e.valid)) = [(2, false)] := by
  decide

/-- **A scheduled fetch can be invalid**: the online service sets the token it was given, and the
fetch ends as cancelled. -/
theorem scheduled_fetch_set :
    let script : Refresh.Script := { cancels := true, ending := .answer (.ok []) }
    let home : Home := { service := { name := "podcasts", scripts := [script] }
                         schedule := some {} }
    let h := home.after
      [.command (.refreshNow false), .turn .worker, .turn .worker, .turn .worker]
    ¬(∀ e ∈ h.work.entries, e.cancellable = false → e.valid = true) ∧
      h.work.entries.map (fun e => (e.id, e.scheduled, e.cancellable, e.valid)) =
        [(1, true, false, false)] := by
  decide

end Home
end HomeMedia
