import HomeMedia.Proofs.Home.Exchanges
/-!
# What does not notice the accounts

The accounts of a home server stand in the settings that its registry of sessions keeps. Hardly
anything looks at them. Whatever a home server does by itself goes on in the same way when the
accounts are exchanged for others (`onAccounts`): subscriptions, tasks, sessions, the schedule,
ticks, the turns of all agents and so the passing of time (`unnoticed_onAccounts`). So does whatever
is asked of it (`act_onAccounts`), but for the three commands that are about passwords
(`Command.usesAccounts`): the question for one, the question whether one is right, and a login.

Other accounts are an exchange (`Exchange.ofAccounts`) in which nothing else is exchanged. So here
not even the worker notices.
-/

namespace HomeMedia

open Settings (Accounts)

/-- Tasks whose steps stay the same are the same. -/
theorem Work.mapBodies_id (w : Work) : w.mapBodies id = w := by
  have entries : Entry.mapBody id = id := rfl
  have worker : w.worker.mapRest id = w.worker := by cases w.worker <;> rfl
  unfold mapBodies
  rw [entries, worker, List.map_id, Option.map_id]
  rfl

/-- A service whose scripts stay the same is the same. -/
theorem Refresh.Service.mapScripts_id (s : Refresh.Service) : s.mapScripts id = s := by
  unfold mapScripts
  rw [List.map_id]

namespace Home

/-- The server with other accounts. -/
def onAccounts (f : Accounts → Accounts) (h : Home) : Home :=
  h.onRegistry (Session.Registry.onAccounts f)

variable (f : Accounts → Accounts) (h : Home)

/-- Exchanging the accounts alone gives the server with other accounts. -/
theorem exchanged_ofAccounts : h.exchanged (.ofAccounts f) = h.onAccounts f := by
  change { h with
    registry := h.registry.map (Session.Registry.onAccounts f)
    work := h.work.mapBodies id
    service := h.service.mapScripts id
    log := h.log } = _
  rw [Work.mapBodies_id, Refresh.Service.mapScripts_id]
  rfl

/-- Only the registry has accounts. -/
theorem registry_onAccounts :
    (h.onAccounts f).registry = h.registry.map (Session.Registry.onAccounts f) := rfl

/-- The queue is as it was. -/
theorem work_onAccounts : (h.onAccounts f).work = h.work := rfl

/-- Either of two servers is given other accounts. -/
theorem onAccounts_ite (c : Prop) [Decidable c] (g : Home) :
    (if c then g else h).onAccounts f = if c then g.onAccounts f else h.onAccounts f :=
  apply_ite (onAccounts f) c g h

/-! ## The start -/

/-- The scan at the start does not depend on the accounts. -/
theorem queueScan_onAccounts (library : Path) :
    Startup.queueScan library (h.onAccounts f) = (Startup.queueScan library h).onAccounts f := by
  simpa only [exchanged_ofAccounts] using queueScan_exchanged (.ofAccounts f) h library

/-- Nor does the catalog that is started. -/
theorem startCatalog_onAccounts (catalog : Settings.Catalog) :
    Startup.startCatalog catalog (h.onAccounts f) =
      (Startup.startCatalog catalog h).onAccounts f := by
  simpa only [exchanged_ofAccounts] using startCatalog_exchanged (.ofAccounts f) h catalog

/-! ## Turns of agents -/

/-- The schedule is armed with any accounts. -/
theorem arm_onAccounts : (h.onAccounts f).arm = h.arm.onAccounts f := by
  simpa only [exchanged_ofAccounts] using arm_exchanged (.ofAccounts f) h

/-- Tasks are cancelled with any accounts. -/
theorem invalidate_onAccounts (id : Task.Id) :
    (h.onAccounts f).invalidate id = ((h.invalidate id).1, (h.invalidate id).2.onAccounts f) := by
  simpa only [exchanged_ofAccounts] using invalidate_exchanged (.ofAccounts f) h id

/-- A task ends with any accounts. -/
theorem finish_onAccounts (outcome : Except Task.Error Task.Outcome) :
    (h.onAccounts f).finish outcome = (h.finish outcome).onAccounts f := by
  unfold finish
  rw [work_onAccounts]
  cases h.work.current with
  | none => rfl
  | some e =>
    dsimp only
    rw [arm_onAccounts]
    cases e.scheduled <;> rfl

/-- What changed is announced with any accounts. -/
theorem announceAny_onAccounts (ids : Option (List ObjectId)) :
    (h.onAccounts f).announceAny ids = (h.announceAny ids).onAccounts f := by
  simpa only [exchanged_ofAccounts] using announceAny_exchanged (.ofAccounts f) h ids

/-- A directory is scanned with any accounts. -/
theorem scan_onAccounts (path : Path) :
    (h.onAccounts f).scan path = (h.scan path).onAccounts f := by
  unfold scan
  dsimp only
  rw [← finish_onAccounts, ← announceAny_onAccounts]
  rfl

/-- A refresh is concluded with any accounts. -/
theorem conclude_onAccounts (answer : Except Task.Error (List ObjectId)) :
    (h.onAccounts f).conclude answer = (h.conclude answer).onAccounts f := by
  unfold conclude
  dsimp only
  rw [announceAny_onAccounts, ← finish_onAccounts]
  rfl

/-- A step of a task is the same with any accounts. -/
theorem step_onAccounts (e : Work.Entry) (rest : List Task.Action) (action : Task.Action) :
    (h.onAccounts f).step e rest action = (h.step e rest action).onAccounts f := by
  cases action with
  | rescan path => exact scan_onAccounts f h path
  | conclude answer => exact conclude_onAccounts f h answer
  | fail error => exact finish_onAccounts f h (.error error)
  | panic payload => exact finish_onAccounts f h (.error (.panicked payload.message))
  | giveUp => exact finish_onAccounts f h (.ok .cancelled)
  | note | noteValidity | interrupt => rfl
  | check | fetch =>
    dsimp only [step]
    rw [onAccounts_ite, ← finish_onAccounts]
    rfl
  | sleep | await =>
    dsimp only [step]
    rw [onAccounts_ite]
    rfl
  | spawn | add =>
    dsimp only [step]
    rw [onAccounts_ite, ← finish_onAccounts]
    rfl
  | invalidate id =>
    dsimp only [step]
    rw [onAccounts_ite, ← finish_onAccounts, invalidate_onAccounts]
    rfl

/-- So is a look at the queue. -/
theorem look_onAccounts : (h.onAccounts f).look = h.look.onAccounts f := by
  simpa only [exchanged_ofAccounts] using look_exchanged (.ofAccounts f) h fun _ _ _ _ _ => rfl

/-- So is a turn of the worker. -/
theorem pollWorker_onAccounts : (h.onAccounts f).pollWorker = h.pollWorker.onAccounts f := by
  unfold pollWorker
  rw [work_onAccounts, look_onAccounts]
  cases h.work.worker with
  | running rest =>
    dsimp only
    cases h.work.current with
    | none => rfl
    | some e =>
      cases rest with
      | nil => exact finish_onAccounts f h (.ok .completed)
      | cons action rest => exact step_onAccounts f h e rest action
  | _ => rfl

/-- So is a turn of a pulse. -/
theorem pollPulse_onAccounts (id : Timer.SubscriptionId) :
    (h.onAccounts f).pollPulse id = (h.pollPulse id).onAccounts f := by
  simpa only [exchanged_ofAccounts] using pollPulse_exchanged (.ofAccounts f) h id

/-- **No agent looks at the accounts.** -/
theorem poll_onAccounts (agent : Agent) :
    poll agent (h.onAccounts f) = (poll agent h).onAccounts f := by
  cases agent with
  | worker => exact pollWorker_onAccounts f h
  | pulse id => exact pollPulse_onAccounts f h id
  | call index => rfl

/-- The bound on the turns does not depend on the accounts. -/
theorem effort_onAccounts : (h.onAccounts f).effort = h.effort := by
  unfold effort
  refine congrArg (h.work.effort + EventLoop.total · h.loop.ready) (funext fun agent => ?_)
  cases agent <;> rfl

/-- **Turns do not notice accounts**, nor does the clock. -/
theorem unnoticed_onAccounts : Live.Unnoticed (onAccounts f) where
  loop _ := rfl
  effort := effort_onAccounts f
  withLoop _ _ := rfl
  poll agent h := poll_onAccounts f h agent

/-! ## Commands -/

/-- What the registry is asked for is the same with any accounts if the asking is. -/
theorem ofRegistry_onAccounts {ask ask' : Session.Registry → Reply × Home}
    (same : ∀ r, ask' (r.onAccounts f) = ((ask r).1, (ask r).2.onAccounts f)) :
    (h.onAccounts f).ofRegistry ask' =
      ((h.ofRegistry ask).1, (h.ofRegistry ask).2.onAccounts f) := by
  unfold ofRegistry
  rw [registry_onAccounts]
  cases h.registry with
  | none => rfl
  | some r => exact same r

/-- Every request but a login is answered with any accounts. -/
theorem respond_onAccounts {r : Web.Request} (other : Web.Route.ofRequest r ≠ .ok .login) :
    (h.onAccounts f).respond r = ((h.respond r).1, (h.respond r).2.onAccounts f) := by
  simpa only [exchanged_ofAccounts] using respond_exchanged (.ofAccounts f) h (.inl other)

/-- **Commands that are not about passwords do not notice accounts.** -/
theorem act_onAccounts {command : Command} (other : command.usesAccounts = false) :
    (h.onAccounts f).act command = ((h.act command).1, (h.act command).2.onAccounts f) := by
  cases brief : command.takesTime with
  | false =>
    have same := act_exchanged (.ofAccounts f) h brief (.inl other)
    rw [show command.mapBody (Exchange.ofAccounts f).body = command from command.mapBody_id] at same
    simpa only [exchanged_ofAccounts] using same
  | true =>
    cases command with
    | sleep ms => exact congrArg (Prod.mk _) ((unnoticed_onAccounts f).sleep ms h)
    | jump ms => exact congrArg (Prod.mk _) ((unnoticed_onAccounts f).jump ms h)
    | _ => cases brief

end Home
end HomeMedia
