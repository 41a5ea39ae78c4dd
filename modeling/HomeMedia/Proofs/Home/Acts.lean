import HomeMedia.Proofs.Home.Deeds
/-!
# What is asked of a home server is done by a few deeds

A command that takes no time is a sequence of deeds that it permits (`act_deeds`), and a command
that lets time pass is made of turns. So a property that does not depend on the clock or on who is
ready is kept by a happening if the deeds that the happening permits keep it (`next_keeps`): a run
can be looked at deed by deed, and every deed knows what it may have come from.
-/

namespace HomeMedia

/-- Two changes of a session in a row. -/
theorem Session.Registry.update_update (r : Registry) (id : String) {change : Session → Session}
    (keepsId : ∀ s, (change s).id = s.id) (more : Session → Session) :
    (r.update id change).update id more = r.update id fun s => more (change s) := by
  unfold update
  dsimp only
  rw [List.map_map]
  congr 1
  refine List.map_congr_left fun s _ => ?_
  rw [Function.comp_apply]
  by_cases same : (s.id == id) = true
  · simp [same, keepsId]
  · simp [same]

namespace Home

open Deed (Label)
open Web (Request Route)

/-! ## What commands and happenings permit -/

/-- Whether a command lets time pass. -/
def Command.takesTime : Command → Bool
  | .sleep _ => true
  | .jump _ => true
  | _ => false

/-- Whether a command is about single sessions, or shuts the timer down. -/
def Command.isForClients : Command → Bool
  | .shutDownTimer => true
  | .createSession _ => true
  | .removeSession _ => true
  | .changed _ => true
  | .changedAll _ => true
  | .announce _ => true
  | .takeAll => true
  | .dropRegistry => true
  | .onSession _ _ => true
  | .accessNow _ => true
  | .request _ => true
  | _ => false

/-- A task that is made here when it is asked for: a fetch that is not scheduled, or a scan. -/
def IsMadeHere (task : Task) : Prop :=
  (∃ service, task = Refresh.fetchTask service false) ∨ ∃ path, task = scanTask path true

/-- What a command permits. -/
def Command.Permits (command : Command) : Label → Prop
  | .own => True
  | .look => command.takesTime = true
  | .client => command.isForClients = true
  | .ask asked => (∃ id, command = .onSession id asked) ∨
    (∃ r, command = .request r) ∧ ∀ ms, asked ≠ .accessAt ms
  | .shutDown => command = .shutDownTimer
  | .beat => command.takesTime = true
  | .call _ => command.takesTime = true
  | .add task => (∃ parent, command = .addTask task parent) ∨ IsMadeHere task
  | .start => command = .startSchedule
  | .stop => command = .stopSchedule
  | .refresh => command = .refreshNow false
  | .tick => command = .fire ∨ (∃ times, command = .fireTimes times) ∨ command.takesTime = true

/-- What a happening permits. -/
def Happening.Permits : Happening → Label → Prop
  | .command asked => asked.Permits
  | .turn agent => agent.Permits
  | .reloop _ => fun _ => False

/-! ## Sessions -/

/-- Two questions to one session make one change. -/
theorem ask_ask (id : String) (command more : Session.Command) (h : Home) :
    (h.ask id command).ask id more = h.onRegistry fun r =>
      r.update id fun s => ((s.run command).2.run more).2 := by
  unfold ask onRegistry
  dsimp only
  rw [Option.map_map]
  congr 2
  funext r
  exact r.update_update id (fun s => s.id_run command) _

variable {permits : Label → Prop} {h : Home}

/-- Asking the registry comes to deeds if the asking does; without a registry nothing is done. -/
theorem ofRegistry_deeds {f : Session.Registry → Reply × Home}
    (deeds : ∀ r, Deeds permits h (f r).2) : Deeds permits h (h.ofRegistry f).2 := by
  unfold ofRegistry
  split
  · exact .refl
  · exact deeds _

/-- Asking the queue comes to deeds if the asking does, by its owner. -/
theorem ofWork_deeds {reply : Unit → Reply × Home}
    (deeds : h.holdsWork = true → Deeds permits h (reply ()).2) :
    Deeds permits h (h.ofWork reply).2 := by
  unfold ofWork
  split
  · exact deeds ‹_›
  · exact .refl

/-- Asking the schedule comes to deeds if the asking does. -/
theorem ofSchedule_deeds {reply : Unit → Reply × Home} (deeds : Deeds permits h (reply ()).2) :
    Deeds permits h (h.ofSchedule reply).2 := by
  unfold ofSchedule
  split
  · exact deeds
  · exact .refl

/-- A session is asked by its client, or held by one that has left the registry. -/
theorem askSession_deeds {id : String} {command : Session.Command} (client : permits .client)
    (asked : Deeds permits h (h.ask id command)) :
    Deeds permits h (h.askSession id command).2 := by
  unfold askSession
  split
  · exact asked
  · split
    · exact .single (.aside (.release h _)) client
    · exact .refl

/-! ## Requests -/

section Requests

variable {r : Request}

/-- A report that is not of the queue is a deed. -/
theorem report_deeds (own : permits .own) {events : List Event}
    (other : events.filter Event.ofQueue = []) (h : Home) : Deeds permits h (h.report events) :=
  .single (.aside (.report h events other)) own

/-- A refusal is reported at most. -/
theorem refuse_deeds (own : permits .own) (e : Web.Error) (h : Home) :
    Deeds permits h (h.refuse e).2 :=
  report_deeds own rfl h

/-- To be let in comes to nothing, to a report, or to a session that shows itself. -/
theorem authenticate_deeds (r : Request) (h : Home) :
    Deeds (Command.request r).Permits h (h.authenticate r).2 := by
  unfold authenticate
  split
  · exact .refl
  · rename_i id _
    split
    · exact report_deeds trivial rfl h
    · split
      · exact .refl
      · split
        · exact .single (.aside (.touch h id)) rfl
        · exact .refl

/-- A request may ask a session for anything but to set its clock. -/
theorem ask_deeds (id : String) (asked : Session.Command) (other : ∀ ms, asked ≠ .accessAt ms)
    (h : Home) : Deeds (Command.request r).Permits h (h.ask id asked) :=
  .single (.aside (.ask h id asked)) (.inr ⟨⟨r, rfl⟩, other⟩)

/-- A new session is given its user and logged in. -/
theorem logIn_deeds (r : Request) (h : Home) :
    Deeds (Command.request r).Permits h (h.logIn r).2 := by
  unfold logIn
  split
  · exact .refl
  · rename_i login _
    dsimp only
    split
    · exact refuse_deeds trivial _ h
    · split
      · exact refuse_deeds trivial _ h
      · rename_i registry _
        split
        · exact (report_deeds trivial rfl h).trans (refuse_deeds trivial _ _)
        · have made : Deeds (Command.request r).Permits h
              (h.createSession registry.ui.sessionTimeout).2 :=
            .single (.aside (.createSession h _)) rfl
          split <;> rename_i created <;> rw [created] at made
          · rename_i s g
            have named := made.trans (ask_deeds s.id
              (.put userKey (Text.trimmed login.user)) (fun _ same => by cases same) g)
            have entered := named.trans (ask_deeds s.id (.logIn true)
              (fun _ same => by cases same) _)
            rw [ask_ask] at entered
            exact entered.trans (report_deeds trivial rfl _)
          · exact made.trans (refuse_deeds trivial _ _)
          · exact made.trans (refuse_deeds trivial _ _)

/-- Logging out is told to the session, which is removed. -/
theorem logOut_deeds (s : Session) (h : Home) :
    Deeds (Command.request r).Permits h (h.logOut s).2 := by
  have out := ask_deeds (r := r) s.id (.logIn false) (fun _ same => by cases same) h
  have left := out.tail (.aside (.removeSession _ s.id)) (by rfl)
  exact left.trans (report_deeds trivial rfl _)

/-- Pending changes are handed out or forgotten, or the request is refused. -/
theorem pollUpdates_deeds (s : Session) (h : Home) :
    Deeds (Command.request r).Permits h (h.pollUpdates s r).2 := by
  unfold pollUpdates
  split
  · exact .refl
  · split
    · exact refuse_deeds trivial _ h
    · exact .refl
    · exact ask_deeds s.id .take (fun _ same => by cases same) h
    · exact ask_deeds s.id .clear (fun _ same => by cases same) h

/-- A scan is queued, or the request is refused. -/
theorem requestScan_deeds (s : Session) (h : Home) :
    Deeds (Command.request r).Permits h (h.requestScan s r).2 := by
  unfold requestScan
  split
  · exact .refl
  · split
    · exact refuse_deeds trivial _ h
    · rename_i path _
      have added : Deeds (Command.request r).Permits h (h.addTask (scanTask path true) none).2 :=
        .single (.addTask h _ none) (.inr (.inr ⟨path, rfl⟩))
      exact added.trans (report_deeds trivial rfl _)

/-- Tasks are cancelled, or the request is refused. -/
theorem cancelTask_deeds (written : Text.Bytes) (h : Home) :
    Deeds (Command.request r).Permits h (h.cancelTask written).2 := by
  unfold cancelTask
  split
  · exact .refl
  · exact .single (.invalidate h _) trivial

/-- Whatever a session that was let in asks for is permitted. -/
theorem answerSession_deeds (s : Session) (route : Route) (h : Home) :
    Deeds (Command.request r).Permits h (h.answerSession s r route).2 := by
  cases route with
  | logout => exact logOut_deeds s h
  | updates => exact pollUpdates_deeds s h
  | rescan => exact requestScan_deeds s h
  | cancel written => exact cancelTask_deeds written h
  | _ => exact .refl

/-- **A request does what a request permits.** -/
theorem respond_deeds (r : Request) (h : Home) :
    Deeds (Command.request r).Permits h (h.respond r).2 := by
  unfold respond
  split
  · exact .refl
  · rename_i route _
    change Deeds _ h (h.answer r route).2
    obtain ⟨response, quiet⟩ | ⟨-, login⟩ | ⟨stranger, caller⟩ := answer_cases r route h
    · rw [quiet]
      exact .refl
    · rw [login]
      exact logIn_deeds r h
    · have known := authenticate_deeds r h
      rcases shown : h.authenticate r with ⟨e | s, g⟩ <;> rw [shown] at known
      · rw [stranger e g shown]
        exact known.trans (refuse_deeds trivial e g)
      · rw [caller s g shown]
        exact known.trans (answerSession_deeds s route g)

end Requests

/-! ## Commands -/

/-- **A command that takes no time is a few deeds.** -/
theorem act_deeds {command : Command} (atOnce : command.takesTime = false) (h : Home) :
    Deeds command.Permits h (h.act command).2 := by
  cases command with
  | sleep ms => cases atOnce
  | jump ms => cases atOnce
  | settle => exact ofWork_deeds fun _ => .refl
  | fire => exact foldl_tick_deeds trivial (.inl rfl) _ h
  | fireTimes times => exact fireTimes_deeds trivial (.inr (.inl ⟨times, rfl⟩)) times h
  | shutDownTimer => exact .single (.aside (.shutDown h)) rfl
  | createSession timeout =>
    refine ofRegistry_deeds fun r => ?_
    have made : Deeds (Command.createSession timeout).Permits h
        (h.createSession (timeout.getD r.ui.sessionTimeout)).2 :=
      .single (.aside (.createSession h _)) rfl
    split <;> rename_i created <;> rwa [created] at made
  | removeSession id =>
    exact ofRegistry_deeds fun _ => .single (.aside (.removeSession h id)) rfl
  | changed id =>
    refine ofRegistry_deeds fun _ => ?_
    rw [Session.Registry.changed_eq]
    exact .single (.aside (.tell h [id])) rfl
  | changedAll ids => exact ofRegistry_deeds fun _ => .single (.aside (.tell h ids)) rfl
  | announce ids =>
    refine ofRegistry_deeds fun _ => ?_
    rw [Session.Registry.announce_eq]
    exact .single (.aside (.tell h ids)) rfl
  | sweepAt ms => exact ofRegistry_deeds fun _ => .single (.aside (.sweep h ms)) trivial
  | sweep => exact ofRegistry_deeds fun _ => .single (.aside (.sweep h h.now)) trivial
  | checkTimer => exact ofRegistry_deeds fun _ => .single (.aside (.checkTimer h)) trivial
  | takeAll =>
    have drained : Deeds Command.takeAll.Permits h
        (h.onRegistry fun r => { r with sessions := r.sessions.map Session.told }) :=
      .single (.aside (.drainAll h)) rfl
    exact drained.tail (.aside (.release _ (h.released.map Session.told))) rfl
  | dropRegistry =>
    have released : Deeds Command.dropRegistry.Permits h
        { h with released := h.released ++ (h.registry.map Session.Registry.sessions).getD [] } :=
      .single (.aside (.release h _)) rfl
    exact released.tail (.aside (.dropRegistry _)) rfl
  | onSession id asked =>
    exact askSession_deeds rfl (.single (.aside (.ask h id asked)) (.inl ⟨id, rfl⟩))
  | accessNow id => exact askSession_deeds rfl (.single (.aside (.touch h id)) rfl)
  | addTask task parent =>
    exact ofWork_deeds fun _ => .single (.addTask h task parent) (.inl ⟨parent, rfl⟩)
  | invalidate id => exact ofWork_deeds fun _ => .single (.invalidate h id) trivial
  | release gate => exact .single (.release h gate) trivial
  | requestStop => exact ofWork_deeds fun held => .single (.requestStop h held) trivial
  | dropWork => exact ofWork_deeds fun _ => .single (.dropWork h) trivial
  | startSchedule => exact ofSchedule_deeds (.single (.start h) rfl)
  | stopSchedule => exact ofSchedule_deeds (.single (.stop h) rfl)
  | refreshNow unscheduled =>
    refine ofSchedule_deeds ?_
    cases unscheduled with
    | false => exact .single (.refresh h) rfl
    | true => exact .single (.addTask h _ none) (.inr (.inl ⟨h.service.name, rfl⟩))
  | dropSchedule => exact .single (.dropSchedule h) trivial
  | request r => exact respond_deeds r h
  | listTasks => exact ofWork_deeds fun _ => .refl
  | currentTask => exact ofWork_deeds fun _ => .refl
  | findSession id => exact ofRegistry_deeds fun _ => .refl
  | password user => exact ofRegistry_deeds fun _ => .refl
  | accepts user password => exact ofRegistry_deeds fun _ => .refl
  | settings => exact ofRegistry_deeds fun _ => .refl
  | liveSessions => exact ofRegistry_deeds fun _ => .refl
  | intervalOf id => exact .refl
  | lastAccess id => exact .refl
  | directoryId path => exact .refl

/-! ## Happenings -/

/-- **What the deeds of a happening keep, the happening keeps.** -/
theorem next_keeps {P : Home → Prop} (reloop : ∀ loop h, P h → P { h with loop })
    {happening : Happening}
    (deed : ∀ label h g, happening.Permits label → Deed label h g → P h → P g) (start : P h) :
    P (h.next happening) := by
  have keeps : ∀ {permits : Label → Prop} {h g : Home}, Deeds permits h g →
      (∀ label, permits label → happening.Permits label) → P h → P g := fun deeds weaker =>
    deeds.keep fun label h g ok => deed label h g (weaker label ok)
  cases happening with
  | reloop loop => exact reloop loop h start
  | turn agent => exact keeps (poll_deeds agent h) (fun _ ok => ok) start
  | command command =>
    cases time : command.takesTime with
    | false => exact keeps (act_deeds time h) (fun _ ok => ok) start
    | true =>
      have kept : Live.Kept P :=
        ⟨reloop, fun agent g => keeps (poll_deeds agent g) fun label ok => by
          cases agent with
          | worker => rcases ok with rfl | rfl; exacts [trivial, time]
          | pulse id => rcases ok with rfl | rfl | rfl; exacts [trivial, .inr (.inr time), time]
          | call index => cases show label = .call index from ok; exact time⟩
      cases command with
      | sleep ms => exact kept.sleep ms start
      | jump ms => exact kept.jump ms start
      | _ => cases time

end Home
end HomeMedia
