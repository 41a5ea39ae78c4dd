import HomeMedia.Proofs.Home.Visits
/-!
# All that can happen to the front of a home server

Every happening moves the front by labelled moves (`Front.Move`): steps of turns, a session that is
created or leaves, something asked of one session, a notice to all of them, and a few more. A
happening makes only the moves that it allows (`Happening.Allows`, `next_moves`): the pending
changes of a session are handed out or forgotten only by its own requests for that or by a direct
access, and what creates sessions removes none. So what all moves but some keep, all happenings but
some keep (`Front.Moves.keep`).
-/

namespace HomeMedia

namespace Home

namespace Front

/-- What a move is. -/
inductive Label where
  /-- A step of a turn. -/
  | turn
  /-- A session is created. -/
  | create
  /-- A session, or all of them, leave. -/
  | leave
  /-- A session is asked something. -/
  | ask (id : String) (command : Session.Command)
  /-- Sessions are told about containers. -/
  | tell (ids : List ObjectId)
  /-- Changes are handed out directly to all sessions. -/
  | drainAll
  /-- The timer is shut down. -/
  | shutDown

/-- One move of the front. -/
inductive Move : Label → Front → Front → Prop where
  | turn {f g : Front} (step : Step f g) : Move .turn f g
  | create (h : Home) (timeout : Nat) : Move .create h.front (h.createSession timeout).2.front
  | remove (h : Home) (id : String) : Move .leave h.front (h.removeSession id).2.front
  | dropRegistry (h : Home) : Move .leave h.front { h.front with registry := none }
  | ask (h : Home) (id : String) (command : Session.Command) :
    Move (.ask id command) h.front (h.ask id command).front
  | tell (h : Home) (ids : List ObjectId) :
    Move (.tell ids) h.front (h.onRegistry (Session.Registry.changedAll ids)).front
  | drainAll (h : Home) : Move .drainAll h.front
    (h.onRegistry fun r => { r with sessions := r.sessions.map Session.told }).front
  | shutDown (h : Home) : Move .shutDown h.front { h.front with timer := h.timer.shutDown }

/-- Any number of moves with labels that are allowed. -/
def Moves (allowed : Label → Prop) : Front → Front → Prop :=
  Relation.ReflTransGen fun f g => ∃ label, allowed label ∧ Move label f g

namespace Moves

variable {allowed : Label → Prop} {f g k : Front}

/-- No move is needed where nothing is different. -/
theorem refl : Moves allowed f f := Relation.ReflTransGen.refl

/-- One move that is allowed. -/
theorem single {label : Label} (move : Move label f g) (ok : allowed label) : Moves allowed f g :=
  Relation.ReflTransGen.single ⟨label, ok, move⟩

/-- One move more. -/
theorem tail {label : Label} (moves : Moves allowed f g) (move : Move label g k)
    (ok : allowed label) : Moves allowed f k :=
  Relation.ReflTransGen.tail moves ⟨label, ok, move⟩

/-- The steps of turns are moves. -/
theorem ofSteps (steps : Steps f g) (ok : allowed .turn) : Moves allowed f g :=
  Relation.ReflTransGen.mono (fun _ _ step => ⟨.turn, ok, .turn step⟩) _ _ steps

/-- **What all allowed moves keep.** -/
theorem keep {P : Front → Prop} (moves : Moves allowed f g)
    (each : ∀ label f g, allowed label → Move label f g → P f → P g) (start : P f) : P g := by
  induction moves with
  | refl => exact start
  | tail _ move ih =>
    obtain ⟨label, ok, move⟩ := move
    exact each label _ _ ok move ih

end Moves
end Front

/-! ## What a happening allows -/

namespace Happening

/-- Whether a happening is about single sessions, or shuts the timer down. -/
def isForClients : Happening → Bool
  | .command asked => asked.isForClients
  | _ => false

/-- Whether a happening can create a session. -/
def creates : Happening → Bool
  | .command (.createSession _) => true
  | .command (.request r) =>
    match Web.Route.ofRequest r with
    | .ok .login => true
    | _ => false
  | _ => false

/-- Whether a happening is a request of a session for its pending changes, or to forget them. -/
def drains (id : String) : Happening → Bool
  | .command (.request r) => r.wish? == some (id, .get) || r.wish? == some (id, .clear)
  | _ => false

/-- Whether pending changes are handed out or forgotten without a request. -/
def drainsDirectly : Happening → Bool
  | .command .takeAll => true
  | .command (.onSession _ asked) => asked.drains
  | _ => false

/-- The moves that a happening can make. -/
def Allows (happening : Happening) : Front.Label → Prop
  | .turn => happening.isForClients = false
  | .create => happening.creates = true
  | .leave => happening.isForClients = true ∧ happening.creates = false
  | .ask id asked => happening.isForClients = true ∧
    (asked.drains = true → happening.drains id = true ∨ happening.drainsDirectly = true)
  | .tell _ => happening.isForClients = true
  | .drainAll => happening.drainsDirectly = true
  | .shutDown => happening = .command .shutDownTimer

/-- What creates a session is about single sessions. -/
theorem isForClients_of_creates {happening : Happening} (creates : happening.creates = true) :
    happening.isForClients = true := by
  cases happening with
  | command asked => cases asked <;> first | rfl | cases creates
  | turn agent => cases creates
  | reloop loop => cases creates

/-- So is what hands out pending changes directly. -/
theorem isForClients_of_drainsDirectly {happening : Happening}
    (drains : happening.drainsDirectly = true) : happening.isForClients = true := by
  cases happening with
  | command asked => cases asked <;> first | rfl | cases drains
  | turn agent => cases drains
  | reloop loop => cases drains

/-- What is not about single sessions makes only steps of turns. -/
theorem eq_turn_of_allows {happening : Happening} {label : Front.Label}
    (other : happening.isForClients = false) (ok : happening.Allows label) : label = .turn := by
  have clients : happening.isForClients = true → label = .turn := fun clients =>
    absurd (clients.symm.trans other) (by decide)
  cases label with
  | turn => rfl
  | create => exact clients (isForClients_of_creates ok)
  | leave => exact clients ok.1
  | ask id asked => exact clients ok.1
  | tell ids => exact clients ok
  | drainAll => exact clients (isForClients_of_drainsDirectly ok)
  | shutDown =>
    cases show happening = .command .shutDownTimer from ok
    cases other

end Happening

open Front (Move Moves)

variable {h : Home}

/-! ## Requests -/

/-- A visit makes the moves of a request. -/
theorem visit_moves {r : Web.Request} {f : Front} (visit : Visit r h f) :
    Moves (Happening.command (.request r)).Allows h.front f := by
  have touched : ∀ id,
      Moves (Happening.command (.request r)).Allows h.front (h.touch id).front := fun id =>
    .single (.ask h id (.accessAt h.now)) ⟨rfl, fun drains => by cases drains⟩
  cases visit with
  | nothing => exact .refl
  | exhausted route timeout cause failed =>
    exact .single (.create h timeout) (by simp [Happening.Allows, Happening.creates, route])
  | loggedIn route timeout s user made =>
    have created : Moves (Happening.command (.request r)).Allows h.front
        (h.createSession timeout).2.front :=
      .single (.create h timeout) (by simp [Happening.Allows, Happening.creates, route])
    have named := created.tail (.ask _ s.id (.put userKey user))
      ⟨rfl, fun drains => by cases drains⟩
    have entered := named.tail (.ask _ s.id (.logIn true)) ⟨rfl, fun drains => by cases drains⟩
    rwa [ask_ask] at entered
  | touched id => exact touched id
  | loggedOut route id =>
    have left := (touched id).tail (.ask _ id (.logIn false)) ⟨rfl, fun drains => by cases drains⟩
    exact left.tail (.remove _ id) ⟨rfl, by simp [Happening.creates, route]⟩
  | told id wish =>
    exact (touched id).tail (.ask _ id .take)
      ⟨rfl, fun _ => .inl (by simp [Happening.drains, wish])⟩
  | cleared id wish =>
    exact (touched id).tail (.ask _ id .clear)
      ⟨rfl, fun _ => .inl (by simp [Happening.drains, wish])⟩

/-! ## Commands -/

variable {allowed : Front.Label → Prop}

/-- Asking a session is one move, or none. -/
theorem askSession_moves (id : String) (command : Session.Command)
    (ok : allowed (.ask id command)) : Moves allowed h.front (h.askSession id command).2.front := by
  unfold askSession
  split
  · exact .single (.ask h id command) ok
  · split <;> exact .refl

/-- Asking the registry makes the moves of the asking; without a registry there are none. -/
theorem ofRegistry_moves {f : Session.Registry → Reply × Home}
    (moves : ∀ r, Moves allowed h.front (f r).2.front) :
    Moves allowed h.front (h.ofRegistry f).2.front := by
  unfold ofRegistry
  split
  · exact .refl
  · exact moves _

/-- **What is commanded makes the moves that it allows.** -/
theorem act_moves (command : Command) (h : Home) :
    Moves (Happening.command command).Allows h.front (h.act command).2.front := by
  cases other : command.isForClients with
  | false =>
    exact .ofSteps (Front.act_steps other h) other
  | true =>
    cases command with
    | shutDownTimer => exact .single (.shutDown h) rfl
    | createSession timeout =>
      refine ofRegistry_moves fun r => ?_
      have made : Moves (Happening.command (.createSession timeout)).Allows h.front
          (h.createSession (timeout.getD r.ui.sessionTimeout)).2.front :=
        .single (.create h _) rfl
      split
      · rename_i created
        rwa [created] at made
      · rename_i created
        rwa [created] at made
    | removeSession id => exact ofRegistry_moves fun _ => .single (.remove h id) ⟨rfl, rfl⟩
    | changed id =>
      refine ofRegistry_moves fun _ => ?_
      rw [Session.Registry.changed_eq]
      exact .single (.tell h [id]) rfl
    | changedAll ids => exact ofRegistry_moves fun _ => .single (.tell h ids) rfl
    | announce ids =>
      refine ofRegistry_moves fun _ => ?_
      rw [Session.Registry.announce_eq]
      exact .single (.tell h ids) rfl
    | takeAll => exact .single (.drainAll h) rfl
    | dropRegistry => exact .single (.dropRegistry h) ⟨rfl, rfl⟩
    | onSession id command => exact askSession_moves id command ⟨rfl, fun drains => .inr drains⟩
    | accessNow id => exact askSession_moves id _ ⟨rfl, fun drains => by cases drains⟩
    | request request => exact visit_moves (respond_visit request h)
    | _ => cases other

/-- **A happening makes only the moves that it allows.** -/
theorem next_moves (happening : Happening) (h : Home) :
    Moves happening.Allows h.front (h.next happening).front := by
  cases happening with
  | command command => exact act_moves command h
  | turn agent => exact .ofSteps (Front.poll_steps agent h) rfl
  | reloop loop => exact .refl

end Home
end HomeMedia
