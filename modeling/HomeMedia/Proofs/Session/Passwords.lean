import HomeMedia.Proofs.Home.Accounts
import Mathlib.Data.List.Forall2
import Mathlib.Logic.Equiv.Basic
/-!
# Passwords

A password is compared with another for equality, and that is all. Take a run of a home server and a
renaming of passwords, one to one. Rename the passwords in the accounts, and those that are typed in
the run: in the bodies of logins, as far as they can be read, and where somebody asks whether a
password is right. Then the run goes on as before (`history_of_other_passwords`): the responses are
the same, the same lines are logged, and the states differ in the passwords of the accounts only.

What a body is read as decides whether a login was renamed (`Web.Request.Retyped`); how the body is
written does not matter. A body that cannot be read is replaced by one that cannot be read for the
same reason.
-/

namespace HomeMedia

open Web (Login Request Response Route)

namespace Settings

variable (ρ : String → String)

/-- The accounts with renamed passwords. -/
def Accounts.withPasswords (a : Accounts) : Accounts :=
  ⟨a.entries.map fun entry => (entry.1, ρ entry.2)⟩

/-- A user's password is the renamed one. -/
theorem Accounts.get?_withPasswords (a : Accounts) (user : String) :
    (a.withPasswords ρ).get? user = (a.get? user).map ρ := by
  obtain ⟨entries⟩ := a
  change (entries.map fun entry => (entry.1, ρ entry.2)).lookup user = (entries.lookup user).map ρ
  induction entries with
  | nil => rfl
  | cons entry more ih =>
    rw [List.map_cons, List.lookup_cons, List.lookup_cons]
    cases user == entry.1 with
    | true => rfl
    | false => exact ih

/-- The users are the same. -/
theorem Accounts.users_withPasswords (a : Accounts) : (a.withPasswords ρ).users = a.users := by
  unfold users withPasswords
  rw [List.map_map]
  rfl

/-- So there are none if there were none. -/
theorem Accounts.isEmpty_withPasswords (a : Accounts) :
    (a.withPasswords ρ).isEmpty = a.isEmpty := List.isEmpty_map

/-- The settings with renamed passwords. -/
def Ui.withPasswords (ui : Ui) : Ui := { ui with accounts := ui.accounts.withPasswords ρ }

/-- The rules for settings do not look at passwords. -/
theorem Ui.conflict?_withPasswords (ui : Ui) : (ui.withPasswords ρ).conflict? = ui.conflict? := by
  unfold conflict? withPasswords
  dsimp only
  rw [Accounts.isEmpty_withPasswords]

/-- **Settings in words show no password.** -/
theorem Ui.describe_withPasswords (ui : Ui) : (ui.withPasswords ρ).describe = ui.describe := by
  unfold describe withPasswords
  dsimp only
  rw [Accounts.users_withPasswords]

end Settings

variable {ρ : String → String}

/-- A registry compares passwords for equality only. -/
theorem Session.Registry.accepts_withPasswords (injective : Function.Injective ρ) (r : Registry)
    (user password : String) :
    (r.onAccounts (Settings.Accounts.withPasswords ρ)).accepts user (ρ password) =
      r.accepts user password := by
  unfold accepts password?
  rw [show (r.onAccounts (Settings.Accounts.withPasswords ρ)).ui.accountsEnabled =
      r.ui.accountsEnabled from rfl,
    show (r.onAccounts (Settings.Accounts.withPasswords ρ)).ui.accounts =
      r.ui.accounts.withPasswords ρ from rfl, Settings.Accounts.get?_withPasswords]
  refine congrArg (fun right => if r.ui.accountsEnabled then right else true) ?_
  rw [Bool.eq_iff_iff, beq_iff_eq, beq_iff_eq, ← Option.map_some]
  exact (Option.map_injective injective).eq_iff

/-- A login with another password. -/
def Web.Login.retyped (ρ : String → String) (login : Login) : Login :=
  { login with password := ρ login.password }

/-- Two requests that differ in a password at most: if they are logins, one is read like the other
with the password renamed; otherwise they are the same. -/
structure Web.Request.Retyped (ρ : String → String) (r r' : Request) : Prop where
  /-- Only the body may differ. -/
  rest : r' = { r with body := r'.body }
  /-- A login is read with its password renamed, or refused in the same way. -/
  login : Route.ofRequest r = .ok .login →
    r'.json Login.reader = (r.json Login.reader).map (Login.retyped ρ)
  /-- What is no login is the same. -/
  other : Route.ofRequest r ≠ .ok .login → r' = r

namespace Home

/-- Two commands that differ in a password at most. -/
def Command.Retyped (ρ : String → String) : Command → Command → Prop
  | .accepts user typed, other => other = .accepts user (ρ typed)
  | .request r, other => ∃ r', other = .request r' ∧ r.Retyped ρ r'
  | asked, other => other = asked

/-- Two happenings that differ in a password at most. -/
def Happening.Retyped (ρ : String → String) : Happening → Happening → Prop
  | .command asked, other => ∃ asked', other = .command asked' ∧ asked.Retyped ρ asked'
  | happening, other => other = happening

/-- A reply with renamed passwords; the only replies that are passwords are texts. -/
def Reply.retyped (ρ : String → String) : Reply → Reply
  | .text password => .text (password.map ρ)
  | reply => reply

/-- The server with renamed passwords in its accounts. -/
def withPasswords (ρ : String → String) : Home → Home :=
  onAccounts (Settings.Accounts.withPasswords ρ)

/-- A login with the renamed password is answered the same. -/
theorem logIn_retyped (injective : Function.Injective ρ) {r r' : Request}
    (read : r'.json Login.reader = (r.json Login.reader).map (Login.retyped ρ)) (h : Home) :
    (h.withPasswords ρ).logIn r' = ((h.logIn r).1, (h.logIn r).2.withPasswords ρ) := by
  have same := logIn_exchanged (.ofAccounts (Settings.Accounts.withPasswords ρ)) h
    (Session.Registry.accepts_withPasswords injective) read
  rwa [exchanged_ofAccounts, exchanged_ofAccounts] at same

/-- **A request with a renamed password is answered the same**, and what the server becomes differs
in passwords alone. -/
theorem respond_retyped (injective : Function.Injective ρ) {r r' : Request}
    (same : r.Retyped ρ r') (h : Home) :
    (h.withPasswords ρ).respond r' = ((h.respond r).1, (h.respond r).2.withPasswords ρ) := by
  if login : Route.ofRequest r = .ok .login then
    have login' : Route.ofRequest r' = .ok .login := by
      rw [same.rest]
      exact login
    have method : r'.method = r.method := by rw [same.rest]
    unfold respond
    rw [login, login', method]
    dsimp only [answer]
    rw [logIn_retyped injective (same.login login)]
  else
    rw [same.other login]
    exact respond_onAccounts _ h login

/-- Nothing that is asked of the registry shows a password if no reply of it does. -/
theorem ofRegistry_retyped (h : Home) {ask : Session.Registry → Reply × Home}
    (plain : ∀ r, (ask r).1.retyped ρ = (ask r).1) :
    (h.ofRegistry ask).1.retyped ρ = (h.ofRegistry ask).1 := by
  unfold ofRegistry
  split
  · rfl
  · exact plain _

/-- Neither does what is asked of the queue. -/
theorem ofWork_retyped (h : Home) {ask : Unit → Reply × Home}
    (plain : (ask ()).1.retyped ρ = (ask ()).1) :
    (h.ofWork ask).1.retyped ρ = (h.ofWork ask).1 := by
  unfold ofWork
  split
  · exact plain
  · rfl

/-- Neither does what is asked of the schedule. -/
theorem ofSchedule_retyped (h : Home) {ask : Unit → Reply × Home}
    (plain : (ask ()).1.retyped ρ = (ask ()).1) :
    (h.ofSchedule ask).1.retyped ρ = (h.ofSchedule ask).1 := by
  unfold ofSchedule
  split
  · exact plain
  · rfl

/-- No session has a password to show. -/
theorem askSession_retyped (id : String) (asked : Session.Command) (h : Home) :
    (h.askSession id asked).1.retyped ρ = (h.askSession id asked).1 := by
  unfold askSession
  split
  · rfl
  · split <;> rfl

/-- Only the question for a password is answered by one. -/
theorem act_retyped_of_other {command : Command} (other : ∀ user, command ≠ .password user)
    (h : Home) : (h.act command).1.retyped ρ = (h.act command).1 := by
  unfold act
  cases command with
  | password user => exact absurd rfl (other user)
  | createSession timeout =>
    refine ofRegistry_retyped h fun r => ?_
    split <;> rfl
  | findSession | removeSession | changed | changedAll | announce | sweepAt | sweep | checkTimer
  | accepts | settings | liveSessions => exact ofRegistry_retyped h fun r => rfl
  | onSession | accessNow => exact askSession_retyped _ _ h
  | settle | addTask | listTasks | currentTask | invalidate | requestStop | dropWork =>
    exact ofWork_retyped h rfl
  | startSchedule | stopSchedule | refreshNow => exact ofSchedule_retyped h rfl
  | _ => rfl

/-- A command with a renamed password gets the same reply, but for passwords that are asked for. -/
theorem act_retyped (injective : Function.Injective ρ) {command command' : Command}
    (same : command.Retyped ρ command') (h : Home) :
    (h.withPasswords ρ).act command' =
      ((h.act command).1.retyped ρ, (h.act command).2.withPasswords ρ) := by
  cases command with
  | accepts user typed =>
    cases same
    rw [act_retyped_of_other (fun _ => Command.noConfusion)]
    exact ofRegistry_onAccounts _ h fun r => congrArg (fun right => (Reply.flag right, _))
      (Session.Registry.accepts_withPasswords injective r user typed)
  | password user =>
    cases same
    dsimp only [act]
    unfold ofRegistry
    rw [show (h.withPasswords ρ).registry = h.registry.map
      (Session.Registry.onAccounts (Settings.Accounts.withPasswords ρ)) from rfl]
    cases h.registry with
    | none => rfl
    | some r =>
      exact congrArg (fun password => (Reply.text password, h.withPasswords ρ))
        (Settings.Accounts.get?_withPasswords ρ r.ui.accounts user)
  | request r =>
    obtain ⟨r', rfl, same⟩ := same
    exact congrArg (fun answer => (Reply.response answer.1, answer.2))
      (respond_retyped injective same h)
  | _ =>
    cases same
    rw [act_retyped_of_other (fun _ => Command.noConfusion)]
    exact act_onAccounts _ h rfl

/-- So does everything that can happen. -/
theorem undergone_retyped (injective : Function.Injective ρ) {happening happening' : Happening}
    (same : happening.Retyped ρ happening') (h : Home) :
    (h.withPasswords ρ).undergone happening' =
      ((h.undergone happening).1.retyped ρ, (h.undergone happening).2.withPasswords ρ) := by
  cases happening with
  | command asked =>
    obtain ⟨asked', rfl, same⟩ := same
    exact act_retyped injective same h
  | turn agent =>
    cases same
    exact congrArg (Prod.mk _) (poll_onAccounts _ h agent)
  | reloop loop =>
    cases same
    rfl

/-- **What happens with other passwords.** -/
theorem history_retyped (injective : Function.Injective ρ) {run run' : List Happening}
    (same : List.Forall₂ (Happening.Retyped ρ) run run') (h : Home) :
    (h.withPasswords ρ).history run' =
      (h.history run).map (Prod.map (Reply.retyped ρ) (withPasswords ρ)) := by
  induction same generalizing h with
  | nil => rfl
  | cons first more ih =>
    rw [history, history, undergone_retyped injective first, ih]
    rfl

/-! ## The start -/

/-- A registry is opened over renamed passwords as it is over others. -/
theorem openRegistry_withPasswords (ρ : String → String) (ui : Settings.Ui)
    (ids : Session.Candidates) (h : Home) :
    h.openRegistry (ui.withPasswords ρ) ids = (h.openRegistry ui ids).withPasswords ρ := by
  unfold openRegistry
  rw [Settings.Ui.conflict?_withPasswords]
  rfl

/-- So is the whole server. -/
theorem assemble_withPasswords (ρ : String → String) (s : Settings.Server)
    (ids : Session.Candidates) (files : Files) :
    Startup.assemble { s with ui := s.ui.withPasswords ρ } ids files =
      (Startup.assemble s ids files).withPasswords ρ := by
  have opened (h : Home) : ({ h.openRegistry (s.ui.withPasswords ρ) ids with
      loop := h.loop.wake .worker } : Home) =
        ({ h.openRegistry s.ui ids with loop := h.loop.wake .worker } : Home).withPasswords ρ := by
    rw [openRegistry_withPasswords]
    rfl
  unfold Startup.assemble
  dsimp only
  rw [opened, withPasswords, queueScan_onAccounts]
  cases s.catalog with
  | none => rfl
  | some catalog => exact startCatalog_onAccounts _ _ catalog

/-- The response in a reply, if it is one. -/
def Reply.response? : Reply → Option Response
  | .response answer => some answer
  | _ => none

/-- **Passwords count only by being equal.**  Rename the passwords in the accounts and those that
are typed in a run, one to one. Then every request is answered as before, the same lines are logged,
and the server is at every moment what it was, but for the renamed passwords. That holds from the
start on, and the settings in words stay as they are. -/
theorem history_of_other_passwords {ρ : String → String} (injective : Function.Injective ρ)
    {run run' : List Happening} (same : List.Forall₂ (Happening.Retyped ρ) run run') (h : Home) :
    let one := h.history run
    let other := (h.withPasswords ρ).history run'
    other.map (fun moment => moment.1.response?) = one.map (fun moment => moment.1.response?) ∧
      other.map (fun moment => Event.lines moment.2.log) =
        one.map (fun moment => Event.lines moment.2.log) ∧
      other = one.map (Prod.map (Reply.retyped ρ) (withPasswords ρ)) ∧
      (∀ ui ids, h.openRegistry (ui.withPasswords ρ) ids =
        (h.openRegistry ui ids).withPasswords ρ) ∧
      (∀ s ids files, Startup.assemble { s with ui := s.ui.withPasswords ρ } ids files =
        (Startup.assemble s ids files).withPasswords ρ) ∧
      ∀ ui : Settings.Ui, (ui.withPasswords ρ).describe = ui.describe := by
  intro one other
  have renamed : other = one.map (Prod.map (Reply.retyped ρ) (withPasswords ρ)) :=
    history_retyped injective same h
  refine ⟨?_, ?_, renamed, fun ui ids => openRegistry_withPasswords ρ ui ids h,
    assemble_withPasswords ρ, Settings.Ui.describe_withPasswords ρ⟩
  · rw [renamed, List.map_map]
    refine List.map_congr_left fun moment _ => ?_
    obtain ⟨reply, g⟩ := moment
    cases reply <;> rfl
  · rw [renamed, List.map_map]
    rfl

/-- The only user logs in. -/
def loginWith (password : String) : Request :=
  { method := "POST", target := Text.Utf8.ofString "/auth/login"
    contentType := some (Text.Utf8.ofString "application/json")
    body := Text.Utf8.ofString ("[\"eve\", \"" ++ password ++ "\"]") }

/-- A server with one account. -/
def guardedServer (password : String) : Home :=
  openRegistry { accountsEnabled := true, accounts := ⟨[("eve", password)]⟩ }
    (.scripted ["0123456789abcdef0123456789abcdef"]) { ({} : Home) with servesSessions := true }

/-- A right login is right with another password in both places. -/
theorem history_of_other_passwords_login :
    let ρ := Equiv.swap "spring" "autumn"
    let one := (guardedServer "spring").history [.command (.request (loginWith "spring"))]
    let other := (guardedServer "autumn").history [.command (.request (loginWith "autumn"))]
    Function.Injective ρ ∧ (loginWith "spring").Retyped ρ (loginWith "autumn") ∧
      other.map (fun moment => moment.1.response?) = one.map (fun moment => moment.1.response?) ∧
      one.map (fun moment => moment.1.response?) = [some (.json 200
        (.object [("session_id", .text "0123456789abcdef0123456789abcdef")]))] := by
  intro ρ one other
  have wanted : Route.ofRequest (loginWith "spring") = .ok .login := by decide
  have same : (loginWith "spring").Retyped ρ (loginWith "autumn") :=
    ⟨rfl, fun _ => by rfl, fun no => absurd wanted no⟩
  have asked : Happening.Retyped ρ (.command (.request (loginWith "spring")))
      (.command (.request (loginWith "autumn"))) := ⟨_, rfl, _, rfl, same⟩
  have start : (guardedServer "spring").withPasswords ρ = guardedServer "autumn" := by rfl
  have both := history_of_other_passwords ρ.injective (.cons asked .nil) (guardedServer "spring")
  rw [start] at both
  refine ⟨ρ.injective, same, both.1, ?_⟩
  have answered : ((guardedServer "spring").respond (loginWith "spring")).1 = .json 200
      (.object [("session_id", .text "0123456789abcdef0123456789abcdef")]) := by
    unfold respond
    rw [wanted]
    rfl
  exact congrArg (fun response => [some response]) answered

end Home
end HomeMedia
