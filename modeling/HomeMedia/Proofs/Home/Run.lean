import HomeMedia.Home.Command
import HomeMedia.Proofs.EventLoop
/-!
# Runs of a home server

A run is a list of *happenings*: a command from outside, the turn of an agent, or another clock with
other agents ready. Happenings come in any order. In particular a command may come between any two
turns, and an agent may get a turn at any moment, in whatever order and however often; so what holds
of all runs does not depend on how the agents are scheduled. The runs in which every command is
followed by turns until nobody is ready are among them (`exists_after_run`). What is answered on the
way is the `history` of a run. Much of what happens are requests, and a request is answered in one
of few ways (`answer_cases`).
-/

namespace HomeMedia
namespace Home

/-- A new timer of either kind. -/
def newTimer : Bool → Timer.Source Subscriber
  | true => .interval {}
  | false => .manual {}

/-- Something that happens to a home server. -/
inductive Happening where
  /-- Something is asked from outside. -/
  | command (command : Command)
  /-- An agent has its turn. -/
  | turn (agent : Agent)
  /-- The clock moves, or agents become ready. -/
  | reloop (loop : EventLoop Agent)

/-- The server after something has happened. -/
def next (h : Home) : Happening → Home
  | .command command => (h.act command).2
  | .turn agent => poll agent h
  | .reloop loop => { h with loop }

/-- The server after a run. -/
def after (h : Home) (run : List Happening) : Home := run.foldl next h

/-- Runs can be taken in two parts. -/
theorem after_append (h : Home) (run more : List Happening) :
    h.after (run ++ more) = (h.after run).after more := List.foldl_append

/-- The last happening comes after the others. -/
theorem after_concat (h : Home) (run : List Happening) (last : Happening) :
    h.after (run ++ [last]) = (h.after run).next last := by
  rw [after_append]
  rfl

/-- What a happening is answered, and the server afterwards; only commands are answered. -/
def undergone (h : Home) : Happening → Reply × Home
  | .command command => h.act command
  | happening => (.nothing, h.next happening)

/-- All that is answered in a run, each time with the server afterwards. -/
def history : Home → List Happening → List (Reply × Home)
  | _, [] => []
  | h, happening :: more => h.undergone happening :: (h.undergone happening).2.history more

/-- What every happening of a run keeps, the run keeps. -/
theorem after_of_next {P : Home → Prop} {run : List Happening}
    (kept : ∀ happening ∈ run, ∀ h, P h → P (h.next happening)) {h : Home} (start : P h) :
    P (h.after run) := by
  induction run generalizing h with
  | nil => exact start
  | cons first more ih =>
    exact ih (fun happening hmem => kept happening (List.mem_cons_of_mem _ hmem))
      (kept first (List.mem_cons_self ..) h start)

/-- Settling is a run. -/
theorem exists_after_settle (h : Home) : ∃ run, Live.settle h = h.after run := by
  have kept : Live.Kept fun g => ∃ run, g = h.after run := by
    refine ⟨fun loop s => ?_, fun agent s => ?_⟩
    · rintro ⟨run, rfl⟩
      exact ⟨run ++ [.reloop loop], by rw [after_concat]; rfl⟩
    · rintro ⟨run, rfl⟩
      exact ⟨run ++ [.turn agent], by rw [after_concat]; rfl⟩
  exact kept.settle ⟨[], rfl⟩

/-- **Commands that wait until everybody waits make runs.** -/
theorem exists_after_run (waits : Bool) (command : Command) (h : Home) :
    ∃ run, (h.run waits command).2 = h.after run := by
  cases waits with
  | false => exact ⟨[.command command], rfl⟩
  | true =>
    obtain ⟨run, hrun⟩ := exists_after_settle (h.act command).2
    exact ⟨.command command :: run, hrun⟩

/-- **What a route answers:** the same to everyone, a login, or what the caller may ask for. -/
theorem answer_cases (r : Web.Request) (route : Web.Route) (h : Home) :
    (∃ response, h.answer r route = (response, h)) ∨
      (route = .login ∧ h.answer r route = h.logIn r) ∨
      (∀ e g, h.authenticate r = (.error e, g) → h.answer r route = g.refuse e) ∧
        ∀ s g, h.authenticate r = (.ok s, g) → h.answer r route = g.answerSession s r route := by
  unfold answer
  split
  · exact .inl ⟨_, rfl⟩
  · exact .inl ⟨_, rfl⟩
  · exact .inl ⟨_, rfl⟩
  · exact .inr (.inl ⟨rfl, rfl⟩)
  · refine .inr (.inr ⟨fun e g refused => ?_, fun s g accepted => ?_⟩)
    · rw [refused]
    · rw [accepted]

end Home
end HomeMedia
