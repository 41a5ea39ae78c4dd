import HomeMedia.Content
import HomeMedia.Task.Error
/-!
# Background tasks

A task is a header and a body. The header says what the task is and whether it may be cancelled; the
body is the list of actions that the task takes one after the other. Cancelling is cooperative: a
task ends early only by an action of its own that looks at its token.

Bodies are data, so a task can carry the tasks that it adds, and what a worker still has to do for a
task is the rest of a list.
-/

namespace HomeMedia
namespace Task

/-- The number of a task, handed out when the task is added. -/
abbrev Id := Nat

/-- What kind of work a task does. -/
inductive Kind where
  | rescanDirectory
  | fetchOnlineContent
  | generic
  deriving DecidableEq, Repr

/-- The name of a kind. -/
def Kind.name : Kind → String
  | rescanDirectory => "rescan_directory"
  | fetchOnlineContent => "fetch_online_content"
  | generic => "generic"

/-- How a task ended that did not fail. -/
inductive Outcome where
  /-- It did all of its work. -/
  | completed
  /-- It saw its token set and stopped early. -/
  | cancelled
  deriving DecidableEq, Repr

/-- What is known of a task from outside. -/
structure Header where
  /-- The kind of work. -/
  kind : Kind
  /-- The description shown in the task list. -/
  description : String
  /-- Whether the task may be cancelled from outside. -/
  cancellable : Bool
  /-- Whether the task belongs to a refresh schedule, which arms its timer again at the end. -/
  scheduled : Bool
  deriving DecidableEq, Repr

/-- What a panic carries. -/
inductive Payload where
  /-- A text. -/
  | text (message : String)
  /-- Anything else. -/
  | other
  deriving DecidableEq, Repr

/-- The message that a panic is reported with. -/
def Payload.message : Payload → String
  | text message => message
  | other => "unknown panic payload"

/-- One step of a task. -/
inductive Action where
  /-- Ends as cancelled if the token is set. -/
  | check
  /-- Leaves a text as trace of the step. -/
  | note (text : String)
  /-- Leaves the state of the token as trace. -/
  | noteValidity
  /-- Waits for a number of milliseconds. -/
  | sleep (ms : Nat)
  /-- Waits until a gate is open. -/
  | await (gate : String)
  /-- Fails. -/
  | fail (error : Error)
  /-- Panics. -/
  | panic (payload : Payload)
  /-- Adds a child of the task. -/
  | spawn (header : Header) (body : List Action)
  /-- Adds a task that is no child. -/
  | add (header : Header) (body : List Action)
  /-- Cancels a task with its children, by default this one. -/
  | invalidate (id : Option Id)
  /-- Ends as cancelled. -/
  | giveUp
  /-- Scans a directory into the library. -/
  | rescan (path : Path)
  /-- Asks the online service for its next refresh. -/
  | fetch
  /-- Sets the token of the task itself. -/
  | interrupt
  /-- Takes the answer of the online service. -/
  | conclude (answer : Except Error (List ObjectId))

end Task

/-- A task: what it is, and what it does. -/
structure Task extends Task.Header where
  /-- The steps, in order. -/
  body : List Task.Action

namespace Task

mutual

/-- A bound on the rounds that the steps of an action take, those of the tasks it adds included. -/
def Action.weight : Action → Nat
  | .spawn _ body => 12 + weigh body
  | .add _ body => 12 + weigh body
  | .fetch => 16
  | _ => 2

/-- The weight of a body. -/
def weigh : List Action → Nat
  | [] => 0
  | action :: more => action.weight + weigh more

end

/-- The weight of a task. -/
def weight (task : Task) : Nat := 8 + weigh task.body

/-- A task as the task list shows it. -/
structure View where
  /-- The number of the task. -/
  id : Id
  /-- The task that added it as a child. -/
  parent : Option Id
  /-- What kind of work it does. -/
  kind : Kind
  /-- Its description. -/
  description : String
  /-- Whether it may be cancelled. -/
  cancellable : Bool
  /-- Whether its token is unset. -/
  valid : Bool
  deriving DecidableEq, Repr

end Task
end HomeMedia
