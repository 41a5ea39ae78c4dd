import HomeMedia.EventLoop
import HomeMedia.Log
/-!
# The queue of background tasks

Tasks are numbered from one in the order in which they are added, and wait in that order. A single
worker takes them one at a time. A task that has been taken stays the current one until its run has
ended and the worker has put it away.

Cancelling by a number reaches the current task and the queue: every task of that number, and every
task that was added as its child, if it may be cancelled and is still valid, becomes invalid. It
keeps its place all the same.

A wake-up for the worker is not lost: if the worker is not waiting for one, a single one is kept
until it looks.
-/

namespace HomeMedia

/-- A task in the hands of the queue. -/
structure Work.Entry extends Task where
  /-- Its number. -/
  id : Task.Id
  /-- The task that added it as a child. -/
  parent : Option Task.Id
  /-- Whether its token is unset. -/
  valid : Bool := true

/-- What the worker is doing. -/
inductive Work.Worker where
  /-- It is about to look at the queue. -/
  | looking
  /-- It found the queue empty and waits to be woken. -/
  | parked
  /-- It has these steps of the current task left. -/
  | running (rest : List Task.Action)
  /-- It waits for a gate with these steps left. -/
  | atGate (gate : String) (rest : List Task.Action)
  /-- The run of the current task has ended. -/
  | ended
  /-- It has stopped for good. -/
  | stopped

/-- A call that asked the worker to stop and waits until it has. -/
inductive Work.Call where
  /-- It has not had its turn yet. -/
  | requested
  /-- It waits. -/
  | waiting
  /-- It has returned. -/
  | returned
  deriving DecidableEq, Repr

/-- The queue and its worker. -/
structure Work where
  /-- The tasks that wait, front first. -/
  queue : List Work.Entry := []
  /-- The task that the worker has taken. -/
  current : Option Work.Entry := none
  /-- Whether the worker was asked to stop. -/
  stopping : Bool := false
  /-- How many tasks were added. -/
  added : Nat := 0
  /-- What the worker is doing. -/
  worker : Work.Worker := .looking
  /-- Whether a wake-up is kept for the worker. -/
  permit : Bool := false
  /-- The calls that asked the worker to stop. -/
  calls : List Work.Call := []

namespace Work

/-- A task as the task list shows it. -/
def Entry.view (e : Entry) : Task.View :=
  { id := e.id, parent := e.parent, kind := e.kind, description := e.description
    cancellable := e.cancellable, valid := e.valid }

/-- Adds a task at the end of the queue. -/
def enqueue (task : Task) (parent : Option Task.Id) (w : Work) : Task.Id × Work :=
  let id := w.added + 1
  (id, { w with queue := w.queue ++ [{ task with id, parent }], added := id })

/-- The tasks that wait. -/
def list (w : Work) : List Task.View := w.queue.map Entry.view

/-- Whether cancelling by a number makes a task invalid. -/
def Entry.isHit (id : Task.Id) (e : Entry) : Bool :=
  (e.id == id || e.parent == some id) && e.cancellable && e.valid

/-- A task after cancelling by a number. -/
def Entry.hit (id : Task.Id) (e : Entry) : Entry :=
  if e.isHit id then { e with valid := false } else e

/-- The current task and the queue. -/
def entries (w : Work) : List Entry := w.current.toList ++ w.queue

/-- Cancels by a number; tells how many tasks became invalid. -/
def invalidate (id : Task.Id) (w : Work) : Nat × Work :=
  ((w.entries.filter (Entry.isHit id)).length,
    { w with current := w.current.map (Entry.hit id), queue := w.queue.map (Entry.hit id) })

/-- Sets the token of the current task. -/
def interrupt (w : Work) : Work :=
  { w with current := w.current.map fun e => { e with valid := false } }

/-- Whether the current task is valid. -/
def isValid (w : Work) : Bool := (w.current.map Entry.valid).getD true

/-- Wakes the worker; tells whether it becomes ready by that. -/
def notify (w : Work) : Bool × Work :=
  match w.worker with
  | .parked => (true, { w with worker := .looking })
  | _ => (false, { w with permit := true })

/-- Whether a call still holds on to the queue. -/
def hasOpenCall (w : Work) : Bool := w.calls.any fun c => c != .returned

/-- The worker stops, and the calls that wait for it return. -/
def stop (w : Work) : Work :=
  { w with
    worker := .stopped
    calls := w.calls.map fun c => if c = .waiting then .returned else c }

/-- Whether the worker has stopped. -/
def isStopped (w : Work) : Bool :=
  match w.worker with
  | .stopped => true
  | _ => false

/-- The steps the worker has left. -/
def Worker.rest : Worker → List Task.Action
  | .running rest => rest
  | .atGate _ rest => rest
  | _ => []

/-- A bound on the turns of the worker until it waits. -/
def effort (w : Work) : Nat :=
  let worker :=
    match w.worker with
    | .looking => 2
    | .running rest => 8 + Task.weigh rest
    | .atGate _ rest => 8 + Task.weigh rest
    | .ended => 3
    | _ => 1
  worker + EventLoop.total (fun e => e.toTask.weight) w.queue + if w.permit then 3 else 0

end Work
end HomeMedia
