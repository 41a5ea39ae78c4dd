import HomeMedia.Path
/-!
# Failures of background tasks

A task that fails says why. How loudly the failure is logged depends on whose fault it is: a panic
points at a defect in the task, a refused file at the store, an unreachable service at the outside
world, and a directory that is not there is nobody's fault.
-/

namespace HomeMedia
namespace Task

/-- Why a task failed. -/
inductive Error where
  /-- The directory to scan is not there or is no directory. -/
  | directoryNotFound (path : Path)
  /-- The store refused an operation. -/
  | storage (message : String)
  /-- An online service answered with a failure. -/
  | onlineService (service message : String)
  /-- An online service did not answer in time. -/
  | serviceTimeout (service : String)
  /-- The task panicked. -/
  | panicked (message : String)
  deriving DecidableEq, Repr

/-- How serious a failure is. -/
inductive Severity where
  | critical
  | error
  | warning
  | info
  deriving DecidableEq, Repr

namespace Error

/-- The severity of a failure. -/
def severity : Error → Severity
  | panicked _ => .critical
  | storage _ => .error
  | onlineService _ _ => .warning
  | serviceTimeout _ => .warning
  | directoryNotFound _ => .info

/-- The wording of a failure. -/
def message : Error → String
  | directoryNotFound path => "directory not found: " ++ path.shown
  | storage message => "storage error: " ++ message
  | onlineService service message => "online service error from " ++ service ++ ": " ++ message
  | serviceTimeout service => "online service timeout: " ++ service
  | panicked message => "task panicked: " ++ message

end Error
end Task
end HomeMedia
