import HomeMedia.Number
/-!
# Faults in the settings

A setting is refused because its value cannot be read, because an entry of the account list is no
account, or because the settings do not fit together.
-/

namespace HomeMedia
namespace Settings

/-- Why a value cannot be read. -/
inductive Reason where
  /-- It is no number of the wanted range. -/
  | number (fault : Number.Fault)
  /-- It is no truth value. -/
  | truth
  deriving DecidableEq, Repr

/-- The wording of a reason. -/
def Reason.message : Reason → String
  | number fault => fault.message
  | truth => "provided string was not `true` or `false`"

/-- A rule that the settings of the web interface break together. -/
inductive Conflict where
  /-- The cap on reported changes is zero. -/
  | noCap
  /-- The interval between sweeps is zero. -/
  | noSweepInterval
  /-- Accounts are required and there are none. -/
  | noAccounts
  deriving DecidableEq, Repr

/-- The wording of a conflict. -/
def Conflict.message : Conflict → String
  | noCap => "UI_MAX_UPDATE_IDS must be at least 1"
  | noSweepInterval => "UI_SESSION_SWEEP_INTERVAL must be at least 1 second"
  | noAccounts => "UI_ACCOUNTS_ENABLED is set but UI_ACCOUNTS is empty"

/-- Why settings are refused. -/
inductive Error where
  /-- The value of a variable cannot be read. -/
  | invalidValue (name : String) (reason : Reason)
  /-- An entry of the account list is no account. -/
  | invalidAccount (entry : String)
  /-- The settings do not fit together. -/
  | conflict (conflict : Conflict)
  deriving DecidableEq, Repr

/-- The wording of a refusal. -/
def Error.message : Error → String
  | invalidValue name reason => "invalid value for " ++ name ++ ": " ++ reason.message
  | invalidAccount entry => "invalid account entry '" ++ entry ++ "': expected user:password"
  | conflict c => "configuration validation failed: " ++ c.message

end Settings
end HomeMedia
