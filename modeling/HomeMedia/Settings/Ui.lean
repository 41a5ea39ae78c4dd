import HomeMedia.Settings.Accounts
import HomeMedia.Settings.Variables
import HomeMedia.Text.Quoted
/-!
# Settings of the web interface

How long sessions live and how often idle ones are swept, how many changed containers a session
lists before it asks for a full reload, and who may log in. The description of the settings names
the users and never a password.
-/

namespace HomeMedia
namespace Settings

/-- The settings of the web interface. -/
structure Ui where
  /-- Seconds after which an idle session ends. -/
  sessionTimeout : Nat := 1800
  /-- Seconds between two sweeps of idle sessions. -/
  sweepInterval : Nat := 60
  /-- The number of changes at which a session asks for a full reload. -/
  maxUpdates : Nat := 10
  /-- Whether a login needs an account. -/
  accountsEnabled : Bool := false
  /-- The accounts. -/
  accounts : Accounts := .empty
  deriving DecidableEq, Repr, Inhabited

namespace Ui

/-- The default settings with another session timeout. -/
def withTimeout (seconds : Nat) : Ui := { sessionTimeout := seconds }

/-- The first rule that the settings break. -/
def conflict? (ui : Ui) : Option Conflict :=
  if ui.maxUpdates = 0 then some .noCap
  else if ui.sweepInterval = 0 then some .noSweepInterval
  else if ui.accountsEnabled && ui.accounts.isEmpty then some .noAccounts
  else none

/-- Refuses settings that break a rule. -/
def validate (ui : Ui) : Except Error Unit :=
  match ui.conflict? with
  | some c => .error (.conflict c)
  | none => .ok ()

/-- The settings that the variables describe. -/
def ofVariables (vars : Variables) : Except Error Ui := do
  let defaults : Ui := {}
  let sessionTimeout ← vars.nat Number.max64 "UI_SESSION_TIMEOUT" defaults.sessionTimeout
  let sweepInterval ← vars.nat Number.max64 "UI_SESSION_SWEEP_INTERVAL" defaults.sweepInterval
  let maxUpdates ← vars.nat Number.max64 "UI_MAX_UPDATE_IDS" defaults.maxUpdates
  let accountsEnabled ← vars.bool "UI_ACCOUNTS_ENABLED" defaults.accountsEnabled
  let accounts ← Accounts.ofString (vars.textOr "UI_ACCOUNTS" "")
  let ui : Ui := { sessionTimeout, sweepInterval, maxUpdates, accountsEnabled, accounts }
  ui.validate
  return ui

/-- The settings in words. -/
def describe (ui : Ui) : String :=
  Text.record "UiConfig" [
    ("session_timeout_secs", toString ui.sessionTimeout),
    ("sweep_interval_secs", toString ui.sweepInterval),
    ("max_update_ids", toString ui.maxUpdates),
    ("accounts_enabled", Text.truth ui.accountsEnabled),
    ("accounts", Text.quotedList ui.accounts.users)] false

end Ui
end Settings
end HomeMedia
