import HomeMedia.Path
import HomeMedia.Settings.Stage
import HomeMedia.Settings.Ui
/-!
# Settings of the server

Everything a server is started with: the media library, the stage, the settings of the web
interface, the port, the origins that browsers may call from, and an online catalog. The variables
are read in a fixed order, and the first that is refused is reported; the settings of a catalog are
looked at only where one is named.
-/

namespace HomeMedia
namespace Settings

/-- An online catalog. -/
structure Catalog where
  /-- Where its listing is. -/
  url : String
  /-- Seconds between two refreshes. -/
  refreshSeconds : Nat
  deriving DecidableEq, Repr

/-- The settings of the server. -/
structure Server where
  /-- The directory of the media library. -/
  library : Path
  /-- The stage the server runs in. -/
  stage : Stage
  /-- The settings of the web interface. -/
  ui : Ui
  /-- The port to listen on. -/
  port : Nat
  /-- The origins that browsers may call from, if they were listed. -/
  origins : Option (List String)
  /-- The online catalog, if one is named. -/
  catalog : Option Catalog
  deriving DecidableEq, Repr

/-- Why the server does not start. -/
inductive Refusal where
  /-- The settings of the web interface are refused. -/
  | ui (error : Error)
  /-- The settings of the catalog are refused. -/
  | catalog (error : Error)
  /-- The port is none. -/
  | port (fault : Number.Fault)
  deriving DecidableEq, Repr

/-- The wording of a refusal, with what was being read. -/
def Refusal.message : Refusal → String
  | ui error => "Failed to load UI config: " ++ error.message
  | catalog error => "Failed to load catalog config: " ++ error.message
  | port fault => "Invalid HEARTH_PORT value: " ++ fault.message

namespace Server

/-- The port of a server that is not told another. -/
def defaultPort : Nat := 49152

/-- Seconds between two refreshes of a catalog that is not told otherwise. -/
def defaultRefresh : Nat := 3600

/-- The variables that are looked at. -/
def names : List String := [
  "MEDIA_LIBRARY_PATH", "ENVIRONMENT", "HEARTH_PORT", "CORS_ORIGINS", "ONLINE_CATALOG_URL",
  "ONLINE_CATALOG_REFRESH", "UI_SESSION_TIMEOUT", "UI_SESSION_SWEEP_INTERVAL",
  "UI_MAX_UPDATE_IDS", "UI_ACCOUNTS_ENABLED", "UI_ACCOUNTS"]

/-- The catalog that the variables name. -/
def catalogOf (vars : Variables) : Except Refusal (Option Catalog) :=
  match vars.text? "ONLINE_CATALOG_URL" with
  | none => .ok none
  | some url =>
    if Text.trimmed url = "" then .ok none
    else
      match vars.nat Number.max64 "ONLINE_CATALOG_REFRESH" defaultRefresh with
      | .error e => .error (.catalog e)
      | .ok seconds => .ok (some ⟨Text.trimmed url, seconds⟩)

/-- The port that the variables name; blanks around it are not allowed. -/
def portOf (vars : Variables) : Except Refusal Nat :=
  match vars.text? "HEARTH_PORT" with
  | none => .ok defaultPort
  | some value => (Number.readNat Number.max16 value.toList).mapError Refusal.port

/-- The origins between the commas, trimmed, without blank ones. -/
def originsOf (list : String) : List String :=
  (((Text.split ',' list.toList).map Text.trim).filter fun origin => origin != []).map String.ofList

/-- The settings that the variables describe. -/
def ofVariables (vars : Variables) : Except Refusal Server := do
  let ui ← (Ui.ofVariables vars).mapError Refusal.ui
  let catalog ← catalogOf vars
  let port ← portOf vars
  return {
    library := Path.ofString (vars.textOr "MEDIA_LIBRARY_PATH" "/media")
    stage := Stage.ofString (vars.textOr "ENVIRONMENT" "development")
    ui, port, catalog
    origins := (vars.text? "CORS_ORIGINS").map originsOf }

/-- Whether anyone may log in to a server that runs in production. -/
def isOpenProduction (s : Server) : Bool := s.stage.isProduction && !s.ui.accountsEnabled

end Server
end Settings
end HomeMedia
