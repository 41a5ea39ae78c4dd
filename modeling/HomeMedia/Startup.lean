import HomeMedia.Duration
import HomeMedia.Home.Web
import HomeMedia.Home.Worker
import HomeMedia.Settings.EnvFile
import HomeMedia.Settings.Server
import HomeMedia.Web.Cors
/-!
# Starting a server

A server starts from its variables. First the settings are read; only if none is refused the parts
of the server are put together: the registry of sessions, the queue with a first scan of the media
library, and the schedule of the catalog with a first refresh. Last comes the decision which other
origins may call, which can still keep the server from starting.

The first scan cannot be cancelled. It is left out where the media library is no directory.
-/

namespace HomeMedia
namespace Startup

/-- Why a server does not start. -/
inductive Failure where
  /-- The settings are refused. -/
  | settings (refusal : Settings.Refusal)
  /-- The wildcard is listed among the origins. -/
  | wildcard (cause : Web.Cors.Wildcard)
  deriving DecidableEq, Repr

/-- The wording of a failure. -/
def Failure.message : Failure → String
  | settings refusal => refusal.message
  | wildcard cause => cause.message

/-- The exit code of a server that does not start. -/
def Failure.exitCode : Failure → UInt8
  | settings _ => 1
  | wildcard _ => 101

/-- A server that has started. -/
structure Server where
  /-- Its settings. -/
  settings : Settings.Server
  /-- Which other origins may call. -/
  policy : Web.Cors
  /-- Its parts. -/
  home : Home

/-- What is reported about settings that are usable and yet unwise. -/
def warnings (s : Settings.Server) : List Event :=
  if s.isOpenProduction then [.openProduction] else []

/-- Queues the first scan of the media library. -/
def queueScan (library : Path) (h : Home) : Home :=
  if h.files.isDirectory library then
    let (id, h) := h.addTask (Home.scanTask library false) none
    h.report [.initialScan id]
  else h.report [.noLibrary library]

/-- Starts the schedule of a catalog and queues its first refresh. -/
def startCatalog (catalog : Settings.Catalog) (h : Home) : Home :=
  let (scheduled, h) := { h with
    service := { name := "catalog", interval := some (catalog.refreshSeconds * Duration.second) }
    schedule := some {} }.startSchedule
  let (id, h) := h.refreshNow false
  h.report [.initialRefresh id scheduled]

/-- Puts the parts of a server together. -/
def assemble (s : Settings.Server) (ids : Session.Candidates) (files : Files) : Home :=
  let h : Home := { timer := .interval {}, files, mediaRoot := s.library }
  let h := h.report (warnings s)
  let h := h.report [.serverStarting s.port s.stage.name s.library]
  let h := { h.openRegistry s.ui ids with loop := h.loop.wake .worker }
  let h := queueScan s.library h
  match s.catalog with
  | none => h
  | some catalog => startCatalog catalog h

/-- Starts a server. -/
def start (vars : Settings.Variables) (ids : Session.Candidates) (files : Files) :
    Except Failure Server :=
  match Settings.Server.ofVariables vars with
  | .error refusal => .error (.settings refusal)
  | .ok settings =>
    let home := assemble settings ids files
    match Web.Cors.ofSettings settings.stage.isProduction settings.origins with
    | (.error cause, _) => .error (.wildcard cause)
    | (.ok policy, events) => .ok { settings, policy, home := home.report events }

end Startup
end HomeMedia
