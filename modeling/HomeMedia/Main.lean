import HomeMedia.Home.Command
import HomeMedia.Startup
/-!
# The command line

Starts a server from the variables of the process. Every argument is one more line of a file of
variables. The server then answers requests from standard input until its end, one on a line: the
method, the target, and where they are wanted the id of a session, or a dash, and a JSON body. An
answer is a line with the status and the body, between the lines of the log.
-/

namespace HomeMedia
namespace CommandLine

/-- The variables of the process, and those of the arguments. -/
def environment (args : List String) : IO Settings.Variables := do
  let mut vars := Settings.Variables.empty
  for name in Settings.Server.names do
    if let some value ← IO.getEnv name then
      vars := vars.set name (Text.Utf8.ofString value)
  return Settings.EnvFile.load ("\n".intercalate args ++ "\n") vars

/-- A source of ids that nobody can guess. -/
def ids : IO Session.Candidates := do
  let bytes ← IO.getRandomBytes 16
  return Session.Candidates.spread (bytes.toList.foldl (fun n b => n * 256 + b.toNat) 0)

/-- A line of the log as text. -/
def logLine (line : Log.Line) : String :=
  " ".intercalate
    ([line.level.name, line.message] ++ line.fields.map fun (name, value) => name ++ "=" ++ value)

/-- Prints what a server has reported, and forgets it. -/
def printLog (h : Home) : IO Home := do
  for line in Event.lines h.log do
    IO.println (logLine line)
  return { h with log := [], traces := [] }

/-- The request on a line. -/
def request? (line : String) : Option Web.Request :=
  match (Text.split ' ' (Text.trim line.toList)).map String.ofList with
  | method :: target :: rest =>
    let session := rest.head?.filter fun id => id != "-"
    some {
      method
      target := Text.Utf8.ofString target
      sessions := session.toList.map Text.Utf8.ofString
      contentType := some (Text.Utf8.ofString "application/json")
      body := Text.Utf8.ofString (" ".intercalate rest.tail) }
  | _ => none

/-- The body of an answer as text. -/
def bodyText : Web.Content → String
  | .none => ""
  | .text s => " " ++ s
  | .json none => ""
  | .json (some value) => " " ++ value.render

/-- Answers the requests that are read. `start` is when the clock of the server stood at zero. -/
partial def serve (input : IO.FS.Stream) (start : Nat) (h : Home) : IO Unit := do
  let line ← input.getLine
  if line.isEmpty then return
  let passed := (← IO.monoMsNow) - start - h.loop.now
  let (_, h) := h.run true (.sleep passed)
  match request? line with
  | none => serve input start h
  | some request =>
    let (reply, h) := h.run true (.request request)
    let h ← printLog h
    if let .response response := reply then
      IO.println (toString response.status ++ bodyText response.content)
    serve input start h

/-- Starts a server and lets it answer; the exit code tells why it did not start. -/
def launch (args : List String) : IO UInt32 := do
  match Startup.start (← environment args) (← ids) {} with
  | .error failure =>
    IO.eprintln ("Error: " ++ failure.message)
    return failure.exitCode.toUInt32
  | .ok server =>
    let h ← printLog (Live.settle server.home)
    serve (← IO.getStdin) (← IO.monoMsNow) h
    return 0

end CommandLine
end HomeMedia

/-- The command line. -/
def main (args : List String) : IO UInt32 := HomeMedia.CommandLine.launch args
