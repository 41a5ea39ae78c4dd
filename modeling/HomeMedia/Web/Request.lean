import HomeMedia.Json.Reader
import HomeMedia.Web.Error
import HomeMedia.Web.MediaType
import HomeMedia.Web.Percent
/-!
# Requests and what is read from them

A request has a method, a target, header values and a body. Of a target only the path and the query
count. The id of a session is the first value of its header, if that is visible ASCII, without
the blanks around it.

A JSON body is looked at in three steps, and the first that fails decides the status: whether it is
declared to be JSON, whether it is short enough, and whether it can be read.
-/

namespace HomeMedia
namespace Web

open Text (Bytes)

/-- A request. -/
structure Request where
  /-- The method, in upper case. -/
  method : String
  /-- The path with the query. -/
  target : Bytes
  /-- The values of the session header, in order. -/
  sessions : List Bytes := []
  /-- The declared type of the body. -/
  contentType : Option Bytes := none
  /-- The body. -/
  body : Bytes := []
  deriving DecidableEq, Repr

/-- A refusal by the rules of the protocol, which are not those of the server: only a status. -/
structure Rejection where
  /-- The status. -/
  status : Nat
  deriving DecidableEq, Repr

namespace Request

/-- Whether a byte of a target ends the name of the host. -/
def endsHost (b : UInt8) : Bool := b == 47 || b == 63 || b == 35

/-- A target without the scheme and the host that it may begin with. -/
def onServer (target : Bytes) : Bytes :=
  match Text.after? (Text.Utf8.ofString "://") (target.dropWhile fun b => !endsHost b && b != 58) with
  | none => target
  | some host =>
    match host.dropWhile fun b => !endsHost b with
    | 47 :: rest => 47 :: rest
    | rest => 47 :: rest

/-- The target on the server, without a fragment. -/
def place (r : Request) : Bytes := (Text.cutAt 35 (onServer r.target)).1

/-- The path of a target. -/
def path (r : Request) : Bytes := (Text.cutAt 63 r.place).1

/-- The query of a target; empty where there is none. -/
def query (r : Request) : Bytes := (Text.cutAt 63 r.place).2.getD []

/-- Whether a byte of a header can be seen, or is a tab. -/
def isVisible (b : UInt8) : Bool := (32 ≤ b && b < 127) || b == 9

/-- A header value that can be seen, as text. -/
def visible? (value : Bytes) : Option String :=
  if value.all isVisible then Text.Utf8.toString? value else none

/-- The session id that a request shows. -/
def sessionId? (r : Request) : Option String :=
  match r.sessions.head?.bind visible? with
  | none => none
  | some value =>
    let id := Text.trimmed value
    if id = "" then none else some id

/-- The longest body that is read. -/
def maxBody : Nat := 2097152

/-- The body of a request, read as JSON. -/
def json {α : Type} (reader : Json.Reader α) (r : Request) : Except Rejection α :=
  if !(r.contentType.any fun declared => (visible? declared).isSome && MediaType.isJson declared)
  then .error ⟨415⟩
  else if maxBody < r.body.length then .error ⟨413⟩
  else
    match reader r.body with
    | .ok (value, _) => .ok value
    | .error .malformed => .error ⟨400⟩
    | .error .mismatch => .error ⟨422⟩

end Request

/-- What a login sends. -/
structure Login where
  /-- The user, as typed. -/
  user : String := ""
  /-- The password. -/
  password : String := ""
  deriving DecidableEq, Repr

/-- Reads what a login sends. -/
def Login.reader : Json.Reader Login :=
  Json.Reader.record [
    Json.Reader.textMember "username" fun value l => { l with user := value },
    Json.Reader.textMember "password" fun value l => { l with password := value }] {}

/-- Reads the path that a scan is asked for. -/
def rescanReader : Json.Reader String :=
  Json.Reader.record [Json.Reader.textMember "path" fun value _ => value] ""

/-- What a user interface wants to do about its pending changes. -/
inductive UpdatesAction where
  /-- To know whether there are any. -/
  | check
  /-- To be told. -/
  | get
  /-- To forget them. -/
  | clear
  deriving DecidableEq, Repr

/-- The action that a word names. -/
def UpdatesAction.ofString (word : String) : Except Error UpdatesAction :=
  if word = "check" then .ok .check
  else if word = "get" then .ok .get
  else if word = "clear" then .ok .clear
  else .error (.invalidParameter "updates"
    ("expected check, get or clear, got '" ++ word ++ "'"))

/-- The name of an action. -/
def UpdatesAction.name : UpdatesAction → String
  | check => "Check"
  | get => "Get"
  | clear => "Clear"

/-- The word in a query that names an action; it must not be given twice. -/
def Request.updatesWord (r : Request) : Except Rejection (Option String) :=
  match (queryPairs r.query).filter fun pair => pair.1 == "updates" with
  | [] => .ok none
  | [(_, word)] => .ok (some word)
  | _ => .error ⟨400⟩

end Web
end HomeMedia
