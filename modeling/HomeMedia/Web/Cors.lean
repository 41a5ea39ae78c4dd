import HomeMedia.Log
/-!
# Which other origins may call

Browsers ask whether a page of another origin may use an answer. Listed origins may, each being
named back to the page that comes from it; an origin that cannot stand in a header is left out, and
if none is left nobody may. Without a list nobody may in production, and everybody elsewhere. The
wildcard cannot be listed.

A request with the method `OPTIONS` is always answered, with everything that is allowed.
-/

namespace HomeMedia
namespace Web

open Text (Bytes)

/-- Who may call. -/
inductive Cors where
  /-- Nobody. -/
  | nobody
  /-- These origins. -/
  | only (origins : List Bytes)
  /-- Everybody. -/
  | everybody
  deriving DecidableEq, Repr

namespace Cors

/-- A list of origins holds the wildcard. -/
structure Wildcard where
  deriving DecidableEq, Repr

/-- The wording of the failure. -/
def Wildcard.message (_ : Wildcard) : String :=
  "Wildcard origin (`*`) cannot be passed to `AllowOrigin::list`. " ++
    "Use `AllowOrigin::any()` instead"

/-- Whether bytes can stand in a header. -/
def isHeaderValue (value : Bytes) : Bool := value.all fun b => (32 ≤ b && b != 127) || b == 9

/-- The origins that can stand in a header. -/
def usable (origins : List String) : List Bytes :=
  (origins.map Text.Utf8.ofString).filter isHeaderValue

/-- What is reported about the origins that cannot. -/
def skipped (origins : List String) : List Event :=
  (origins.filter fun origin => !isHeaderValue (Text.Utf8.ofString origin)).map .originSkipped

/-- Who may call by the settings, and what is reported about it. -/
def ofSettings (isProduction : Bool) (origins : Option (List String)) :
    Except Wildcard Cors × List Event :=
  match origins.getD [] with
  | [] => if isProduction then (.ok nobody, [.originsUnset]) else (.ok everybody, [.originsOpen])
  | listed =>
    match usable listed with
    | [] => (.ok nobody, skipped listed ++ [.noOriginLeft])
    | left =>
      let events := skipped listed ++ [Event.originsAllowed left.length listed]
      if left.contains [42] then (.error {}, events) else (.ok (only left), events)

/-- The header that names the origin that may use an answer. -/
def allowOrigin (policy : Cors) (origin : Option Bytes) : List (String × Bytes) :=
  let header (value : Bytes) := [("access-control-allow-origin", value)]
  match policy with
  | nobody => []
  | everybody => header [42]
  | only origins =>
    match origin with
    | some origin => if origins.contains origin then header origin else []
    | none => []

/-- What is told besides in answer to the method `OPTIONS`. -/
def preflight : Cors → List (String × String)
  | nobody => []
  | everybody => [("access-control-allow-methods", "*"), ("access-control-allow-headers", "*")]
  | only _ => [("access-control-allow-methods", "GET,POST,DELETE,OPTIONS"),
      ("access-control-allow-headers", "content-type,accept,x-session-id"),
      ("access-control-max-age", "3600")]

/-- What is told besides in answer to other methods. -/
def exposed : Cors → List (String × String)
  | everybody => [("access-control-expose-headers", "*")]
  | _ => []

/-- Whether the answer to a method comes from the policy alone. -/
def answersAlone (method : String) : Bool := method == "OPTIONS"

/-- The headers of an answer. -/
def headers (policy : Cors) (method : String) (origin : Option Bytes) : List (String × Bytes) :=
  policy.allowOrigin origin ++
    (if answersAlone method then policy.preflight else policy.exposed).map
      fun (name, value) => (name, Text.Utf8.ofString value)

end Cors
end Web
end HomeMedia
