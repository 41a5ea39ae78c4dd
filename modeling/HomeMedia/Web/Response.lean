import HomeMedia.Json.Basic
import HomeMedia.Task.Basic
import HomeMedia.Web.Error
/-!
# Responses

A response has a status and perhaps a content: a text, or JSON. The answer to a `HEAD` request is
that to a `GET` request with the body left away.
-/

namespace HomeMedia
namespace Web

/-- What a response carries. -/
inductive Content where
  /-- Nothing. -/
  | none
  /-- A text. -/
  | text (body : String)
  /-- JSON, perhaps with the body left away. -/
  | json (body : Option Json)

/-- A response. -/
structure Response where
  /-- The status. -/
  status : Nat
  /-- What it carries. -/
  content : Content := .none

namespace Response

/-- A response with JSON. -/
def json (status : Nat) (body : Json) : Response := ⟨status, .json (some body)⟩

/-- The response to a refused request. -/
def ofError (e : Error) : Response :=
  json e.status (.object [("code", .text e.code), ("message", .text e.message)])

/-- A response with its body left away. -/
def withoutBody (r : Response) : Response :=
  match r.content with
  | .none => r
  | .text _ => { r with content := .text "" }
  | .json _ => { r with content := .json none }

end Response

/-- A task of the task list as JSON. -/
def taskJson (v : Task.View) : Json :=
  .object ([("id", Json.number v.id)] ++
    ((v.parent.map fun id => ("parent_id", Json.number (Int.ofNat id))).toList) ++
    [("kind", .text v.kind.name), ("description", .text v.description),
      ("cancellable", .bool v.cancellable), ("valid", .bool v.valid)])

end Web
end HomeMedia
