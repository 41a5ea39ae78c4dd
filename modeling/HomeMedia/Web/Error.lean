import HomeMedia.Session.Registry
/-!
# Refused requests

Every refusal has a status, a code for programs and a wording for people. Refusals that lie with the
server are logged as errors, missing rights as warnings, and mistakes of the client not at all.
-/

namespace HomeMedia
namespace Web

/-- Why a request is refused. -/
inductive Error where
  /-- No live, logged-in session was shown. -/
  | unauthorized
  /-- The user or the password is wrong. -/
  | invalidCredentials
  /-- Something that the request names is not there. -/
  | notFound (resource id : String)
  /-- The request makes no sense. -/
  | invalid (message : String)
  /-- A parameter behind the question mark makes no sense. -/
  | invalidParameter (name reason : String)
  /-- No session could be created. -/
  | session (cause : Session.IdsExhausted)
  /-- The server is not set up for the request. -/
  | internal (message : String)
  deriving DecidableEq, Repr

namespace Error

/-- The status of a refusal. -/
def status : Error → Nat
  | unauthorized => 401
  | invalidCredentials => 401
  | notFound _ _ => 404
  | invalid _ => 400
  | invalidParameter _ _ => 400
  | session _ => 500
  | internal _ => 500

/-- The code of a refusal. -/
def code : Error → String
  | unauthorized => "UNAUTHORIZED"
  | invalidCredentials => "INVALID_CREDENTIALS"
  | notFound _ _ => "NOT_FOUND"
  | invalid _ => "VALIDATION_ERROR"
  | invalidParameter _ _ => "INVALID_QUERY_PARAM"
  | session _ => "SESSION_ID_EXHAUSTED"
  | internal _ => "INTERNAL_ERROR"

/-- The wording of a refusal. -/
def message : Error → String
  | unauthorized => "authentication required"
  | invalidCredentials => "invalid username or password"
  | notFound resource id => resource ++ " not found: " ++ id
  | invalid message => "validation error: " ++ message
  | invalidParameter name reason => "invalid query parameter '" ++ name ++ "': " ++ reason
  | session cause => "session error: " ++ cause.message
  | internal message => "internal server error: " ++ message

end Error
end Web
end HomeMedia
