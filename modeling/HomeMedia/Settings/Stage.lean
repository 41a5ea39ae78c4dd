import HomeMedia.Text.Lower
/-!
# The stage a server runs in

Development, staging or production. Anything that does not name one of the last two is development.
-/

namespace HomeMedia
namespace Settings

/-- What a server is run for. -/
inductive Stage where
  | development
  | staging
  | production
  deriving DecidableEq, Repr

namespace Stage

/-- The stage that a text names, in any case. -/
def ofString (s : String) : Stage :=
  let word := Text.lower s
  if word = "production" ∨ word = "prod" then production
  else if word = "staging" ∨ word = "stage" then staging
  else development

/-- The name of a stage. -/
def name : Stage → String
  | development => "development"
  | staging => "staging"
  | production => "production"

/-- Whether a stage is production. -/
def isProduction : Stage → Bool
  | production => true
  | _ => false

end Stage
end Settings
end HomeMedia
