import HomeMedia.Settings.Error
import HomeMedia.Text.Blank
import HomeMedia.Text.Utf8
/-!
# Environment variables

Settings come from variables whose values are raw bytes. A value that is not UTF-8 counts as unset.
A number or a truth value may stand between blanks; a text is taken as it is.
-/

namespace HomeMedia
namespace Settings

open Text (Bytes)

/-- The values of all variables that are set. -/
abbrev Variables := String → Option Bytes

namespace Variables

/-- No variable is set. -/
def empty : Variables := fun _ => none

/-- The variables with one more set. -/
def set (vars : Variables) (name : String) (value : Bytes) : Variables :=
  fun other => if other = name then some value else vars other

/-- The value of a variable that is set to a text. -/
def text? (vars : Variables) (name : String) : Option String :=
  (vars name).bind Text.Utf8.toString?

/-- The value of a variable, or the default. -/
def textOr (vars : Variables) (name default : String) : String := (vars.text? name).getD default

/-- The value of a variable read by `read` between blanks, or the default. -/
def read {α : Type} (read : List Char → Except Reason α) (vars : Variables) (name : String)
    (default : α) : Except Error α :=
  match vars.text? name with
  | none => .ok default
  | some value => (read (Text.trim value.toList)).mapError (Error.invalidValue name)

/-- An unsigned number of at most `limit`. -/
def nat (limit : Nat) : Variables → String → Nat → Except Error Nat :=
  read fun cs => (Number.readNat limit cs).mapError Reason.number

/-- A signed number from `-(limit + 1)` to `limit`. -/
def int (limit : Nat) : Variables → String → Int → Except Error Int :=
  read fun cs => (Number.readInt limit cs).mapError Reason.number

/-- A truth value. -/
def bool : Variables → String → Bool → Except Error Bool :=
  read fun cs => match Number.readBool cs with
    | some b => .ok b
    | none => .error .truth

end Variables
end Settings
end HomeMedia
