import HomeMedia.Text.Blank
import HomeMedia.Text.Utf8
/-!
# Which bodies are declared to be JSON

A media type is a type and a subtype with a slash between them, and perhaps parameters behind
semicolons. What stands behind the last plus sign of a subtype is its suffix, unless the plus sign
leads. A body is declared to be JSON by the type `application` with the subtype or the suffix
`json`, in any case, when the whole declaration is well-formed.
-/

namespace HomeMedia
namespace Web
namespace MediaType

open Text (Bytes)

/-- The marks that may stand in a token besides letters and digits. -/
def marks : Bytes := Text.Utf8.ofString "!#$%&'*+-.^_`|~"

/-- Whether a byte may stand in a token. -/
def isToken (b : UInt8) : Bool :=
  (48 ≤ b && b ≤ 57) || (65 ≤ b && b ≤ 90) || (97 ≤ b && b ≤ 122) || marks.contains b

/-- Whether a byte may stand between quotes. -/
def isQuotable (b : UInt8) : Bool := 31 < b && b != 127

/-- The lower-case form of a byte. -/
def lowerByte (b : UInt8) : UInt8 := if 65 ≤ b ∧ b ≤ 90 then b + 32 else b

/-- What follows a quoted value of at least one byte, from behind its opening quote. -/
def afterQuoted? : Bytes → Option Bytes
  | [] => none
  | first :: more =>
    if isQuotable first then
      match Text.splitOnce 34 more with
      | some (content, rest) => if content.all isQuotable then some rest else none
      | none => none
    else none

/-- What follows the value of a parameter and the semicolon behind it; nothing at the end. -/
def afterValue? (value : Bytes) : Option Bytes :=
  match value with
  | 34 :: quoted =>
    match (afterQuoted? quoted).map fun rest : Bytes => rest.dropWhile (· == 32) with
    | some [] => some []
    | some (59 :: rest) => some rest
    | _ => none
  | value =>
    match value.dropWhile isToken with
    | [] => some []
    | 59 :: rest => if (value.takeWhile isToken).isEmpty then none else some rest
    | _ => none

/-- Whether parameters are well-formed; every one takes at least one byte. -/
def areParameters : Nat → Bytes → Bool
  | 0, _ => true
  | fuel + 1, bytes =>
    match bytes.dropWhile (· == 32) with
    | [] => true
    | bytes =>
      match bytes.takeWhile isToken, bytes.dropWhile isToken with
      | _ :: _, 61 :: value =>
        match afterValue? value with
        | some rest => areParameters fuel rest
        | none => false
      | _, _ => false

/-- A subtype and its suffix. -/
def suffixed (subtype : Bytes) : Bytes × Option Bytes :=
  match Text.splitOnce 43 subtype.reverse with
  | some (suffix, b :: front) => ((b :: front).reverse, some suffix.reverse)
  | _ => (subtype, none)

/-- Whether a declaration names JSON. -/
def isJson (declaration : Bytes) : Bool :=
  let json := Text.Utf8.ofString "json"
  match Text.splitOnce 47 declaration with
  | none => false
  | some (kind, rest) =>
    let subtype := rest.takeWhile isToken
    let isWhole :=
      match rest.dropWhile isToken with
      | [] => true
      | 59 :: parameters => !subtype.isEmpty && areParameters (parameters.length + 1) parameters
      | _ => false
    let (main, suffix) := suffixed (subtype.map lowerByte)
    isWhole && kind.map lowerByte == Text.Utf8.ofString "application" &&
      (main == json || suffix == some json)

end MediaType
end Web
end HomeMedia
