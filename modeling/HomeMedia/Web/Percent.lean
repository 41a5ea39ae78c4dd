import HomeMedia.Text.Blank
import HomeMedia.Text.Hex
import HomeMedia.Text.Utf8
/-!
# Percent encoding and query strings

In an address a byte may be written as a percent sign and two hexadecimal digits; a percent sign
that is not followed by two of them stands for itself. A query is a list of pairs between
ampersands: the name up to the first equals sign, the value behind it. In a pair a plus sign is a
blank, and bytes that are no text are shown with the replacement character.
-/

namespace HomeMedia
namespace Web

open Text (Bytes)

/-- The byte that two hexadecimal digits stand for. -/
def hexByte? (high low : UInt8) : Option UInt8 :=
  match Text.hexValue? high, Text.hexValue? low with
  | some high, some low => some (UInt8.ofNat (high * 16 + low))
  | _, _ => none

/-- The bytes that a percent-encoded text stands for. -/
def percentDecode : Bytes → Bytes
  | [] => []
  | b :: high :: low :: rest =>
    if b = 37 then
      match hexByte? high low with
      | some byte => byte :: percentDecode rest
      | none => b :: percentDecode (high :: low :: rest)
    else b :: percentDecode (high :: low :: rest)
  | b :: rest => b :: percentDecode rest

/-- The text of the name or the value of a pair. -/
def queryText (piece : Bytes) : String :=
  Text.Utf8.toShown (percentDecode (piece.map fun b => if b = 43 then 32 else b))

/-- The name and the value of a pair. -/
def queryPair (piece : Bytes) : String × String :=
  let (name, value) := Text.cutAt 61 piece
  (queryText name, queryText (value.getD []))

/-- The pairs of a query. -/
def queryPairs (query : Bytes) : List (String × String) :=
  ((Text.split 38 query).filter fun piece => piece != []).map queryPair

end Web
end HomeMedia
