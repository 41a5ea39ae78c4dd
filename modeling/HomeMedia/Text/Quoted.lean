import HomeMedia.Text.Hex
import HomeMedia.Text.Hidden
/-!
# Quoted text

A text between double quotes, as log lines and descriptions of records show it. The quote and the
backslash are written after a backslash, NUL, tab, line feed and carriage return by a letter, and
every character that would not show on its own by its number between braces. All else stands for
itself, the single quote included.
-/

namespace HomeMedia
namespace Text

/-- The written form of one character between quotes. -/
def quoteChar (c : Char) : List Char :=
  if c = '\x00' then ['\\', '0']
  else if c = '\t' then ['\\', 't']
  else if c = '\n' then ['\\', 'n']
  else if c = '\r' then ['\\', 'r']
  else if c = '\\' then ['\\', '\\']
  else if c = '"' then ['\\', '"']
  else if isHidden c then ['\\', 'u', '\x7b'] ++ hexDigits c.toNat ++ ['\x7d']
  else [c]

/-- A text between double quotes. -/
def quoted (s : String) : String :=
  String.ofList ('"' :: (s.toList.flatMap quoteChar ++ ['"']))

/-- Quoted texts between brackets, separated by commas. -/
def quotedList (texts : List String) : String :=
  "[" ++ ", ".intercalate (texts.map quoted) ++ "]"

/-- A record with named, already written fields. -/
def record (name : String) (fields : List (String × String)) (hasMore : Bool) : String :=
  let written := fields.map fun (field, value) => field ++ ": " ++ value
  name ++ " \x7b " ++ ", ".intercalate (written ++ if hasMore then [".."] else []) ++ " \x7d"

/-- A truth value as text. -/
def truth (b : Bool) : String := if b then "true" else "false"

end Text
end HomeMedia
