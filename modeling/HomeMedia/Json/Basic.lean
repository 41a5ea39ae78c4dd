import HomeMedia.Text.Quoted
/-!
# JSON values and their text

A value as the web interface answers with it. Numbers are whole. The text has no blanks; in strings
the quote, the backslash and the control characters are escaped and all else stands for itself.
-/

namespace HomeMedia

/-- A JSON value with whole numbers. -/
inductive Json where
  | null
  | bool (value : Bool)
  | number (value : Int)
  | text (value : String)
  | list (values : List Json)
  | object (members : List (String × Json))
  deriving Inhabited

namespace Json

/-- A character inside a string. -/
def escape (c : Char) : List Char :=
  if c = '"' then ['\\', '"']
  else if c = '\\' then ['\\', '\\']
  else if c = '\n' then ['\\', 'n']
  else if c = '\r' then ['\\', 'r']
  else if c = '\t' then ['\\', 't']
  else if c = '\x08' then ['\\', 'b']
  else if c = '\x0c' then ['\\', 'f']
  else if c.toNat < 16 then ['\\', 'u', '0', '0', '0'] ++ Text.hexDigits c.toNat
  else if c.toNat < 32 then ['\\', 'u', '0', '0'] ++ Text.hexDigits c.toNat
  else [c]

/-- A string with its quotes. -/
def renderText (s : String) : String := String.ofList ('"' :: (s.toList.flatMap escape ++ ['"']))

mutual

/-- The text of a value. -/
def render : Json → String
  | null => "null"
  | bool b => Text.truth b
  | number n => toString n
  | text s => renderText s
  | list values => "[" ++ renderList values ++ "]"
  | object members => "\x7b" ++ renderMembers members ++ "\x7d"

/-- Values separated by commas. -/
def renderList : List Json → String
  | [] => ""
  | [v] => render v
  | v :: vs => render v ++ "," ++ renderList vs

/-- Members separated by commas. -/
def renderMembers : List (String × Json) → String
  | [] => ""
  | [(key, v)] => renderText key ++ ":" ++ render v
  | (key, v) :: more => renderText key ++ ":" ++ render v ++ "," ++ renderMembers more

end

/-- A value that may be missing. -/
def ofOption {α : Type} (f : α → Json) : Option α → Json
  | none => null
  | some a => f a

end Json
end HomeMedia
