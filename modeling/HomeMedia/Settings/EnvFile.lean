import HomeMedia.Settings.Variables
/-!
# Files of variables

Variables can also be set by a file of assignments, one to a line: `NAME=value`, with the word
`export` before the name if one likes. A `#` begins a comment, at the start of a line or behind a
blank. A value may stand between single quotes, which keep everything, or between double quotes; a
line feed between quotes belongs to the value. Outside of single quotes a backslash stands before a
character that is meant as it is, and a name behind a dollar sign, in braces or not, for the value
of that variable.

A variable that is already set to a text keeps its value. The lines take effect one after another;
at the first one that cannot be read the rest of the file is left alone.
-/

namespace HomeMedia
namespace Settings
namespace EnvFile

/-! ## Lines -/

/-- Where a character of the file stands, as far as the end of its line goes. -/
inductive Place where
  /-- Outside of everything. -/
  | plain
  /-- Behind a blank that may end the value. -/
  | gap
  /-- Behind a backslash outside of quotes. -/
  | escape
  /-- Between single quotes. -/
  | single
  /-- Behind a backslash between single quotes. -/
  | singleEscape
  /-- Between double quotes. -/
  | double
  /-- Behind a backslash between double quotes. -/
  | doubleEscape
  deriving DecidableEq, Repr

namespace Place

/-- The place behind a character that opens a quote or an escape, or does not. -/
def behind (c : Char) : Place :=
  if c = '\\' then escape else if c = '"' then double else if c = '\'' then single else plain

/-- The place behind one more character; none where that character begins a comment. -/
def next : Place → Char → Option Place
  | plain, c =>
    if Text.isBlank c && c != '\n' && c != '\r' then some gap else some (behind c)
  | gap, c => if c = '#' then none else some (behind c)
  | escape, _ => some plain
  | single, c => some (if c = '\\' then singleEscape else if c = '\'' then plain else single)
  | singleEscape, _ => some single
  | double, c => some (if c = '\\' then doubleEscape else if c = '"' then plain else double)
  | doubleEscape, _ => some double

/-- The place behind a run of characters, or the characters before the comment that it holds. -/
def after : Place → List Char → List Char → Except (List Char) Place
  | p, _, [] => .ok p
  | p, done, c :: cs =>
    match p.next c with
    | none => .error done.reverse
    | some p => after p (c :: done) cs

end Place

/-- The lines of a file, each with its line feed. -/
def rows : List Char → List (List Char)
  | [] => []
  | c :: cs =>
    if c = '\n' then [c] :: rows cs
    else match rows cs with
      | [] => [[c]]
      | row :: more => (c :: row) :: more

/-- A line without the line feed at its end. -/
def withoutEnd (row : List Char) : List Char :=
  match row.reverse with
  | '\n' :: '\r' :: rest => rest.reverse
  | '\n' :: rest => rest.reverse
  | _ => row

/-- Whether a line is all comment. -/
def isComment (row : List Char) : Bool := (Text.trimStart row).head? == some '#'

/-- Joins the rows that quotes hold together. `place` is where the text so far, `joined`, ends. A
file that ends within quotes or behind a blank has a last line that cannot be read. -/
def join : Place → List Char → List (List Char) → List (Option (List Char))
  | place, _, [] => if place = .plain then [] else [none]
  | place, joined, row :: more =>
    let line := joined ++ row
    if isComment line then join .plain [] more
    else
      match place.after [] row with
      | .error before => some (joined ++ before) :: join .plain [] more
      | .ok .plain => some (withoutEnd line) :: join .plain [] more
      | .ok place => join place line more

/-- The lines of a file. -/
def lines (cs : List Char) : List (Option (List Char)) := join .plain [] (rows cs)

/-! ## Values -/

/-- How the next character of a value is read. -/
inductive Mode where
  /-- As itself; `within` double quotes or not. -/
  | open (within : Bool)
  /-- Between single quotes. -/
  | single
  /-- Behind a backslash. -/
  | escape (within : Bool)
  /-- Behind a dollar sign, with the letters of the name so far in reverse. -/
  | name (within : Bool) (letters : List Char)
  /-- Between braces behind a dollar sign, with the name so far in reverse. -/
  | braced (within : Bool) (letters : List Char)
  /-- Behind the blank that ends the value. -/
  | ended
  deriving DecidableEq, Repr

/-- Whether a character belongs to a name behind a dollar sign: letters and digits, for which all
characters beyond ASCII are taken. -/
def isNamePart (c : Char) : Bool := c.isAlphanum || 127 < c.toNat

/-- What a backslash and a character stand for. -/
def escaped? (c : Char) : Option Char :=
  if c = 'n' then some '\n'
  else if c = '\\' ∨ c = '\'' ∨ c = '"' ∨ c = '$' ∨ c = ' ' then some c
  else none

/-- The value of a variable, in reverse; nothing where it is not set to a text. -/
def valueOf (vars : Variables) (letters : List Char) : List Char :=
  ((vars.text? (String.ofList letters.reverse)).getD "").toList.reverse

/-- A value read to its end, in reverse behind `done`. -/
def readValue (vars : Variables) : Mode → List Char → List Char → Option (List Char)
  | .open within, done, [] => if within then none else some done
  | .single, _, [] => none
  | .escape within, done, [] => if within then none else some done
  | .name within letters, done, [] =>
    if within then none else some (valueOf vars letters ++ done)
  | .braced _ _, _, [] => none
  | .ended, done, [] => some done
  | .open within, done, c :: cs =>
    if c = '$' then readValue vars (.name within []) done cs
    else if c = '\\' then readValue vars (.escape within) done cs
    else if c = '"' then readValue vars (.open !within) done cs
    else if within then readValue vars (.open true) (c :: done) cs
    else if c = '\'' then readValue vars .single done cs
    else if c = ' ' ∨ c = '\t' then readValue vars .ended done cs
    else readValue vars (.open false) (c :: done) cs
  | .single, done, c :: cs =>
    if c = '\'' then readValue vars (.open false) done cs
    else readValue vars .single (c :: done) cs
  | .escape within, done, c :: cs =>
    match escaped? c with
    | none => none
    | some c => readValue vars (.open within) (c :: done) cs
  | .name within letters, done, c :: cs =>
    if isNamePart c then readValue vars (.name within (c :: letters)) done cs
    else if c = '\x7b' ∧ letters = [] then readValue vars (.braced within []) done cs
    else if c = '$' then readValue vars (.name within []) (valueOf vars letters ++ done) cs
    else readValue vars (.open within) (c :: (valueOf vars letters ++ done)) cs
  | .braced within letters, done, c :: cs =>
    if c = '\x7d' then readValue vars (.open within) (valueOf vars letters ++ done) cs
    else readValue vars (.braced within (c :: letters)) done cs
  | .ended, done, c :: cs =>
    if c = ' ' ∨ c = '\t' then readValue vars .ended done cs
    else if c = '#' then some done
    else none

/-- The value that is written by some characters. -/
def value? (vars : Variables) (cs : List Char) : Option (List Char) :=
  (readValue vars (.open false) [] cs).map List.reverse

/-! ## Assignments -/

/-- What a line says. -/
inductive Line where
  /-- Nothing. -/
  | empty
  /-- A variable and its value. -/
  | assignment (name : String) (value : List Char)
  deriving DecidableEq, Repr

/-- Whether a character can begin the name of a variable. -/
def isKeyStart (c : Char) : Bool := c.isAlpha || c == '_'

/-- Whether a character can go on in the name of a variable. -/
def isKeyPart (c : Char) : Bool := c.isAlphanum || c == '_' || c == '.'

/-- The name that a text begins with, and the rest without blanks before it. -/
def key? : List Char → Option (List Char × List Char)
  | [] => none
  | c :: cs =>
    if isKeyStart c then
      some ((c :: cs).takeWhile isKeyPart, Text.trimStart ((c :: cs).dropWhile isKeyPart))
    else none

/-- What follows an equals sign. -/
def afterEquals? : List Char → Option (List Char)
  | '=' :: cs => some cs
  | _ => none

/-- The name of an assignment and what is written behind its equals sign. The word `export` before
a name is passed over; it may be a name as well. -/
def target? (cs : List Char) : Option (List Char × List Char) := do
  let (key, rest) ← key? cs
  match afterEquals? rest with
  | some written => return (key, written)
  | none =>
    if key = "export".toList then
      let (key, rest) ← key? rest
      return (key, ← afterEquals? rest)
    else none

/-- What a line says, if it can be read. -/
def line? (vars : Variables) (cs : List Char) : Option Line := do
  let cs := Text.trim cs
  if cs = [] ∨ isComment cs then return .empty
  let (key, written) ← target? cs
  let written := Text.trimStart written
  if written = [] ∨ isComment written then return .assignment (String.ofList key) []
  return .assignment (String.ofList key) (← value? vars written)

/-- Lets a line take effect; a variable that is set to a text keeps its value. -/
def Line.apply (vars : Variables) : Line → Variables
  | empty => vars
  | assignment name value =>
    if (vars.text? name).isSome then vars else vars.set name (Text.Utf8.encode value)

/-- Lets lines take effect, up to the first that cannot be read. -/
def applyLines : List (Option (List Char)) → Variables → Variables
  | [], vars => vars
  | none :: _, vars => vars
  | some cs :: more, vars =>
    match line? vars cs with
    | none => vars
    | some line => applyLines more (line.apply vars)

/-- The text of a file without the mark that may stand at its front. -/
def withoutMark : List Char → List Char
  | '\uFEFF' :: cs => cs
  | cs => cs

/-- The variables with those of a file added. -/
def load (file : String) (vars : Variables) : Variables :=
  applyLines (lines (withoutMark file.toList)) vars

end EnvFile
end Settings
end HomeMedia
