import HomeMedia.Json.Basic
import HomeMedia.Text.Blank
import HomeMedia.Text.Hex
import HomeMedia.Text.Utf8
/-!
# Reading JSON records from bytes

The web interface knows beforehand which record it expects, and reads it from the bytes in one pass.
Two faults are told apart: bytes that are no JSON are *malformed*, and JSON of another shape is a
*mismatch*. The first fault on the way decides.

A record may be written as an object or as the list of its members in their fixed order. Members of
an object come in any order; unknown ones are skipped, and while they are skipped only the grammar
counts: their strings need not be text, and their numbers and depth are not bounded. A member that
is given twice is a mismatch as soon as its name appears again.
-/

namespace HomeMedia
namespace Json

open Text (Bytes)

/-- Why bytes are not the expected record. -/
inductive Fault where
  /-- The bytes are no JSON. -/
  | malformed
  /-- The JSON has another shape. -/
  | mismatch
  deriving DecidableEq, Repr

/-- Takes a value off the front of the bytes. -/
abbrev Reader (α : Type) := Bytes → Except Fault (α × Bytes)

namespace Reader

/-- The blanks between tokens. -/
def isBlank (b : UInt8) : Bool := b == 32 || b == 9 || b == 10 || b == 13

/-- The bytes from the next token on. -/
def token (bytes : Bytes) : Bytes := bytes.dropWhile isBlank

/-- Whether a byte is a decimal digit. -/
def isDigit (b : UInt8) : Bool := 48 ≤ b && b ≤ 57

/-- A number of four hexadecimal digits. -/
def hexUnit : Reader Nat
  | a :: b :: c :: d :: rest =>
    match Text.hexValue? a, Text.hexValue? b, Text.hexValue? c, Text.hexValue? d with
    | some a, some b, some c, some d => .ok (((a * 16 + b) * 16 + c) * 16 + d, rest)
    | _, _, _, _ => .error .malformed
  | _ => .error .malformed

/-- The character behind a backslash and a letter. -/
def letterEscape? (b : UInt8) : Option UInt8 :=
  match b.toNat with
  | 34 => some 34
  | 92 => some 92
  | 47 => some 47
  | 98 => some 8
  | 102 => some 12
  | 110 => some 10
  | 114 => some 13
  | 116 => some 9
  | _ => none

/-- The character that one numeric escape or a pair of them stands for. A half of a pair that stands
alone is none. -/
def numericEscape (bytes : Bytes) : Except Fault (Char × Bytes) := do
  let (unit, rest) ← hexUnit bytes
  if 0xDC00 ≤ unit ∧ unit ≤ 0xDFFF then .error .malformed
  else if 0xD800 ≤ unit ∧ unit ≤ 0xDBFF then
    match rest with
    | 92 :: 117 :: rest =>
      let (second, rest) ← hexUnit rest
      if 0xDC00 ≤ second ∧ second ≤ 0xDFFF then
        .ok (Char.ofNat (0x10000 + (unit - 0xD800) * 0x400 + (second - 0xDC00)), rest)
      else .error .malformed
    | _ => .error .malformed
  else .ok (Char.ofNat unit, rest)

/-- The bytes of a string up to its closing quote, in reverse behind `done`; every round takes at
least one byte. -/
def stringBytes : Nat → Bytes → Reader Bytes
  | 0, _, _ => .error .malformed
  | _ + 1, _, [] => .error .malformed
  | fuel + 1, done, b :: rest =>
    if b = 34 then .ok (done.reverse, rest)
    else if b = 92 then
      match rest with
      | [] => .error .malformed
      | e :: rest =>
        if e = 117 then
          match numericEscape rest with
          | .error fault => .error fault
          | .ok (c, rest) => stringBytes fuel ((Text.Utf8.encode [c]).reverse ++ done) rest
        else
          match letterEscape? e with
          | some b => stringBytes fuel (b :: done) rest
          | none => .error .malformed
    else if b < 32 then .error .malformed
    else stringBytes fuel (b :: done) rest

/-- A string, from behind its opening quote; it has to be text. -/
def string : Reader String := fun bytes => do
  let (content, rest) ← stringBytes (bytes.length + 1) [] bytes
  match Text.Utf8.toString? content with
  | some s => .ok (s, rest)
  | none => .error .malformed

/-- Skips a string from behind its opening quote, by grammar only. -/
def skipString : Nat → Bytes → Except Fault Bytes
  | 0, _ => .error .malformed
  | _ + 1, [] => .error .malformed
  | fuel + 1, b :: rest =>
    if b = 34 then .ok rest
    else if b = 92 then
      match rest with
      | [] => .error .malformed
      | e :: rest =>
        if e = 117 then
          match hexUnit rest with
          | .error fault => .error fault
          | .ok (_, rest) => skipString fuel rest
        else if (letterEscape? e).isSome then skipString fuel rest
        else .error .malformed
    else if b < 32 then .error .malformed
    else skipString fuel rest

/-- A number as written: the digits before and behind the point, and the exponent. -/
structure Numeral where
  /-- The digits before the point. -/
  whole : Bytes
  /-- The digits behind the point. -/
  fraction : Bytes
  /-- The power of ten. -/
  exponent : Int

/-- The value of decimal digits. -/
def digitsValue (digits : Bytes) : Nat := digits.foldl (fun n b => n * 10 + (b.toNat - 48)) 0

/-- At least one digit. -/
def digits (bytes : Bytes) : Except Fault (Bytes × Bytes) :=
  match bytes.takeWhile isDigit with
  | [] => .error .malformed
  | found => .ok (found, bytes.dropWhile isDigit)

/-- The fraction of a number, if it has one. -/
def fraction : Reader Bytes
  | 46 :: rest => digits rest
  | bytes => .ok ([], bytes)

/-- The exponent of a number, if it has one. -/
def exponent : Reader Int
  | b :: rest =>
    if b = 101 ∨ b = 69 then
      match rest with
      | 43 :: rest => (digits rest).map fun (found, rest) => (Int.ofNat (digitsValue found), rest)
      | 45 :: rest => (digits rest).map fun (found, rest) => (-Int.ofNat (digitsValue found), rest)
      | rest => (digits rest).map fun (found, rest) => (Int.ofNat (digitsValue found), rest)
    else .ok (0, b :: rest)
  | [] => .ok (0, [])

/-- A number without its sign: a zero that leads stands alone before the point. -/
def numeral : Reader Numeral := fun bytes => do
  let (whole, rest) ← digits bytes
  if whole.head? = some 48 ∧ 1 < whole.length then .error .malformed
  else
    let (fraction, rest) ← fraction rest
    let (exponent, rest) ← exponent rest
    .ok (⟨whole, fraction, exponent⟩, rest)

/-- Whether a number, rounded to the nearest double, is finite. The first forty significant digits
decide. -/
def Numeral.isFinite (n : Numeral) : Bool :=
  let significant := (n.whole ++ n.fraction).dropWhile (· == 48)
  let lead := significant.take 40
  let scale : Int :=
    n.exponent - Int.ofNat n.fraction.length + Int.ofNat (significant.length - lead.length)
  let magnitude := Int.ofNat lead.length + scale
  if lead = [] ∨ magnitude < 300 then true
  else if 320 < magnitude then false
  else
    let bound := Nat.pow 2 1024 - Nat.pow 2 970
    digitsValue lead * Nat.pow 10 scale.toNat < bound * Nat.pow 10 (-scale).toNat

/-- The rest of one of the words `null`, `true` and `false`, by its first letter. -/
def word (b : UInt8) (rest : Bytes) : Except Fault Bytes :=
  let wanted : Option Bytes :=
    if b = 110 then some [117, 108, 108]
    else if b = 116 then some [114, 117, 101]
    else if b = 102 then some [97, 108, 115, 101]
    else none
  match wanted.bind fun letters => Text.after? letters rest with
  | some rest => .ok rest
  | none => .error .malformed

/-- The fault of a value that is not of the wanted kind: a mismatch once it is read well enough. -/
def refuse (bytes : Bytes) : Fault :=
  match token bytes with
  | [] => .malformed
  | b :: rest =>
    if b = 91 ∨ b = 123 then .mismatch
    else if b = 34 then
      match string rest with
      | .ok _ => .mismatch
      | .error fault => fault
    else if b = 45 ∨ isDigit b then
      match numeral (if b = 45 then rest else b :: rest) with
      | .ok (n, _) => if n.isFinite then .mismatch else .malformed
      | .error fault => fault
    else
      match word b rest with
      | .ok _ => .mismatch
      | .error fault => fault

/-- What an unfinished value is inside of. -/
inductive Frame where
  | list
  | object
  deriving DecidableEq

/-- Skips the name of a member and the colon behind it. -/
def skipName (bytes : Bytes) : Except Fault Bytes :=
  match token bytes with
  | 34 :: rest =>
    match skipString (rest.length + 1) rest with
    | .error fault => .error fault
    | .ok rest =>
      match token rest with
      | 58 :: rest => .ok rest
      | _ => .error .malformed
  | _ => .error .malformed

/-- Skips one value that is neither a list nor an object. -/
def skipScalar (b : UInt8) (rest : Bytes) : Except Fault Bytes :=
  if b = 34 then skipString (rest.length + 1) rest
  else if b = 45 then (numeral rest).map Prod.snd
  else if isDigit b then (numeral (b :: rest)).map Prod.snd
  else word b rest

/-- Skips the rest of the values inside the frames, innermost first: before a value when `before`
holds, else behind one. Every round takes at least one byte. -/
def skipWithin : Nat → List Frame → Bool → Bytes → Except Fault Bytes
  | 0, _, _, _ => .error .malformed
  | fuel + 1, frames, true, bytes =>
    match token bytes with
    | [] => .error .malformed
    | b :: rest =>
      if b = 91 then
        match token rest with
        | 93 :: rest => skipWithin fuel frames false rest
        | rest => skipWithin fuel (.list :: frames) true rest
      else if b = 123 then
        match token rest with
        | 125 :: rest => skipWithin fuel frames false rest
        | rest =>
          match skipName rest with
          | .error fault => .error fault
          | .ok rest => skipWithin fuel (.object :: frames) true rest
      else
        match skipScalar b rest with
        | .error fault => .error fault
        | .ok rest => skipWithin fuel frames false rest
  | fuel + 1, frames, false, bytes =>
    match frames with
    | [] => .ok bytes
    | frame :: outer =>
      match token bytes with
      | [] => .error .malformed
      | b :: rest =>
        if b = 44 then
          match frame with
          | .list => skipWithin fuel frames true rest
          | .object =>
            match skipName rest with
            | .error fault => .error fault
            | .ok rest => skipWithin fuel frames true rest
        else if (frame = .list ∧ b = 93) ∨ (frame = .object ∧ b = 125) then
          skipWithin fuel outer false rest
        else .error .malformed

/-- Skips one value, by grammar only. -/
def skip (bytes : Bytes) : Except Fault Bytes := skipWithin (bytes.length + 2) [] true bytes

/-- A string value. -/
def text : Reader String := fun bytes =>
  match token bytes with
  | 34 :: rest => string rest
  | rest => .error (refuse rest)

/-- Before an element of a list: whether there is one. A comma stands before each but the first. -/
def hasElement (isFirst : Bool) (bytes : Bytes) : Except Fault (Bool × Bytes) :=
  match token bytes with
  | [] => .error .malformed
  | 93 :: rest => .ok (false, 93 :: rest)
  | b :: rest =>
    if isFirst then .ok (true, b :: rest)
    else if b = 44 then
      match token rest with
      | [] => .error .malformed
      | 93 :: _ => .error .malformed
      | rest => .ok (true, rest)
    else .error .malformed

/-- The bracket that ends a list. -/
def listEnd (bytes : Bytes) : Except Fault Bytes :=
  match token bytes with
  | 93 :: rest => .ok rest
  | _ => .error .malformed

/-- The elements of a list from behind its opening bracket, in reverse behind `done`. -/
def elements {α : Type} (element : Reader α) : Nat → List α → Reader (List α)
  | 0, _, _ => .error .malformed
  | fuel + 1, done, bytes => do
    let (more, rest) ← hasElement done.isEmpty bytes
    if more then
      let (a, rest) ← element rest
      elements element fuel (a :: done) rest
    else .ok (done.reverse, rest)

/-- A list value. -/
def listOf {α : Type} (element : Reader α) : Reader (List α) := fun bytes =>
  match token bytes with
  | 91 :: rest => do
    let (found, rest) ← elements element (rest.length + 1) [] rest
    let rest ← listEnd rest
    .ok (found, rest)
  | rest => .error (refuse rest)

/-- A member of a record of type `S`: how its value enters the record. -/
structure Member (S : Type) where
  /-- The member's name. -/
  name : String
  /-- Whether the member must be given. -/
  isRequired : Bool
  /-- Reads the value into the record. -/
  read : S → Reader S

/-- Reads the members in their order from a list, from behind its opening bracket. -/
def inOrder {S : Type} : Bool → List (Member S) → S → Reader S
  | _, [], s, bytes => .ok (s, bytes)
  | isFirst, member :: more, s, bytes => do
    let (given, rest) ← hasElement isFirst bytes
    if given then
      let (s, rest) ← member.read s rest
      inOrder false more s rest
    else if member.isRequired then .error .mismatch
    else inOrder isFirst more s rest

/-- Before a member of an object: its name when there is one. -/
def name? (isFirst : Bool) (bytes : Bytes) : Except Fault (Option String × Bytes) :=
  let named (bytes : Bytes) : Except Fault (Option String × Bytes) :=
    match bytes with
    | 34 :: rest => (string rest).map fun (s, rest) => (some s, rest)
    | _ => .error .malformed
  match token bytes with
  | [] => .error .malformed
  | 125 :: rest => .ok (none, 125 :: rest)
  | b :: rest =>
    if isFirst then named (b :: rest)
    else if b = 44 then named (token rest)
    else .error .malformed

/-- Reads the members of an object from behind its opening brace up to the closing one. -/
def byName {S : Type} (members : List (Member S)) : Nat → List String → Bool → S → Reader S
  | 0, _, _, _, _ => .error .malformed
  | fuel + 1, seen, isFirst, s, bytes => do
    let (name, rest) ← name? isFirst bytes
    match name with
    | none =>
      if members.any fun m => m.isRequired && !seen.contains m.name then .error .mismatch
      else .ok (s, rest)
    | some name =>
      match members.find? fun m => m.name == name with
      | some member =>
        if seen.contains name then .error .mismatch
        else
          match token rest with
          | 58 :: rest =>
            let (s, rest) ← member.read s rest
            byName members fuel (name :: seen) false s rest
          | _ => .error .malformed
      | none =>
        match token rest with
        | 58 :: rest =>
          let rest ← skip rest
          byName members fuel seen false s rest
        | _ => .error .malformed

/-- A record, starting from `s`. -/
def record {S : Type} (members : List (Member S)) (s : S) : Reader S := fun bytes =>
  match token bytes with
  | 91 :: rest => do
    let (s, rest) ← inOrder true members s rest
    let rest ← listEnd rest
    .ok (s, rest)
  | 123 :: rest => do
    let (s, rest) ← byName members (rest.length + 1) [] true s rest
    match token rest with
    | 125 :: rest => .ok (s, rest)
    | _ => .error .malformed
  | rest => .error (refuse rest)

/-- A required string member. -/
def textMember {S : Type} (name : String) (put : String → S → S) : Member S :=
  ⟨name, true, fun s bytes => (text bytes).map fun (value, rest) => (put value s, rest)⟩

end Reader
end Json
end HomeMedia
