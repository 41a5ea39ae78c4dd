/-!
# UTF-8

Texts as byte sequences and back. The lead byte of a character fixes how many bytes follow and
which range the first of them lies in; the others lie in `80 … BF`. Reading goes from left to right
and yields for every place either a character or the mark `none` for a longest run of bytes that
starts like a character and does not end as one. So a byte sequence is text when no place is marked,
and it is *shown* with the replacement character at each mark.
-/

namespace HomeMedia
namespace Text

/-- Raw bytes, as file names, header values and environment variables hold them. -/
abbrev Bytes := List UInt8

namespace Utf8

/-- The bytes of a text. -/
def encode (cs : List Char) : Bytes := cs.flatMap String.utf8EncodeChar

/-- What a lead byte announces. -/
structure Lead where
  /-- The value bits of the lead byte. -/
  bits : Nat
  /-- The least second byte. -/
  low : Nat
  /-- The greatest second byte. -/
  high : Nat
  /-- How many bytes follow. -/
  more : Nat

/-- The table of lead bytes; a byte outside it starts no character. -/
def lead (b : Nat) : Option Lead :=
  if b < 0x80 then some ⟨b, 0, 0, 0⟩
  else if b < 0xC2 then none
  else if b < 0xE0 then some ⟨b - 0xC0, 0x80, 0xBF, 1⟩
  else if b = 0xE0 then some ⟨0, 0xA0, 0xBF, 2⟩
  else if b = 0xED then some ⟨0xD, 0x80, 0x9F, 2⟩
  else if b < 0xF0 then some ⟨b - 0xE0, 0x80, 0xBF, 2⟩
  else if b = 0xF0 then some ⟨0, 0x90, 0xBF, 3⟩
  else if b < 0xF4 then some ⟨b - 0xF0, 0x80, 0xBF, 3⟩
  else if b = 0xF4 then some ⟨4, 0x80, 0x8F, 3⟩
  else none

/-- The `more` bytes that continue a character, and what follows them. Where one of them is missing
or out of range, reading goes on at that byte. -/
def tails (bits low high : Nat) : Nat → Bytes → Option Nat × Bytes
  | 0, rest => (some bits, rest)
  | _ + 1, [] => (none, [])
  | more + 1, b :: rest =>
    if low ≤ b.toNat ∧ b.toNat ≤ high then
      tails (bits * 64 + (b.toNat - 0x80)) 0x80 0xBF more rest
    else (none, b :: rest)

/-- The character that starts with the byte `b`, or the mark for an ill-formed run. -/
def first (b : UInt8) (rest : Bytes) : Option Char × Bytes :=
  match lead b.toNat with
  | none => (none, rest)
  | some l =>
    let (value, rest) := tails l.bits l.low l.high l.more rest
    (value.map Char.ofNat, rest)

/-- Reads at most `fuel` places. -/
def readUpTo : Nat → Bytes → List (Option Char)
  | 0, _ => []
  | _ + 1, [] => []
  | fuel + 1, b :: rest =>
    let (c, rest) := first b rest
    c :: readUpTo fuel rest

/-- All places of a byte sequence; each takes at least one byte. -/
def read (bytes : Bytes) : List (Option Char) := readUpTo bytes.length bytes

/-- The text of a byte sequence that is one. -/
def decode? (bytes : Bytes) : Option (List Char) :=
  (read bytes).foldr (fun c cs => match c, cs with
    | some c, some cs => some (c :: cs)
    | _, _ => none) (some [])

/-- The text that shows a byte sequence, with the replacement character at each ill-formed run. -/
def shown (bytes : Bytes) : List Char := (read bytes).map fun c => c.getD '\uFFFD'

/-- The bytes of a string. -/
def ofString (s : String) : Bytes := encode s.toList

/-- The string that shows a byte sequence. -/
def toShown (bytes : Bytes) : String := String.ofList (shown bytes)

/-- The string that a byte sequence spells, if it spells one. -/
def toString? (bytes : Bytes) : Option String := (decode? bytes).map String.ofList

end Utf8
end Text
end HomeMedia
