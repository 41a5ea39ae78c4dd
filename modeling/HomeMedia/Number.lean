import HomeMedia.Text.Quoted
/-!
# Reading whole numbers and truth values

A whole number is an optional sign and at least one ASCII digit. Unsigned numbers take only the plus
sign; a lone sign or anything that is no digit is a bad digit, and so is a minus sign before an
unsigned number. The bounds are checked while reading: the digit that leads out of range is reported
unless a bad digit came first.
-/

namespace HomeMedia
namespace Number

/-- Why a text is no number of the wanted range. -/
inductive Fault where
  | empty
  | badDigit
  | tooLarge
  | tooSmall
  deriving DecidableEq, Repr

namespace Fault

/-- The wording of a fault. -/
def message : Fault → String
  | empty => "cannot parse integer from empty string"
  | badDigit => "invalid digit found in string"
  | tooLarge => "number too large to fit in target type"
  | tooSmall => "number too small to fit in target type"

end Fault

/-- The value of an ASCII digit. -/
def digit? (c : Char) : Option Nat :=
  if 48 ≤ c.toNat ∧ c.toNat ≤ 57 then some (c.toNat - 48) else none

/-- Reads digits onto the value `acc`, reporting `beyond` once the value passes `limit`. -/
def readDigits (limit : Nat) (beyond : Fault) : Nat → List Char → Except Fault Nat
  | acc, [] => .ok acc
  | acc, c :: cs =>
    match digit? c with
    | none => .error .badDigit
    | some d =>
      if acc * 10 + d ≤ limit then readDigits limit beyond (acc * 10 + d) cs else .error beyond

/-- An unsigned number of at most `limit`. -/
def readNat (limit : Nat) : List Char → Except Fault Nat
  | [] => .error .empty
  | ['+'] => .error .badDigit
  | '+' :: cs => readDigits limit .tooLarge 0 cs
  | cs => readDigits limit .tooLarge 0 cs

/-- A signed number from `-(limit + 1)` to `limit`. -/
def readInt (limit : Nat) : List Char → Except Fault Int
  | [] => .error .empty
  | ['+'] => .error .badDigit
  | ['-'] => .error .badDigit
  | '+' :: cs => (readDigits limit .tooLarge 0 cs).map Int.ofNat
  | '-' :: cs => (readDigits (limit + 1) .tooSmall 0 cs).map fun n => -(Int.ofNat n)
  | cs => (readDigits limit .tooLarge 0 cs).map Int.ofNat

/-- The greatest 16-bit unsigned number. -/
def max16 : Nat := 65535

/-- The greatest 64-bit unsigned number. -/
def max64 : Nat := 18446744073709551615

/-- The greatest 64-bit signed number. -/
def maxSigned64 : Nat := 9223372036854775807

/-- A whole number brought into the range of signed 64-bit numbers. -/
def clampSigned64 (n : Int) : Int :=
  max (-(Int.ofNat maxSigned64) - 1) (min n (Int.ofNat maxSigned64))

/-- A truth value spelled out in lower case. -/
def readBool (cs : List Char) : Option Bool :=
  if cs = "true".toList then some true
  else if cs = "false".toList then some false
  else none

end Number
end HomeMedia
