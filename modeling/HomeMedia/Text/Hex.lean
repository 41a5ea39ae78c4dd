/-!
# Hexadecimal digits

Numbers are written with the lower-case digits; either case is read.
-/

namespace HomeMedia
namespace Text

/-- The digits of a number in base sixteen, lower case, most significant first. -/
def hexDigits (n : Nat) : List Char := Nat.toDigits 16 n

/-- The value of a byte that is a hexadecimal digit. -/
def hexValue? (b : UInt8) : Option Nat :=
  let n := b.toNat
  if 48 ≤ n ∧ n ≤ 57 then some (n - 48)
  else if 65 ≤ n ∧ n ≤ 70 then some (n - 55)
  else if 97 ≤ n ∧ n ≤ 102 then some (n - 87)
  else none

end Text
end HomeMedia
