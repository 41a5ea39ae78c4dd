/-!
# Lengths of time as text

A length of time is a whole number of nanoseconds. It is written in the largest of the units
second, millisecond, microsecond and nanosecond that it reaches, with as many decimals as it needs.
-/

namespace HomeMedia
namespace Duration

/-- Nanoseconds in a microsecond. -/
def micro : Nat := 1000

/-- Nanoseconds in a millisecond. -/
def milli : Nat := 1000000

/-- Nanoseconds in a second. -/
def second : Nat := 1000000000

/-- The decimals of `part / unit`, where `unit` is a power of ten, without zeros at the end. -/
def decimals (places : Nat) (part : Nat) : List Char :=
  let digits := Nat.toDigits 10 part
  let padded := List.replicate (places - digits.length) '0' ++ digits
  (padded.reverse.dropWhile (· == '0')).reverse

/-- A number of nanoseconds as a multiple of a unit of `10 ^ places` nanoseconds. -/
def inUnit (places : Nat) (name : String) (nanos : Nat) : String :=
  let unit := Nat.pow 10 places
  let part := nanos % unit
  let whole := toString (nanos / unit)
  if part = 0 then whole ++ name
  else whole ++ "." ++ String.ofList (decimals places part) ++ name

/-- A length of time as text. -/
def text (nanos : Nat) : String :=
  if second ≤ nanos then inUnit 9 "s" nanos
  else if milli ≤ nanos then inUnit 6 "ms" nanos
  else if micro ≤ nanos then inUnit 3 "µs" nanos
  else inUnit 0 "ns" nanos

end Duration
end HomeMedia
