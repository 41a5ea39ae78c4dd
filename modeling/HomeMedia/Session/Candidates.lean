import HomeMedia.Text.Hex
/-!
# Candidates for session ids

Ids are drawn from a sequence that never ends. A scripted sequence hands out its texts in order and
then repeats the last one. A spread sequence hands out numbers of 128 bits, written with 32
hexadecimal digits; a step that is odd runs through all of them before one comes back.
-/

namespace HomeMedia
namespace Session

/-- A sequence of ids and how many of them have been drawn. -/
structure Candidates where
  /-- The sequence. -/
  sequence : Nat → String
  /-- How many have been drawn. -/
  drawn : Nat := 0

namespace Candidates

/-- Draws the next id. -/
def next (c : Candidates) : String × Candidates :=
  (c.sequence c.drawn, { c with drawn := c.drawn + 1 })

/-- The texts in order, then the last one for ever. -/
def scripted (ids : List String) : Candidates :=
  { sequence := fun n => ids[n]?.getD (ids.getLast?.getD "") }

/-- A number of 128 bits with all its hexadecimal digits. -/
def hexText (n : Nat) : String :=
  let digits := Text.hexDigits (n % Nat.pow 2 128)
  String.ofList (List.replicate (32 - digits.length) '0' ++ digits)

/-- All numbers of 128 bits, from `start` in steps of an odd number. -/
def spread (start : Nat) : Candidates :=
  { sequence := fun n => hexText (start + (n + 1) * 0x9E3779B97F4A7C15F39CC0605CEDC835) }

/-- Draws until an id is free, at most `attempts` times: the free id, or the last one drawn. -/
def drawFree (isTaken : String → Bool) : Nat → Candidates → Except String String × Candidates
  | 0, c => (.error "", c)
  | attempts + 1, c =>
    let (id, c) := c.next
    if !isTaken id then (.ok id, c)
    else if attempts = 0 then (.error id, c)
    else drawFree isTaken attempts c

/-- Draws a number of ids. -/
def take : Nat → Candidates → List String × Candidates
  | 0, c => ([], c)
  | n + 1, c =>
    let (id, c) := c.next
    let (ids, c) := take n c
    (id :: ids, c)

end Candidates
end Session
end HomeMedia
