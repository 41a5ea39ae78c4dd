/-!
# Blank characters, trimming and splitting

A character is blank when Unicode lists it as white space: the six ASCII blanks, the next-line
control, the no-break space and the sixteen wide spaces and separators. Texts are cut at a given
character; every cut shortens the text by exactly that character, so joining the pieces again gives
the text back.

All functions work on lists of characters, where they are plain recursions.
-/

namespace HomeMedia
namespace Text

/-- Unicode white space. -/
def isBlank (c : Char) : Bool :=
  let n := c.toNat
  (9 ≤ n && n ≤ 13) || n == 0x20 || n == 0x85 || n == 0xA0 || n == 0x1680 ||
    (0x2000 ≤ n && n ≤ 0x200A) || n == 0x2028 || n == 0x2029 || n == 0x202F || n == 0x205F ||
    n == 0x3000

/-- A text without the blanks at its front. -/
def trimStart (cs : List Char) : List Char := cs.dropWhile isBlank

/-- A text without the blanks at its end. -/
def trimEnd (cs : List Char) : List Char := (trimStart cs.reverse).reverse

/-- A text without the blanks at both ends. -/
def trim (cs : List Char) : List Char := trimEnd (trimStart cs)

/-- The pieces of a list between the occurrences of a separator; there is always a first piece. -/
def split {α : Type} [DecidableEq α] (sep : α) : List α → List (List α)
  | [] => [[]]
  | c :: cs =>
    if c = sep then [] :: split sep cs
    else
      match split sep cs with
      | piece :: more => (c :: piece) :: more
      | [] => [[c]]

/-- The parts of a list before and after the first occurrence of a separator. -/
def splitOnce {α : Type} [DecidableEq α] (sep : α) : List α → Option (List α × List α)
  | [] => none
  | c :: cs =>
    if c = sep then some ([], cs)
    else (splitOnce sep cs).map fun (before, after) => (c :: before, after)

/-- A list cut at its first separator: all of it and nothing when there is none. -/
def cutAt {α : Type} [DecidableEq α] (sep : α) (cs : List α) : List α × Option (List α) :=
  match splitOnce sep cs with
  | some (before, after) => (before, some after)
  | none => (cs, none)

/-- The trimmed text of a string. -/
def trimmed (s : String) : String := String.ofList (trim s.toList)

/-- Whether a list starts with another, and what follows it. -/
def after? {α : Type} [DecidableEq α] : List α → List α → Option (List α)
  | [], rest => some rest
  | _ :: _, [] => none
  | p :: ps, c :: cs => if p = c then after? ps cs else none

/-- There is at least one piece. -/
theorem split_ne_nil {α : Type} [DecidableEq α] (sep : α) (cs : List α) : split sep cs ≠ [] := by
  cases cs with
  | nil => simp [split]
  | cons c cs =>
    by_cases h : c = sep
    · simp [split, h]
    · simp only [split, h, if_false]
      split <;> simp

/-- **Nothing is lost:** the pieces joined by the separator are the text. -/
theorem intercalate_split {α : Type} [DecidableEq α] (sep : α) (cs : List α) :
    [sep].intercalate (split sep cs) = cs := by
  induction cs with
  | nil => rfl
  | cons c cs ih =>
    by_cases h : c = sep
    · obtain ⟨p, ps, hp⟩ := List.exists_cons_of_ne_nil (split_ne_nil sep cs)
      rw [hp] at ih
      simp only [split, h, if_true, hp]
      simpa [List.intercalate, List.intersperse] using ih
    · obtain ⟨p, ps, hp⟩ := List.exists_cons_of_ne_nil (split_ne_nil sep cs)
      rw [hp] at ih
      simp only [split, h, if_false, hp]
      cases ps with
      | nil => simpa [List.intercalate, List.intersperse] using ih
      | cons q qs => simpa [List.intercalate, List.intersperse] using ih

end Text
end HomeMedia
