import HomeMedia.Text.Lower
import Mathlib
/-!
# Which texts have an ASCII word for their lower-case form

Of all capitals beyond ASCII only the Kelvin sign has a lower-case form in ASCII, the letter k
(`capitals_beyond`); the dotted capital I has an i in its form, and a dot that is no ASCII character
behind it. So a text has an ASCII word for its lower-case form if it is that word letter by letter,
in small letters or capitals, with or without Kelvin signs for the letter k
(`flatMap_lowerChar_eq_iff`).
-/

namespace HomeMedia
namespace Text

/-- The Kelvin sign. -/
def kelvinSign : Char := Char.ofNat 0x212A

/-- A character that stands for a letter of a word: the letter itself, its capital if the letter is
ASCII, and for the letter k the Kelvin sign. -/
def Spells (c letter : Char) : Prop := c.toLower = letter ∨ (c = kelvinSign ∧ letter = 'k')

/-- The lower-case forms of capitals are characters beyond ASCII. -/
structure Capitals.IsBeyond (row : Capitals) : Prop where
  /-- They are not ASCII. -/
  least : 0x80 ≤ row.small
  /-- They are characters. -/
  valid : ∀ n, row.first ≤ n → n ≤ row.last → (row.small + (n - row.first)).isValidChar

/-- **The Kelvin sign is the only capital** beyond ASCII with a lower-case form in ASCII. -/
theorem capitals_beyond {row : Capitals} (mem : row ∈ capitals) :
    row = ⟨0x212A, 0x212A, 1, 0x6B⟩ ∨ row.IsBeyond := by
  -- The forms of a row lie between those of its first and its last capital.
  have rows : ∀ row ∈ capitals, row = ⟨0x212A, 0x212A, 1, 0x6B⟩ ∨ 0x80 ≤ row.small ∧
      (row.small + (row.last - row.first) < 0xD800 ∨
        0xDFFF < row.small ∧ row.small + (row.last - row.first) < 0x110000) := by
    decide +kernel
  refine (rows row mem).imp_right fun ⟨least, most⟩ => ⟨least, fun n from_first to_last => ?_⟩
  unfold Nat.isValidChar
  omega

/-- A character beyond ASCII has something beyond ASCII in its lower-case form, unless it is the
Kelvin sign. -/
theorem exists_mem_lowerChar {c : Char} (beyond : ¬c.toNat < 0x80) (other : c ≠ kelvinSign) :
    ∃ form ∈ lowerChar c, ¬form.toNat < 0x80 := by
  unfold lowerChar
  rw [if_neg beyond]
  split_ifs
  · exact ⟨dotAbove, List.mem_cons_of_mem _ (List.mem_singleton_self _), by decide⟩
  · split
    · rename_i row found
      have held := List.find?_some found
      simp only [Capitals.holds, Bool.and_eq_true, decide_eq_true_eq] at held
      obtain ⟨⟨least, most⟩, -⟩ := held
      rcases capitals_beyond (List.mem_of_find?_eq_some found) with rfl | forms
      · refine absurd (Char.toNat_inj.1 ?_) other
        exact Nat.le_antisymm most least
      · refine ⟨_, List.mem_singleton_self _, ?_⟩
        rw [Char.toNat_ofNat, if_pos (forms.valid _ least most)]
        exact Nat.not_lt.2 (Nat.le_add_right_of_le forms.least)
    · exact ⟨c, List.mem_singleton_self _, beyond⟩

/-- If the small letter is ASCII, so is the capital. -/
theorem toNat_lt_of_toLower {c : Char} (ascii : c.toLower.toNat < 0x80) : c.toNat < 0x80 := by
  unfold Char.toLower at ascii
  split at ascii
  · rename_i capital
    exact Nat.lt_of_le_of_lt (UInt32.le_iff_toNat_le.1 capital.2) (by decide)
  · exact ascii

/-- A letter that is ASCII is the lower-case form of what spells it. -/
theorem lowerChar_eq_iff {c letter : Char} (ascii : letter.toNat < 0x80) :
    lowerChar c = [letter] ↔ Spells c letter := by
  constructor
  · intro same
    by_cases small : c.toNat < 0x80
    · rw [lowerChar, if_pos small] at same
      exact .inl (List.singleton_inj.1 same)
    · by_cases kelvin : c = kelvinSign
      · subst kelvin
        exact .inr ⟨rfl, (List.singleton_inj.1 same).symm⟩
      · obtain ⟨form, mem, beyond⟩ := exists_mem_lowerChar small kelvin
        rw [same, List.mem_singleton] at mem
        exact absurd (mem ▸ ascii) beyond
  · rintro (rfl | ⟨rfl, rfl⟩)
    · rw [lowerChar, if_pos (toNat_lt_of_toLower ascii)]
    · rfl

/-- A character that has only ASCII in its lower-case form has one letter there. -/
theorem exists_lowerChar_eq {c : Char} (ascii : ∀ form ∈ lowerChar c, form.toNat < 0x80) :
    ∃ letter, lowerChar c = [letter] := by
  by_cases small : c.toNat < 0x80
  · exact ⟨c.toLower, if_pos small⟩
  · by_cases kelvin : c = kelvinSign
    · subst kelvin
      exact ⟨'k', rfl⟩
    · obtain ⟨form, mem, beyond⟩ := exists_mem_lowerChar small kelvin
      exact absurd (ascii form mem) beyond

/-- **Which texts have an ASCII word for their lower-case form.** -/
theorem flatMap_lowerChar_eq_iff {text word : List Char}
    (ascii : ∀ letter ∈ word, letter.toNat < 0x80) :
    text.flatMap lowerChar = word ↔ List.Forall₂ Spells text word := by
  induction text generalizing word with
  | nil => rw [List.flatMap_nil, List.forall₂_nil_left_iff, eq_comm]
  | cons c text ih =>
    rw [List.flatMap_cons, List.forall₂_cons_left_iff]
    constructor
    · rintro rfl
      obtain ⟨letter, same⟩ := exists_lowerChar_eq fun form mem =>
        ascii form (List.mem_append_left _ mem)
      rw [same] at ascii ⊢
      have more := List.forall_mem_append.1 ascii
      exact ⟨letter, _, (lowerChar_eq_iff (more.1 letter (List.mem_singleton_self _))).1 same,
        (ih more.2).1 rfl, rfl⟩
    · rintro ⟨letter, more, spells, rest, rfl⟩
      obtain ⟨small, others⟩ := List.forall_mem_cons.1 ascii
      rw [(lowerChar_eq_iff small).2 spells, (ih others).2 rest]
      rfl

end Text
end HomeMedia
