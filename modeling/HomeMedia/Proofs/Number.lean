import HomeMedia.Number
import Mathlib.Data.List.Induction
import Mathlib.Data.Nat.Digits.Defs
/-!
# Which texts are numbers

A text is a *numeral* if it is a row of at least one digit, with a plus sign before it or not
(`IsNumeral`). It is read as an unsigned number iff it is a numeral whose value is within the limit
(`readNat_eq_ok_iff`). Any other text has one fault, the first that comes up from left to right
(`Faulty`), and it is that fault which is reported (`readNat_eq_error_iff`).

A signed number that is written in decimal digits is read back, whatever its sign
(`readInt_toString`). A number that is not negative is brought into the signed range by cutting it
off above (`clampSigned64_of_nonneg`).
-/

namespace HomeMedia
namespace Number

/-- The digits of a text that may begin with a plus sign. -/
def unsigned : List Char → List Char
  | '+' :: cs => cs
  | cs => cs

/-- The number that a row of digits stands for. -/
def value (digits : List Char) : Nat :=
  Nat.ofDigits 10 (digits.map fun c => c.toNat - '0'.toNat).reverse

/-- A row of digits, with a plus sign before it or not. -/
structure IsNumeral (cs : List Char) : Prop where
  /-- There is a digit. -/
  some : unsigned cs ≠ []
  /-- There is nothing else. -/
  digits : ∀ c ∈ unsigned cs, c.isDigit = true

/-- The fault of a text that is no numeral, or stands for a number above the limit. -/
inductive Faulty (limit : Nat) (cs : List Char) : Fault → Prop where
  /-- There is no text. -/
  | empty (nothing : cs = []) : Faulty limit cs .empty
  /-- There is nothing but a plus sign. -/
  | lone (plus : cs = ['+']) : Faulty limit cs .badDigit
  /-- The digits, which are not too many yet, are followed by something else. -/
  | badDigit (front : List Char) (c : Char) (rest : List Char)
    (cut : unsigned cs = front ++ c :: rest) (digits : ∀ d ∈ front, d.isDigit = true)
    (within : value front ≤ limit) (other : c.isDigit = false) : Faulty limit cs .badDigit
  /-- Digits at the front stand for a number above the limit. -/
  | tooLarge (front rest : List Char) (cut : unsigned cs = front ++ rest)
    (digits : ∀ d ∈ front, d.isDigit = true) (beyond : limit < value front) :
    Faulty limit cs .tooLarge

/-! ## Rows of digits -/

/-- A digit is read as what it is worth. -/
theorem digit?_of_isDigit {c : Char} (digit : c.isDigit = true) :
    digit? c = some (c.toNat - '0'.toNat) := by
  rw [Char.isDigit, Bool.and_eq_true, decide_eq_true_eq, decide_eq_true_eq] at digit
  exact if_pos ⟨UInt32.le_iff_toNat_le.1 digit.1, UInt32.le_iff_toNat_le.1 digit.2⟩

/-- Anything else is read as no digit. -/
theorem digit?_of_not_isDigit {c : Char} (other : c.isDigit = false) : digit? c = none := by
  refine if_neg fun digit => Bool.eq_false_iff.1 other ?_
  rw [Char.isDigit, Bool.and_eq_true, decide_eq_true_eq, decide_eq_true_eq]
  exact ⟨UInt32.le_iff_toNat_le.2 digit.1, UInt32.le_iff_toNat_le.2 digit.2⟩

/-- One more digit at the end. -/
theorem value_concat (digits : List Char) (c : Char) :
    value (digits ++ [c]) = value digits * 10 + (c.toNat - '0'.toNat) := by
  simp only [value, List.map_append, List.map_cons, List.map_nil, List.reverse_append,
    List.reverse_singleton, List.singleton_append, Nat.ofDigits_cons]
  omega

/-- More digits are worth no less. -/
theorem value_le_append (front rest : List Char) : value front ≤ value (front ++ rest) := by
  induction rest generalizing front with
  | nil => rw [List.append_nil]
  | cons c rest ih =>
    rw [List.append_cons]
    refine Nat.le_trans ?_ (ih _)
    rw [value_concat]
    omega

/-- **Digits are read** behind others as long as the number is within the limit. -/
theorem readDigits_eq_ok_iff {limit n : Nat} {beyond : Fault} {front cs : List Char}
    (within : value front ≤ limit) :
    readDigits limit beyond (value front) cs = .ok n ↔
      (∀ c ∈ cs, c.isDigit = true) ∧ value (front ++ cs) ≤ limit ∧ value (front ++ cs) = n := by
  induction cs generalizing front with
  | nil =>
    rw [readDigits, List.append_nil, Except.ok.injEq]
    exact ⟨fun same => ⟨nofun, within, same⟩, fun all => all.2.2⟩
  | cons c cs ih =>
    rw [readDigits]
    cases digit : c.isDigit with
    | false =>
      rw [digit?_of_not_isDigit digit]
      exact ⟨nofun, fun all => nomatch digit.symm.trans (all.1 c (List.mem_cons_self ..))⟩
    | true =>
      rw [digit?_of_isDigit digit]
      dsimp only
      rw [← value_concat, List.append_cons front c cs]
      split
      · rename_i small
        rw [ih small, List.forall_mem_cons, and_iff_right digit]
      · rename_i large
        have above := value_le_append (front ++ [c]) cs
        exact ⟨nofun, fun all => absurd (Nat.le_trans above all.2.1) large⟩

/-- **The first fault of a row of digits** is reported. -/
theorem readDigits_eq_error_iff {limit : Nat} {f : Fault} {front cs : List Char}
    (within : value front ≤ limit) :
    readDigits limit .tooLarge (value front) cs = .error f ↔
      (f = .badDigit ∧ ∃ more c rest, cs = more ++ c :: rest ∧ (∀ d ∈ more, d.isDigit = true) ∧
          value (front ++ more) ≤ limit ∧ c.isDigit = false) ∨
        (f = .tooLarge ∧ ∃ more rest, cs = more ++ rest ∧ (∀ d ∈ more, d.isDigit = true) ∧
          limit < value (front ++ more)) := by
  have few : ∀ {front : List Char}, value front ≤ limit → ¬limit < value (front ++ []) := by
    intro front within
    rw [List.append_nil]
    exact Nat.not_lt.2 within
  induction cs generalizing front with
  | nil =>
    rw [readDigits]
    refine ⟨nofun, ?_⟩
    rintro (⟨-, more, c, rest, cut, -⟩ | ⟨-, more, rest, cut, -, above⟩)
    · exact nomatch (List.append_eq_nil_iff.1 cut.symm).2
    · rw [(List.append_eq_nil_iff.1 cut.symm).1] at above
      exact absurd above (few within)
  | cons c cs ih =>
    rw [readDigits]
    cases digit : c.isDigit with
    | false =>
      rw [digit?_of_not_isDigit digit]
      constructor
      · rintro ⟨⟩
        exact .inl ⟨rfl, [], c, cs, rfl, nofun, Nat.not_lt.1 (few within), digit⟩
      · rintro (⟨rfl, -⟩ | ⟨-, more, rest, cut, plain, above⟩)
        · rfl
        · cases more with
          | nil => exact absurd above (few within)
          | cons d more =>
            cases cut
            cases digit.symm.trans (plain c (List.mem_cons_self ..))
    | true =>
      rw [digit?_of_isDigit digit]
      dsimp only
      rw [← value_concat]
      split
      · rename_i small
        refine (ih small).trans ?_
        -- What is behind `c` is behind the digits before it with `c` at their end.
        constructor
        · rintro (⟨rfl, more, d, rest, rfl, plain, low, other⟩ |
            ⟨rfl, more, rest, rfl, plain, above⟩)
          · exact .inl ⟨rfl, c :: more, d, rest, rfl, List.forall_mem_cons.2 ⟨digit, plain⟩,
              by rwa [List.append_cons], other⟩
          · exact .inr ⟨rfl, c :: more, rest, rfl, List.forall_mem_cons.2 ⟨digit, plain⟩,
              by rwa [List.append_cons]⟩
        · rintro (⟨rfl, more, d, rest, cut, plain, low, other⟩ |
            ⟨rfl, more, rest, cut, plain, above⟩)
          · cases more with
            | nil =>
              cases cut
              cases digit.symm.trans other
            | cons _ more =>
              cases cut
              exact .inl ⟨rfl, more, d, rest, rfl, (List.forall_mem_cons.1 plain).2,
                by rwa [← List.append_cons], other⟩
          · cases more with
            | nil => exact absurd above (few within)
            | cons _ more =>
              cases cut
              exact .inr ⟨rfl, more, rest, rfl, (List.forall_mem_cons.1 plain).2,
                by rwa [← List.append_cons]⟩
      · rename_i large
        constructor
        · rintro ⟨⟩
          exact .inr ⟨rfl, [c], cs, rfl, List.forall_mem_singleton.2 digit, Nat.not_le.1 large⟩
        · rintro (⟨rfl, more, d, rest, cut, plain, low, other⟩ | ⟨rfl, -⟩)
          · cases more with
            | nil =>
              cases cut
              cases digit.symm.trans other
            | cons _ more =>
              cases cut
              rw [List.append_cons] at low
              exact absurd (Nat.le_trans (value_le_append ..) low) large
          · rfl

/-! ## Numbers -/

/-- A text is read digit by digit, unless it has none. -/
theorem readNat_cases (limit : Nat) (cs : List Char) :
    (cs = [] ∧ readNat limit cs = .error .empty) ∨
      (cs = ['+'] ∧ readNat limit cs = .error .badDigit) ∨
      (unsigned cs ≠ [] ∧
        readNat limit cs = readDigits limit .tooLarge (value []) (unsigned cs)) := by
  unfold readNat
  split
  · exact .inl ⟨rfl, rfl⟩
  · exact .inr (.inl ⟨rfl, rfl⟩)
  · rename_i cs other
    exact .inr (.inr ⟨fun none => other (none ▸ rfl), rfl⟩)
  · rename_i some _ signless
    have same : unsigned cs = cs := by
      unfold unsigned
      split
      · exact absurd rfl (signless _)
      · rfl
    exact .inr (.inr ⟨by rwa [same], by rw [same]; rfl⟩)

/-- **Numerals within the limit are read**, and nothing else is. -/
theorem readNat_eq_ok_iff {limit n : Nat} {cs : List Char} :
    readNat limit cs = .ok n ↔
      IsNumeral cs ∧ value (unsigned cs) ≤ limit ∧ value (unsigned cs) = n := by
  rcases readNat_cases limit cs with ⟨rfl, read⟩ | ⟨rfl, read⟩ | ⟨some, read⟩
  · rw [read]
    exact ⟨nofun, fun all => absurd rfl all.1.some⟩
  · rw [read]
    exact ⟨nofun, fun all => absurd rfl all.1.some⟩
  · rw [read, readDigits_eq_ok_iff (Nat.zero_le _), List.nil_append]
    exact and_congr_left fun _ => ⟨fun digits => ⟨some, digits⟩, IsNumeral.digits⟩

/-- A text without digits is nothing or a plus sign. -/
theorem Faulty.of_unsigned_eq_nil {limit : Nat} {f : Fault} {cs : List Char}
    (faulty : Faulty limit cs f) (none : unsigned cs = []) :
    cs = [] ∧ f = .empty ∨ cs = ['+'] ∧ f = .badDigit := by
  cases faulty with
  | empty nothing => exact .inl ⟨nothing, rfl⟩
  | lone plus => exact .inr ⟨plus, rfl⟩
  | badDigit front c rest cut => exact nomatch (List.append_eq_nil_iff.1 (cut.symm.trans none)).2
  | tooLarge front rest cut digits beyond =>
    rw [(List.append_eq_nil_iff.1 (cut.symm.trans none)).1] at beyond
    cases beyond

/-- **The first fault of a text is reported.** -/
theorem readNat_eq_error_iff {limit : Nat} {f : Fault} {cs : List Char} :
    readNat limit cs = .error f ↔ Faulty limit cs f := by
  rcases readNat_cases limit cs with ⟨rfl, read⟩ | ⟨rfl, read⟩ | ⟨some, read⟩
  · rw [read]
    constructor
    · rintro ⟨⟩
      exact .empty rfl
    · intro faulty
      rcases faulty.of_unsigned_eq_nil rfl with ⟨-, rfl⟩ | ⟨plus, -⟩
      · rfl
      · cases plus
  · rw [read]
    constructor
    · rintro ⟨⟩
      exact .lone rfl
    · intro faulty
      rcases faulty.of_unsigned_eq_nil rfl with ⟨nothing, -⟩ | ⟨-, rfl⟩
      · cases nothing
      · rfl
  · rw [read, readDigits_eq_error_iff (Nat.zero_le _)]
    constructor
    · rintro (⟨rfl, front, c, rest, cut, digits, within, other⟩ |
        ⟨rfl, front, rest, cut, digits, beyond⟩)
      · exact .badDigit front c rest cut digits within other
      · exact .tooLarge front rest cut digits beyond
    · intro faulty
      cases faulty with
      | empty nothing => exact absurd (congrArg unsigned nothing) some
      | lone plus => exact absurd (congrArg unsigned plus) some
      | badDigit front c rest cut digits within other =>
        exact .inl ⟨rfl, front, c, rest, cut, digits, within, other⟩
      | tooLarge front rest cut digits beyond => exact .inr ⟨rfl, front, rest, cut, digits, beyond⟩

/-! ## Numbers that were written -/

/-- The digits that are written for a number stand for it. -/
theorem value_toDigits (n : Nat) : value (Nat.toDigits 10 n) = n := by
  have folded (digits : List Char) : value digits = Nat.ofDigitChars 10 digits 0 := by
    induction digits using List.reverseRecOn with
    | nil => rfl
    | append_singleton digits c ih =>
      rw [value_concat, ih, Nat.ofDigitChars_append, Nat.ofDigitChars_cons, Nat.ofDigitChars_nil,
        Nat.mul_comm]
  rw [folded, Nat.ofDigitChars_toDigits (by decide) (by decide)]

/-- A signed number is written as its digits, behind a minus sign if it is negative. -/
theorem toList_toString (n : Int) :
    (toString n).toList = (if n < 0 then ['-'] else []) ++ Nat.toDigits 10 n.natAbs := by
  rw [Int.toString_eq_repr]
  cases n with
  | ofNat m =>
    have positive : ¬Int.ofNat m < 0 := Int.not_lt.2 (Int.natCast_nonneg m)
    rw [if_neg positive]
    exact Nat.toList_repr
  | negSucc m =>
    rw [if_pos (Int.negSucc_lt_zero m)]
    change ("-" ++ Nat.repr (m + 1)).toList = _
    rw [String.toList_append, Nat.toList_repr]
    rfl

/-- Digits are read as what they stand for. -/
theorem readInt_of_digits {limit : Nat} {cs : List Char} (some : cs ≠ [])
    (digits : ∀ c ∈ cs, c.isDigit = true) (within : value cs ≤ limit) :
    readInt limit cs = .ok (value cs) := by
  have read : readDigits limit .tooLarge (value []) cs = .ok (value cs) :=
    (readDigits_eq_ok_iff (Nat.zero_le _)).2 ⟨digits, within, rfl⟩
  cases cs with
  | nil => exact absurd rfl some
  | cons c cs =>
    have digit := digits c (List.mem_cons_self ..)
    have plus : c ≠ '+' := by
      rintro rfl
      cases digit
    have minus : c ≠ '-' := by
      rintro rfl
      cases digit
    have signless : readInt limit (c :: cs) =
        (readDigits limit .tooLarge (value []) (c :: cs)).map Int.ofNat := by
      unfold readInt
      split <;> simp_all [value]
    rw [signless, read]
    rfl

/-- Digits behind a minus sign are read as the negative number. -/
theorem readInt_of_minus {limit : Nat} {cs : List Char} (some : cs ≠ [])
    (digits : ∀ c ∈ cs, c.isDigit = true) (within : value cs ≤ limit + 1) :
    readInt limit ('-' :: cs) = .ok (-(value cs : Int)) := by
  have read : readDigits (limit + 1) .tooSmall (value []) cs = .ok (value cs) :=
    (readDigits_eq_ok_iff (Nat.zero_le _)).2 ⟨digits, within, rfl⟩
  have signed : readInt limit ('-' :: cs) =
      (readDigits (limit + 1) .tooSmall (value []) cs).map fun n => -(Int.ofNat n) := by
    unfold readInt
    split <;> simp_all [value]
  rw [signed, read]
  rfl

/-- **A signed number is read back** if it is within the limits. -/
theorem readInt_toString {limit : Nat} {n : Int} (least : -(limit + 1) ≤ n) (most : n ≤ limit) :
    readInt limit (toString n).toList = .ok n := by
  have some : Nat.toDigits 10 n.natAbs ≠ [] := Nat.toDigits_ne_nil
  have digits : ∀ c ∈ Nat.toDigits 10 n.natAbs, c.isDigit = true := fun _ =>
    Nat.isDigit_of_mem_toDigits (by decide) (by decide)
  have worth := value_toDigits n.natAbs
  rw [toList_toString]
  split
  · rename_i negative
    rw [List.singleton_append, readInt_of_minus some digits (by omega), worth]
    exact congrArg Except.ok (by omega)
  · rename_i positive
    rw [List.nil_append, readInt_of_digits some digits (by omega), worth]
    exact congrArg Except.ok (by omega)

/-- A text without a fault is read as a number, and one with a fault is not. -/
example : readNat max16 "+0080".toList = .ok 80 ∧ readNat max16 "65536x".toList = .error .tooLarge ∧
    readNat max16 "6553x6".toList = .error .badDigit := by decide

/-! ## Numbers that are cut off -/

/-- A number that is not negative is cut off above only. -/
theorem clampSigned64_of_nonneg {n : Int} (positive : 0 ≤ n) :
    clampSigned64 n = min n (Int.ofNat maxSigned64) :=
  max_eq_right (Int.le_min.2 ⟨Int.le_trans (by decide) positive, by decide⟩)

end Number
end HomeMedia
