import HomeMedia.Json.Reader
import HomeMedia.Proofs.Text.Utf8
/-!
# A string is read back from its text

Inside a string a character is written by a letter behind a backslash, by its number, or as itself
(`escape_cases`). In each case a round or some rounds of the readers of strings take just that
character, so that a reader that has enough rounds left before it has enough left behind it
(`exists_of_escape`). Hence a string is read back as itself, and skipped as a whole, whatever
follows its closing quote (`string_content`, `skipString_content`).
-/

namespace HomeMedia
namespace Json

open Text (Bytes)
open Text.Utf8 (encode ofString)

/-- The bytes of a string between its quotes. -/
def content (s : String) : Bytes := encode (s.toList.flatMap escape)

/-- The bytes of a string are its content between quotes. -/
theorem ofString_renderText (s : String) : ofString (renderText s) = 34 :: (content s ++ [34]) := by
  rw [renderText, ofString, String.toList_ofList, ← List.singleton_append, Text.Utf8.encode_append,
    Text.Utf8.encode_append]
  rfl

/-! ## How a character is written -/

/-- A byte that stands for itself inside a string. -/
structure IsPlain (b : UInt8) : Prop where
  /-- It does not end the string. -/
  quote : b ≠ 34
  /-- It does not start an escape. -/
  backslash : b ≠ 92
  /-- It is no control character. -/
  control : ¬b < 32

/-- The bytes of a character beyond ASCII are beyond ASCII. -/
theorem le_of_mem_encode {c : Char} (beyond : 0x7F < c.val.toNat) {b : UInt8}
    (mem : b ∈ encode [c]) : 128 ≤ b.toNat := by
  have large (n : Nat) (least : 128 ≤ n) (most : n < 256) : 128 ≤ (UInt8.ofNat n).toNat := by
    rw [UInt8.toNat_ofNat_of_lt' most]
    exact least
  simp only [encode, List.flatMap_singleton, String.utf8EncodeChar] at mem
  rw [if_neg (Nat.not_le_of_lt beyond)] at mem
  split_ifs at mem <;> simp only [List.mem_cons, List.not_mem_nil, or_false] at mem
  · rcases mem with rfl | rfl <;> exact large _ (by omega) (by omega)
  · rcases mem with rfl | rfl | rfl <;> exact large _ (by omega) (by omega)
  · rcases mem with rfl | rfl | rfl | rfl <;> exact large _ (by omega) (by omega)

/-- A character that is not escaped has plain bytes. -/
theorem isPlain_of_mem_encode {c : Char} (quote : c ≠ '"') (backslash : c ≠ '\\')
    (control : ¬c.toNat < 32) {b : UInt8} (mem : b ∈ encode [c]) : IsPlain b := by
  by_cases ascii : c.val.toNat ≤ 0x7F
  · have byte : b.toNat = c.toNat := by
      simp only [encode, List.flatMap_singleton, String.utf8EncodeChar] at mem
      rw [if_pos ascii, List.mem_singleton] at mem
      rw [mem]
      exact UInt8.toNat_ofNat_of_lt' (show c.val.toNat < 256 by omega)
    refine ⟨?_, ?_, fun low => control (byte ▸ UInt8.lt_iff_toNat_lt.1 low)⟩
    · rintro rfl
      exact quote (Char.toNat_inj.1 byte.symm)
    · rintro rfl
      exact backslash (Char.toNat_inj.1 byte.symm)
  · have large := le_of_mem_encode (Nat.lt_of_not_le ascii) mem
    refine ⟨?_, ?_, fun low => ?_⟩
    · rintro rfl
      exact absurd large (by decide)
    · rintro rfl
      exact absurd large (by decide)
    · have small : b.toNat < 32 := UInt8.lt_iff_toNat_lt.1 low
      omega

/-- The digits of a small number are read as that number. -/
theorem hexValue?_hexDigits_low :
    ∀ n < 16, (encode (Text.hexDigits n)).map Text.hexValue? = [some n] := by decide

/-- The two digits of a number from 16 to 31 are a one and what is left. -/
theorem hexValue?_hexDigits_high :
    ∀ n < 16, (encode (Text.hexDigits (16 + n))).map Text.hexValue? = [some 1, some n] := by decide

/-- Four digits of which the first two are zeros stand for what the last two are worth. -/
theorem hexUnit_of_digits {a b : UInt8} {m n : Nat} (first : Text.hexValue? a = some m)
    (second : Text.hexValue? b = some n) (rest : Bytes) :
    Reader.hexUnit (48 :: 48 :: a :: b :: rest) = .ok (m * 16 + n, rest) := by
  have zero : Text.hexValue? 48 = some 0 := rfl
  rw [Reader.hexUnit, zero, first, second]
  exact congrArg (fun value => Except.ok (value, rest)) (by omega)

/-- **How a character is written inside a string**: by a letter behind a backslash, by its number,
or as itself. -/
theorem escape_cases (c : Char) :
    (∃ letter byte, encode (escape c) = [92, letter] ∧ letter ≠ 117 ∧
      Reader.letterEscape? letter = some byte ∧ encode [c] = [byte]) ∨
    (∃ a b, encode (escape c) = [92, 117, 48, 48, a, b] ∧ c.toNat < 32 ∧
      ∀ rest, Reader.hexUnit (48 :: 48 :: a :: b :: rest) = .ok (c.toNat, rest)) ∨
    encode (escape c) = encode [c] ∧ ∀ b ∈ encode [c], IsPlain b := by
  by_cases quote : c = '"'
  · subst quote
    exact .inl ⟨34, 34, by decide, by decide, by decide, by decide⟩
  by_cases backslash : c = '\\'
  · subst backslash
    exact .inl ⟨92, 92, by decide, by decide, by decide, by decide⟩
  by_cases line : c = '\n'
  · subst line
    exact .inl ⟨110, 10, by decide, by decide, by decide, by decide⟩
  by_cases ret : c = '\r'
  · subst ret
    exact .inl ⟨114, 13, by decide, by decide, by decide, by decide⟩
  by_cases tab : c = '\t'
  · subst tab
    exact .inl ⟨116, 9, by decide, by decide, by decide, by decide⟩
  by_cases back : c = '\x08'
  · subst back
    exact .inl ⟨98, 8, by decide, by decide, by decide, by decide⟩
  by_cases form : c = '\x0c'
  · subst form
    exact .inl ⟨102, 12, by decide, by decide, by decide, by decide⟩
  rw [escape, if_neg quote, if_neg backslash, if_neg line, if_neg ret, if_neg tab, if_neg back,
    if_neg form]
  by_cases low : c.toNat < 16
  · obtain ⟨d, digits, value⟩ := List.map_eq_singleton_iff.1 (hexValue?_hexDigits_low _ low)
    have zero : Text.hexValue? 48 = some 0 := rfl
    rw [if_pos low]
    refine .inr (.inl ⟨48, d, ?_, by omega, fun rest => ?_⟩)
    · rw [Text.Utf8.encode_append, digits]
      rfl
    · rw [hexUnit_of_digits zero value, Nat.zero_mul, Nat.zero_add]
  rw [if_neg low]
  by_cases high : c.toNat < 32
  · have written := hexValue?_hexDigits_high (c.toNat - 16) (by omega)
    rw [Nat.add_sub_cancel' (Nat.le_of_not_lt low)] at written
    obtain ⟨a, more, digits, first, rest⟩ := List.map_eq_cons_iff.1 written
    obtain ⟨b, rfl, second⟩ := List.map_eq_singleton_iff.1 rest
    rw [if_pos high]
    refine .inr (.inl ⟨a, b, ?_, high, fun rest => ?_⟩)
    · rw [Text.Utf8.encode_append, digits]
      rfl
    · rw [hexUnit_of_digits first second, Nat.one_mul, Nat.add_sub_cancel' (Nat.le_of_not_lt low)]
  · rw [if_neg high]
    exact .inr (.inr ⟨rfl, fun b => isPlain_of_mem_encode quote backslash high⟩)

namespace Reader

variable {fuel : Nat} {done rest : Bytes}

/-- A quote ends the string. -/
theorem stringBytes_quote : stringBytes (fuel + 1) done (34 :: rest) = .ok (done.reverse, rest) := by
  rw [stringBytes.eq_def]
  rfl

/-- A plain byte stands for itself. -/
theorem stringBytes_plain {b : UInt8} (plain : IsPlain b) :
    stringBytes (fuel + 1) done (b :: rest) = stringBytes fuel (b :: done) rest := by
  rw [stringBytes.eq_def]
  dsimp only
  rw [if_neg plain.quote, if_neg plain.backslash, if_neg plain.control]

/-- A letter behind a backslash stands for the byte that it escapes. -/
theorem stringBytes_letter {letter b : UInt8} (other : letter ≠ 117)
    (known : letterEscape? letter = some b) :
    stringBytes (fuel + 1) done (92 :: letter :: rest) = stringBytes fuel (b :: done) rest := by
  rw [stringBytes.eq_def]
  dsimp only
  rw [if_neg (by decide), if_pos rfl, if_neg other, known]

/-- A number behind a backslash stands for the bytes of its character. -/
theorem stringBytes_number {c : Char} {after : Bytes}
    (number : numericEscape rest = .ok (c, after)) :
    stringBytes (fuel + 1) done (92 :: 117 :: rest) =
      stringBytes fuel ((encode [c]).reverse ++ done) after := by
  rw [stringBytes.eq_def]
  dsimp only
  rw [if_neg (by decide), if_pos rfl, if_pos rfl, number]

/-- A quote ends a string that is skipped. -/
theorem skipString_quote : skipString (fuel + 1) (34 :: rest) = .ok rest := by
  rw [skipString.eq_def]
  rfl

/-- A plain byte is skipped on its own. -/
theorem skipString_plain {b : UInt8} (plain : IsPlain b) :
    skipString (fuel + 1) (b :: rest) = skipString fuel rest := by
  rw [skipString.eq_def]
  dsimp only
  rw [if_neg plain.quote, if_neg plain.backslash, if_neg plain.control]

/-- A letter is skipped with the backslash before it. -/
theorem skipString_letter {letter b : UInt8} (other : letter ≠ 117)
    (known : letterEscape? letter = some b) :
    skipString (fuel + 1) (92 :: letter :: rest) = skipString fuel rest := by
  rw [skipString.eq_def]
  dsimp only
  rw [if_neg (by decide), if_pos rfl, if_neg other, known]
  rfl

/-- So are the digits of a number. -/
theorem skipString_number {unit : Nat} {after : Bytes} (number : hexUnit rest = .ok (unit, after)) :
    skipString (fuel + 1) (92 :: 117 :: rest) = skipString fuel after := by
  rw [skipString.eq_def]
  dsimp only
  rw [if_neg (by decide), if_pos rfl, if_pos rfl, number]

/-- The number of a control character is no half of a pair. -/
theorem numericEscape_of_control {c : Char} {after : Bytes} (control : c.toNat < 32)
    (number : hexUnit rest = .ok (c.toNat, after)) : numericEscape rest = .ok (c, after) := by
  have first : ¬(0xDC00 ≤ c.toNat ∧ c.toNat ≤ 0xDFFF) := by omega
  have second : ¬(0xD800 ≤ c.toNat ∧ c.toNat ≤ 0xDBFF) := by omega
  rw [numericEscape, number]
  change (if _ then _ else if _ then _ else _) = _
  rw [if_neg first, if_neg second, Char.ofNat_toNat]

/-! ## Reading a string

A reader needs as many rounds as there are bytes, and one more. `left` are the rounds that are
left. -/

variable {tail : Bytes}

/-- Reading plain bytes collects them and leaves rounds for what follows. -/
theorem exists_stringBytes_plain {bytes : Bytes} (plain : ∀ b ∈ bytes, IsPlain b) (done : Bytes)
    (enough : (bytes ++ tail).length < fuel) : ∃ left, tail.length < left ∧
      stringBytes fuel done (bytes ++ tail) = stringBytes left (bytes.reverse ++ done) tail := by
  induction bytes generalizing fuel done with
  | nil => exact ⟨fuel, enough, rfl⟩
  | cons b bytes ih =>
    obtain ⟨itself, others⟩ := List.forall_mem_cons.1 plain
    cases fuel with
    | zero => exact absurd enough (Nat.not_lt_zero _)
    | succ fuel =>
      obtain ⟨left, more, same⟩ := ih others (b :: done) (Nat.lt_of_succ_lt_succ enough)
      refine ⟨left, more, ?_⟩
      rw [List.cons_append, stringBytes_plain itself, same, List.reverse_cons, List.append_assoc]
      rfl

/-- Skipping plain bytes leaves rounds for what follows. -/
theorem exists_skipString_plain {bytes : Bytes} (plain : ∀ b ∈ bytes, IsPlain b)
    (enough : (bytes ++ tail).length < fuel) : ∃ left, tail.length < left ∧
      skipString fuel (bytes ++ tail) = skipString left tail := by
  induction bytes generalizing fuel with
  | nil => exact ⟨fuel, enough, rfl⟩
  | cons b bytes ih =>
    obtain ⟨itself, others⟩ := List.forall_mem_cons.1 plain
    cases fuel with
    | zero => exact absurd enough (Nat.not_lt_zero _)
    | succ fuel =>
      obtain ⟨left, more, same⟩ := ih others (Nat.lt_of_succ_lt_succ enough)
      exact ⟨left, more, (skipString_plain itself).trans same⟩

/-- Both readers take one character. -/
theorem exists_of_escape (c : Char) (done : Bytes)
    (enough : (encode (escape c) ++ tail).length < fuel) :
    (∃ left, tail.length < left ∧ stringBytes fuel done (encode (escape c) ++ tail) =
      stringBytes left ((encode [c]).reverse ++ done) tail) ∧
    ∃ left, tail.length < left ∧
      skipString fuel (encode (escape c) ++ tail) = skipString left tail := by
  rcases escape_cases c with
    ⟨letter, b, written, other, known, itself⟩ | ⟨a, b, written, control, number⟩ | ⟨itself, plain⟩
  · rw [written] at enough ⊢
    cases fuel with
    | zero => exact absurd enough (Nat.not_lt_zero _)
    | succ fuel =>
      have more : tail.length < fuel := by
        simp only [List.length_append, List.length_cons] at enough
        omega
      rw [itself]
      exact ⟨⟨fuel, more, stringBytes_letter other known⟩, fuel, more,
        skipString_letter other known⟩
  · rw [written] at enough ⊢
    cases fuel with
    | zero => exact absurd enough (Nat.not_lt_zero _)
    | succ fuel =>
      have more : tail.length < fuel := by
        simp only [List.length_append, List.length_cons] at enough
        omega
      exact ⟨⟨fuel, more, stringBytes_number (numericEscape_of_control control (number tail))⟩,
        fuel, more, skipString_number (number tail)⟩
  · rw [itself] at enough ⊢
    exact ⟨exists_stringBytes_plain plain done enough, exists_skipString_plain plain enough⟩

/-- Both readers take any number of characters. -/
theorem exists_of_content (cs : List Char) (done : Bytes)
    (enough : (encode (cs.flatMap escape) ++ tail).length < fuel) :
    (∃ left, tail.length < left ∧ stringBytes fuel done (encode (cs.flatMap escape) ++ tail) =
      stringBytes left ((encode cs).reverse ++ done) tail) ∧
    ∃ left, tail.length < left ∧
      skipString fuel (encode (cs.flatMap escape) ++ tail) = skipString left tail := by
  induction cs generalizing fuel done with
  | nil => exact ⟨⟨fuel, enough, rfl⟩, fuel, enough, rfl⟩
  | cons c cs ih =>
    have split : encode ((c :: cs).flatMap escape) ++ tail =
        encode (escape c) ++ (encode (cs.flatMap escape) ++ tail) := by
      rw [List.flatMap_cons, Text.Utf8.encode_append, List.append_assoc]
    have itself : encode (c :: cs) = encode [c] ++ encode cs := Text.Utf8.encode_append [c] cs
    rw [split] at enough ⊢
    obtain ⟨⟨first, some, read⟩, second, others, skipped⟩ := exists_of_escape c done enough
    obtain ⟨⟨left, more, readAll⟩, -⟩ := ih ((encode [c]).reverse ++ done) some
    obtain ⟨-, rest, most, skippedAll⟩ := ih done others
    refine ⟨⟨left, more, ?_⟩, rest, most, skipped.trans skippedAll⟩
    rw [read, readAll, itself, List.reverse_append, List.append_assoc]

/-- **A string is read back**, whatever follows its closing quote. -/
theorem string_content (s : String) (rest : Bytes) :
    string (content s ++ 34 :: rest) = .ok (s, rest) := by
  obtain ⟨⟨left, more, read⟩, -⟩ := exists_of_content s.toList [] (Nat.lt_succ_self _)
  cases left with
  | zero => exact absurd more (Nat.not_lt_zero _)
  | succ left =>
    rw [string, content, read, stringBytes_quote, List.append_nil, List.reverse_reverse]
    dsimp only [bind, Except.bind]
    rw [Text.Utf8.toString?_encode, String.ofList_toList]

/-- **A string is skipped as a whole**, whatever follows its closing quote. -/
theorem skipString_content (s : String) (rest : Bytes) :
    skipString ((content s ++ 34 :: rest).length + 1) (content s ++ 34 :: rest) = .ok rest := by
  obtain ⟨-, left, more, skipped⟩ := exists_of_content s.toList [] (Nat.lt_succ_self _)
  cases left with
  | zero => exact absurd more (Nat.not_lt_zero _)
  | succ left => exact skipped.trans skipString_quote

end Reader
end Json
end HomeMedia
