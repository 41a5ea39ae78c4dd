import HomeMedia.Proofs.Json.Strings
import HomeMedia.Proofs.Number
/-!
# The text of a value, and how it is skipped

What a value is written as, byte by byte: a list and an object begin with their bracket, behind
which their parts follow with commas between them, and every other value is taken off by the reader
of its kind. A number ends where no digit follows, so it matters what stands behind a value. A value
is skipped by grammar only, in rounds of which each takes at least one byte, and with as many rounds
as there are bytes it is skipped as a whole.
-/

namespace HomeMedia
namespace Json

open Text (Bytes)
open Text.Utf8 (encode ofString ofString_append)

/-! ## The text of a value -/

/-- The elements of a list are written with commas between them. -/
theorem renderList_cons (v w : Json) (vs : List Json) :
    renderList (v :: w :: vs) = v.render ++ "," ++ renderList (w :: vs) := rfl

/-- So are the members of an object, each with its name. -/
theorem renderMembers_cons (m n : String × Json) (ms : List (String × Json)) :
    renderMembers (m :: n :: ms) =
      renderText m.1 ++ ":" ++ m.2.render ++ "," ++ renderMembers (n :: ms) := rfl

/-- A list is its elements in brackets. -/
theorem render_list (vs : List Json) : render (.list vs) = "[" ++ renderList vs ++ "]" := rfl

/-- An object is its members in braces. -/
theorem render_object (ms : List (String × Json)) :
    render (.object ms) = "\x7b" ++ renderMembers ms ++ "\x7d" := rfl

/-- A number is written in decimal. -/
theorem render_number (n : Int) : render (.number n) = toString n := rfl

/-- The bytes of a value. -/
def written (v : Json) : Bytes := ofString v.render

/-- The bytes of a member of an object. -/
def writtenMember (m : String × Json) : Bytes := 34 :: (content m.1 ++ 34 :: 58 :: written m.2)

/-- What is left of a list or an object from some of its parts on: a comma stands before each but
the first of all, and the bracket and the rest behind them. -/
def behind (close : UInt8) (rest : Bytes) : Bool → List Bytes → Bytes
  | _, [] => close :: rest
  | isFirst, part :: parts => (if isFirst then part else 44 :: part) ++ behind close rest false parts

/-- The bytes of a list's elements up to the rest are what stands behind its bracket. -/
theorem ofString_renderList (vs : List Json) (rest : Bytes) :
    ofString (renderList vs) ++ 93 :: rest = behind 93 rest true (vs.map written) := by
  induction vs with
  | nil => rfl
  | cons v vs ih =>
    cases vs with
    | nil => rfl
    | cons w vs =>
      have comma : ofString "," = [44] := by decide
      rw [renderList_cons, ofString_append, ofString_append, comma, List.append_assoc, ih,
        List.append_assoc]
      rfl

/-- The bytes of an object's members up to the rest are what stands behind its brace. -/
theorem ofString_renderMembers (ms : List (String × Json)) (rest : Bytes) :
    ofString (renderMembers ms) ++ 125 :: rest = behind 125 rest true (ms.map writtenMember) := by
  have colon : ofString ":" = [58] := by decide
  have member (m : String × Json) :
      ofString (renderText m.1 ++ ":" ++ m.2.render) = writtenMember m := by
    rw [ofString_append, ofString_append, ofString_renderText, colon, writtenMember, written]
    simp
  induction ms with
  | nil => rfl
  | cons m ms ih =>
    cases ms with
    | nil =>
      change ofString (renderText m.1 ++ ":" ++ m.2.render) ++ 125 :: rest = _
      rw [member]
      rfl
    | cons other ms =>
      have comma : ofString "," = [44] := by decide
      rw [renderMembers_cons, ofString_append, ofString_append, comma, member m,
        List.append_assoc, ih, List.append_assoc]
      rfl

/-- The bytes of a list are a bracket and what stands behind it. -/
theorem written_list (vs : List Json) (rest : Bytes) :
    written (.list vs) ++ rest = 91 :: behind 93 rest true (vs.map written) := by
  have opening : ofString "[" = [91] := by decide
  have closing : ofString "]" = [93] := by decide
  rw [written, render_list, ofString_append, ofString_append, opening, closing,
    ← ofString_renderList]
  simp

/-- The bytes of an object are a brace and what stands behind it. -/
theorem written_object (ms : List (String × Json)) (rest : Bytes) :
    written (.object ms) ++ rest = 123 :: behind 125 rest true (ms.map writtenMember) := by
  have opening : ofString "\x7b" = [123] := by decide
  have closing : ofString "\x7d" = [125] := by decide
  rw [written, render_object, ofString_append, ofString_append, opening, closing,
    ← ofString_renderMembers]
  simp

/-- The bytes of a string are its content between quotes. -/
theorem written_text (s : String) (rest : Bytes) :
    written (.text s) ++ rest = 34 :: (content s ++ 34 :: rest) := by
  change ofString (renderText s) ++ rest = _
  rw [ofString_renderText]
  simp

/-- The bytes of nothing are those of `null`. -/
theorem written_null : written .null = [110, 117, 108, 108] := by
  change ofString "null" = _
  decide

/-- The bytes of a Boolean are those of its name. -/
theorem written_bool (b : Bool) :
    written (.bool b) = if b then [116, 114, 117, 101] else [102, 97, 108, 115, 101] := by
  change ofString (Text.truth b) = _
  cases b <;> decide

/-- The bytes of a number without its sign. -/
def digitsOf (n : Nat) : Bytes := encode (Nat.toDigits 10 n)

/-- The bytes of a number are its digits, and a sign before them if it is negative. -/
theorem written_number (n : Int) :
    written (.number n) = (if n < 0 then [45] else []) ++ digitsOf n.natAbs := by
  rw [written, render_number, ofString, Number.toList_toString, Text.Utf8.encode_append]
  split <;> rfl

/-- The induction over values, their elements and members. -/
theorem induct {P : Json → Prop} (null : P .null) (bool : ∀ b, P (.bool b))
    (number : ∀ n, P (.number n)) (text : ∀ s, P (.text s))
    (list : ∀ vs, (∀ v ∈ vs, P v) → P (.list vs))
    (object : ∀ ms, (∀ m ∈ ms, P m.2) → P (.object ms)) (v : Json) : P v :=
  Json.rec (motive_1 := P) (motive_2 := fun vs => ∀ v ∈ vs, P v)
    (motive_3 := fun ms => ∀ m ∈ ms, P m.2) (motive_4 := fun m => P m.2)
    null bool number text list object
    nofun (fun _ _ h hs => List.forall_mem_cons.2 ⟨h, hs⟩)
    nofun (fun _ _ h hs => List.forall_mem_cons.2 ⟨h, hs⟩)
    (fun _ _ h => h) v

/-! ## What may follow a value -/

/-- Behind a value there is nothing, a comma, or a bracket that ends what it is inside of. -/
def Follows (rest : Bytes) : Prop :=
  rest = [] ∨ ∃ b more, rest = b :: more ∧ (b = 44 ∨ b = 93 ∨ b = 125)

/-- What stands behind a part of a list or an object may follow a value. -/
theorem follows_behind {close : UInt8} (bracket : close = 93 ∨ close = 125) (rest : Bytes)
    (parts : List Bytes) : Follows (behind close rest false parts) := by
  cases parts with
  | nil => exact .inr ⟨close, rest, rfl, .inr bracket⟩
  | cons part parts => exact .inr ⟨44, _, rfl, .inl rfl⟩

/-! ## Numbers -/

namespace Reader

/-- The code of a digit is between those of `0` and `9`. -/
theorem toNat_of_isDigit {c : Char} (digit : c.isDigit = true) : 48 ≤ c.toNat ∧ c.toNat ≤ 57 := by
  simp only [Char.isDigit, Bool.and_eq_true, decide_eq_true_iff] at digit
  exact ⟨UInt32.le_iff_toNat_le.1 digit.1, UInt32.le_iff_toNat_le.1 digit.2⟩

/-- A digit is one byte. -/
theorem encode_digit {c : Char} (digit : c.isDigit = true) :
    String.utf8EncodeChar c = [UInt8.ofNat c.toNat] ∧ isDigit (UInt8.ofNat c.toNat) = true := by
  have range := toNat_of_isDigit digit
  have byte : (UInt8.ofNat c.toNat).toNat = c.toNat :=
    UInt8.toNat_ofNat_of_lt' (show c.toNat < 256 by omega)
  constructor
  · rw [String.utf8EncodeChar]
    exact if_pos (show c.toNat ≤ 0x7F by omega)
  · simp only [isDigit, Bool.and_eq_true, decide_eq_true_iff, UInt8.le_iff_toNat_le, byte]
    exact range

/-- The bytes of a number are digits. -/
theorem isDigit_of_mem_digitsOf {n : Nat} {b : UInt8} (mem : b ∈ digitsOf n) : isDigit b = true := by
  obtain ⟨c, digit, mem⟩ := List.mem_flatMap.1 mem
  obtain ⟨byte, right⟩ :=
    encode_digit (Nat.isDigit_of_mem_toDigits (by decide) (Nat.le_refl _) digit)
  rw [byte, List.mem_singleton] at mem
  exact mem ▸ right

/-- The digits of a number above zero do not begin with a zero. -/
theorem head?_toDigits_ne {n : Nat} (pos : 0 < n) : (Nat.toDigits 10 n).head? ≠ some '0' := by
  induction n using Nat.strongRecOn with
  | ind n ih =>
    rw [Nat.toDigits_eq_if (by decide)]
    split
    · intro zero
      exact absurd (Nat.digitChar_eq_zero.1 (Option.some.inj zero)) (Nat.ne_of_gt pos)
    · rw [List.head?_append_of_ne_nil _ Nat.toDigits_ne_nil]
      exact ih _ (by omega) (by omega)

/-- The digits of a number are its first and the others. -/
theorem exists_digitsOf (n : Nat) : ∃ c more, (Nat.toDigits 10 n).head? = some c ∧
    c.isDigit = true ∧ digitsOf n = UInt8.ofNat c.toNat :: more := by
  cases written : Nat.toDigits 10 n with
  | nil => exact absurd written Nat.toDigits_ne_nil
  | cons c cs =>
    have digit : c.isDigit = true :=
      Nat.isDigit_of_mem_toDigits (by decide) (Nat.le_refl _) (written ▸ List.mem_cons_self ..)
    refine ⟨c, encode cs, rfl, digit, ?_⟩
    rw [digitsOf, written, encode, List.flatMap_cons, (encode_digit digit).1]
    rfl

/-- A zero that leads stands alone. -/
theorem not_leads_digitsOf (n : Nat) :
    ¬((digitsOf n).head? = some 48 ∧ 1 < (digitsOf n).length) := by
  rintro ⟨zero, long⟩
  obtain ⟨c, more, first, digit, written⟩ := exists_digitsOf n
  rw [written] at zero
  have value : c.toNat % 256 = 48 := congrArg UInt8.toNat (Option.some.inj zero)
  have same : c = '0' := by
    have range := toNat_of_isDigit digit
    exact Char.toNat_inj.1 (show c.toNat = 48 by omega)
  rcases Nat.eq_zero_or_pos n with rfl | pos
  · exact absurd long (by decide)
  · exact head?_toDigits_ne pos (same ▸ first)

/-- What follows a value does not begin with a digit. -/
theorem isDigit_of_follows {rest : Bytes} (follows : Follows rest) :
    rest.takeWhile isDigit = [] ∧ rest.dropWhile isDigit = rest := by
  rcases follows with rfl | ⟨b, more, rfl, rfl | rfl | rfl⟩ <;> exact ⟨rfl, rfl⟩

/-- **A number is taken as a whole.** -/
theorem numeral_digitsOf (n : Nat) {rest : Bytes} (follows : Follows rest) :
    numeral (digitsOf n ++ rest) = .ok (⟨digitsOf n, [], 0⟩, rest) := by
  have whole : digits (digitsOf n ++ rest) = .ok (digitsOf n, rest) := by
    obtain ⟨c, more, -, -, first⟩ := exists_digitsOf n
    have all : ∀ b ∈ digitsOf n, isDigit b = true := fun _ => isDigit_of_mem_digitsOf
    obtain ⟨stops, same⟩ := isDigit_of_follows follows
    rw [digits, List.takeWhile_append_of_pos all, List.dropWhile_append_of_pos all, stops, same,
      List.append_nil, first]
  have point : fraction rest = .ok ([], rest) := by
    rcases follows with rfl | ⟨b, more, rfl, rfl | rfl | rfl⟩ <;> rfl
  have power : exponent rest = .ok (0, rest) := by
    rcases follows with rfl | ⟨b, more, rfl, rfl | rfl | rfl⟩ <;> rfl
  rw [numeral, whole]
  dsimp only [bind, Except.bind]
  rw [if_neg (not_leads_digitsOf n), point]
  dsimp only
  rw [power]

/-! ## The first byte of a value -/

/-- Nothing is skipped in front of a byte that is no blank. -/
theorem token_of_not_blank {b : UInt8} (visible : isBlank b = false) (rest : Bytes) :
    token (b :: rest) = b :: rest := List.dropWhile_cons_of_neg (by simpa using visible)

/-- A value that is neither a list nor an object, from its first byte on. -/
structure IsScalar (v : Json) (b : UInt8) (more : Bytes) : Prop where
  written : written v = b :: more
  visible : isBlank b = false
  list : b ≠ 91
  object : b ≠ 123
  /-- It is skipped as a whole. -/
  skip : ∀ rest, Follows rest → skipScalar b (more ++ rest) = .ok rest

/-- Nothing begins with the first letter of `null`. -/
theorem scalar_null : IsScalar .null 110 [117, 108, 108] where
  written := written_null
  visible := rfl
  list := by decide
  object := by decide
  skip rest _ := rfl

/-- Truth begins with the first letter of `true`. -/
theorem scalar_true : IsScalar (.bool true) 116 [114, 117, 101] where
  written := written_bool true
  visible := rfl
  list := by decide
  object := by decide
  skip rest _ := rfl

/-- Falsehood begins with the first letter of `false`. -/
theorem scalar_false : IsScalar (.bool false) 102 [97, 108, 115, 101] where
  written := written_bool false
  visible := rfl
  list := by decide
  object := by decide
  skip rest _ := rfl

/-- A string begins with its quote. -/
theorem scalar_text (s : String) : IsScalar (.text s) 34 (content s ++ [34]) where
  written := (List.append_nil _).symm.trans (written_text s [])
  visible := rfl
  list := by decide
  object := by decide
  skip rest _ := by
    rw [skipScalar, if_pos rfl, List.append_assoc]
    exact skipString_content s rest

/-- A digit is none of the other bytes that a value may begin with. -/
theorem of_isDigit {b : UInt8} (digit : isDigit b = true) :
    isBlank b = false ∧ b ≠ 34 ∧ b ≠ 45 ∧ b ≠ 91 ∧ b ≠ 93 ∧ b ≠ 123 := by
  have differs (other : UInt8) (none : isDigit other = false) : b ≠ other := by
    rintro rfl
    rw [digit] at none
    cases none
  refine ⟨?_, differs _ rfl, differs _ rfl, differs _ rfl, differs _ rfl, differs _ rfl⟩
  simp [isBlank, differs 32 rfl, differs 9 rfl, differs 10 rfl, differs 13 rfl]

/-- A number begins with a sign or a digit. -/
theorem exists_scalar_number (n : Int) : ∃ b more, IsScalar (.number n) b more := by
  by_cases negative : n < 0
  · refine ⟨45, digitsOf n.natAbs, ?_, rfl, by decide, by decide, fun rest follows => ?_⟩
    · rw [written_number, if_pos negative]
      rfl
    · rw [skipScalar, if_neg (by decide), if_pos rfl, numeral_digitsOf _ follows]
      rfl
  · obtain ⟨c, more, -, digit, first⟩ := exists_digitsOf n.natAbs
    obtain ⟨visible, quote, minus, list, -, object⟩ := of_isDigit (encode_digit digit).2
    refine ⟨_, more, ?_, visible, list, object, fun rest follows => ?_⟩
    · rw [written_number, if_neg negative, first]
      rfl
    · rw [skipScalar, if_neg quote, if_neg minus, if_pos (encode_digit digit).2, ← List.cons_append,
        ← first, numeral_digitsOf _ follows]
      rfl

/-- What the first byte of a value tells. -/
structure Begins (v : Json) (b : UInt8) : Prop where
  visible : isBlank b = false
  /-- No value begins like the end of a list. -/
  close : b ≠ 93
  text : b = 34 → ∃ s, v = .text s
  list : b = 91 → ∃ vs, v = .list vs
  object : b = 123 → ∃ ms, v = .object ms

/-- **Every value begins with a byte that tells what it is.** -/
theorem exists_begins (v : Json) : ∃ b more, written v = b :: more ∧ Begins v b := by
  cases v with
  | null => exact ⟨_, _, written_null, rfl, by decide, nofun, nofun, nofun⟩
  | bool b =>
    cases b with
    | false => exact ⟨_, _, written_bool false, rfl, by decide, nofun, nofun, nofun⟩
    | true => exact ⟨_, _, written_bool true, rfl, by decide, nofun, nofun, nofun⟩
  | number n =>
    by_cases negative : n < 0
    · refine ⟨45, digitsOf n.natAbs, ?_, rfl, by decide, nofun, nofun, nofun⟩
      rw [written_number, if_pos negative]
      rfl
    · obtain ⟨c, more, -, digit, first⟩ := exists_digitsOf n.natAbs
      obtain ⟨visible, quote, -, list, close, object⟩ := of_isDigit (encode_digit digit).2
      refine ⟨_, more, ?_, visible, close, fun same => absurd same quote,
        fun same => absurd same list, fun same => absurd same object⟩
      rw [written_number, if_neg negative, first]
      rfl
  | text s =>
    exact ⟨_, _, (List.append_nil _).symm.trans (written_text s []), rfl, by decide,
      fun _ => ⟨s, rfl⟩, nofun, nofun⟩
  | list vs =>
    exact ⟨_, _, (List.append_nil _).symm.trans (written_list vs []), rfl, by decide, nofun,
      fun _ => ⟨vs, rfl⟩, nofun⟩
  | object ms =>
    exact ⟨_, _, (List.append_nil _).symm.trans (written_object ms []), rfl, by decide, nofun,
      nofun, fun _ => ⟨ms, rfl⟩⟩

/-- No blanks stand before a value. -/
theorem token_written (v : Json) (rest : Bytes) :
    token (written v ++ rest) = written v ++ rest := by
  obtain ⟨b, more, first, begins⟩ := exists_begins v
  rw [first, List.cons_append, token_of_not_blank begins.visible]

/-- No value is written as nothing. -/
theorem written_ne_nil (v : Json) : written v ≠ [] := by
  obtain ⟨b, more, first, -⟩ := exists_begins v
  rw [first]
  exact List.cons_ne_nil _ _

/-- In front of a value no list ends. -/
theorem written_ne_close (v : Json) (rest more : Bytes) : written v ++ rest ≠ 93 :: more := by
  obtain ⟨b, behind, first, begins⟩ := exists_begins v
  rw [first, List.cons_append]
  exact fun same => begins.close (List.cons.inj same).1

/-! ## Skipping

Every round takes at least one byte. `left` are the rounds that are left. -/

variable {fuel : Nat} {frames : List Frame} {rest : Bytes}

/-- The name of a member is skipped together with its colon. -/
theorem skipName_writtenMember (m : String × Json) (rest : Bytes) :
    skipName (writtenMember m ++ rest) = .ok (written m.2 ++ rest) := by
  have split :
      writtenMember m ++ rest = 34 :: (content m.1 ++ 34 :: 58 :: (written m.2 ++ rest)) := by
    simp [writtenMember]
  rw [split, skipName, token_of_not_blank rfl]
  split
  · rename_i found same
    rw [← (List.cons.inj same).2, skipString_content]
    rfl
  · rename_i other
    exact absurd rfl (other _)

/-- A scalar is skipped in one round. -/
theorem skipWithin_scalar {v : Json} {b : UInt8} {more : Bytes} (scalar : IsScalar v b more)
    (follows : Follows rest) :
    skipWithin (fuel + 1) frames true (written v ++ rest) = skipWithin fuel frames false rest := by
  rw [scalar.written, List.cons_append, skipWithin, token_of_not_blank scalar.visible]
  dsimp only
  rw [if_neg scalar.list, if_neg scalar.object, scalar.skip rest follows]

/-- So is a list without elements. -/
theorem skipWithin_empty_list :
    skipWithin (fuel + 1) frames true (91 :: 93 :: rest) = skipWithin fuel frames false rest := rfl

/-- A bracket opens a list in which a value is expected. -/
theorem skipWithin_list (v : Json) :
    skipWithin (fuel + 1) frames true (91 :: (written v ++ rest)) =
      skipWithin fuel (.list :: frames) true (written v ++ rest) := by
  rw [skipWithin, token_of_not_blank rfl]
  dsimp only
  rw [if_pos rfl, token_written]
  split
  · rename_i same
    exact absurd same (written_ne_close _ _ _)
  · rfl

/-- An object without members is skipped in one round. -/
theorem skipWithin_empty_object :
    skipWithin (fuel + 1) frames true (123 :: 125 :: rest) = skipWithin fuel frames false rest := rfl

/-- A brace opens an object in which the value of the first member is expected. -/
theorem skipWithin_object (m : String × Json) :
    skipWithin (fuel + 1) frames true (123 :: (writtenMember m ++ rest)) =
      skipWithin fuel (.object :: frames) true (written m.2 ++ rest) := by
  have name := skipName_writtenMember m rest
  rw [skipWithin, token_of_not_blank rfl]
  dsimp only
  rw [if_neg (by decide), if_pos rfl]
  rw [writtenMember, List.cons_append] at name ⊢
  rw [token_of_not_blank rfl]
  split
  · rename_i same
    exact absurd (List.cons.inj same).1 (by decide)
  · rw [name]

/-- Behind a comma in a list, a value is expected. -/
theorem skipWithin_comma_list :
    skipWithin (fuel + 1) (.list :: frames) false (44 :: rest) =
      skipWithin fuel (.list :: frames) true rest := rfl

/-- Behind a comma in an object, the value of the next member is expected. -/
theorem skipWithin_comma_object (m : String × Json) :
    skipWithin (fuel + 1) (.object :: frames) false (44 :: (writtenMember m ++ rest)) =
      skipWithin fuel (.object :: frames) true (written m.2 ++ rest) := by
  rw [skipWithin, token_of_not_blank rfl]
  dsimp only
  rw [if_pos rfl, skipName_writtenMember]

/-- A bracket ends the list that it is in. -/
theorem skipWithin_end_list :
    skipWithin (fuel + 1) (.list :: frames) false (93 :: rest) =
      skipWithin fuel frames false rest := rfl

/-- A brace ends the object that it is in. -/
theorem skipWithin_end_object :
    skipWithin (fuel + 1) (.object :: frames) false (125 :: rest) =
      skipWithin fuel frames false rest := rfl

/-- With enough rounds, a value is skipped and enough rounds are left. -/
def Skips (v : Json) : Prop := ∀ fuel frames rest, Follows rest →
  (written v ++ rest).length < fuel → ∃ left, rest.length < left ∧
    skipWithin fuel frames true (written v ++ rest) = skipWithin left frames false rest

/-- A scalar is skipped, and enough rounds are left. -/
theorem IsScalar.skips {v : Json} {b : UInt8} {more : Bytes} (scalar : IsScalar v b more) :
    Skips v := by
  intro fuel frames rest follows enough
  cases fuel with
  | zero => exact absurd enough (Nat.not_lt_zero _)
  | succ fuel =>
    refine ⟨fuel, ?_, skipWithin_scalar scalar follows⟩
    rw [scalar.written, List.length_append, List.length_cons] at enough
    omega

/-- So are the elements of a list behind the first, and the bracket. -/
theorem skips_elements {vs : List Json} (all : ∀ v ∈ vs, Skips v) (frames : List Frame)
    (enough : (behind 93 rest false (vs.map written)).length < fuel) :
    ∃ left, rest.length < left ∧
      skipWithin fuel (.list :: frames) false (behind 93 rest false (vs.map written)) =
        skipWithin left frames false rest := by
  induction vs generalizing fuel with
  | nil =>
    cases fuel with
    | zero => exact absurd enough (Nat.not_lt_zero _)
    | succ fuel => exact ⟨fuel, Nat.lt_of_succ_lt_succ enough, skipWithin_end_list⟩
  | cons v vs ih =>
    obtain ⟨first, others⟩ := List.forall_mem_cons.1 all
    cases fuel with
    | zero => exact absurd enough (Nat.not_lt_zero _)
    | succ fuel =>
      obtain ⟨inner, more, skipped⟩ := first fuel (.list :: frames) _
        (follows_behind (.inl rfl) rest (vs.map written)) (Nat.lt_of_succ_lt_succ enough)
      obtain ⟨left, most, all⟩ := ih others more
      exact ⟨left, most, skipWithin_comma_list.trans (skipped.trans all)⟩

/-- The value of a member is shorter than the member. -/
theorem written_lt_of_member {m : String × Json} {n : Nat}
    (enough : (writtenMember m ++ rest).length < n) : (written m.2 ++ rest).length < n := by
  refine Nat.lt_of_le_of_lt ?_ enough
  simp only [List.length_append, writtenMember, List.length_cons]
  omega

/-- The members of an object behind the first are skipped, and the brace. -/
theorem skips_members {ms : List (String × Json)} (all : ∀ m ∈ ms, Skips m.2)
    (frames : List Frame)
    (enough : (behind 125 rest false (ms.map writtenMember)).length < fuel) :
    ∃ left, rest.length < left ∧
      skipWithin fuel (.object :: frames) false (behind 125 rest false (ms.map writtenMember)) =
        skipWithin left frames false rest := by
  induction ms generalizing fuel with
  | nil =>
    cases fuel with
    | zero => exact absurd enough (Nat.not_lt_zero _)
    | succ fuel => exact ⟨fuel, Nat.lt_of_succ_lt_succ enough, skipWithin_end_object⟩
  | cons m ms ih =>
    obtain ⟨first, others⟩ := List.forall_mem_cons.1 all
    cases fuel with
    | zero => exact absurd enough (Nat.not_lt_zero _)
    | succ fuel =>
      obtain ⟨inner, more, skipped⟩ := first fuel (.object :: frames) _
        (follows_behind (.inr rfl) rest (ms.map writtenMember))
        (written_lt_of_member (Nat.lt_of_succ_lt_succ enough))
      obtain ⟨left, most, all⟩ := ih others more
      exact ⟨left, most, (skipWithin_comma_object m).trans (skipped.trans all)⟩

/-- **Every value is skipped, however deep it goes.** -/
theorem skips (v : Json) : Skips v := by
  induction v using Json.induct with
  | null => exact scalar_null.skips
  | bool b =>
    cases b with
    | false => exact scalar_false.skips
    | true => exact scalar_true.skips
  | number n =>
    obtain ⟨b, more, scalar⟩ := exists_scalar_number n
    exact scalar.skips
  | text s => exact (scalar_text s).skips
  | list vs all =>
    intro fuel frames rest follows enough
    rw [written_list] at enough ⊢
    cases fuel with
    | zero => exact absurd enough (Nat.not_lt_zero _)
    | succ fuel =>
      have enough := Nat.lt_of_succ_lt_succ enough
      cases vs with
      | nil => exact ⟨fuel, Nat.lt_of_succ_lt enough, skipWithin_empty_list⟩
      | cons v vs =>
        obtain ⟨first, others⟩ := List.forall_mem_cons.1 all
        obtain ⟨inner, more, skipped⟩ := first fuel (.list :: frames) _
          (follows_behind (.inl rfl) rest (vs.map written)) enough
        obtain ⟨left, most, all⟩ := skips_elements others frames more
        exact ⟨left, most, (skipWithin_list v).trans (skipped.trans all)⟩
  | object ms all =>
    intro fuel frames rest follows enough
    rw [written_object] at enough ⊢
    cases fuel with
    | zero => exact absurd enough (Nat.not_lt_zero _)
    | succ fuel =>
      have enough := Nat.lt_of_succ_lt_succ enough
      cases ms with
      | nil => exact ⟨fuel, Nat.lt_of_succ_lt enough, skipWithin_empty_object⟩
      | cons m ms =>
        obtain ⟨first, others⟩ := List.forall_mem_cons.1 all
        obtain ⟨inner, more, skipped⟩ := first fuel (.object :: frames) _
          (follows_behind (.inr rfl) rest (ms.map writtenMember)) (written_lt_of_member enough)
        obtain ⟨left, most, all⟩ := skips_members others frames more
        exact ⟨left, most, (skipWithin_object m).trans (skipped.trans all)⟩

/-- **A value is skipped as a whole**, whatever may follow it. -/
theorem skip_written (v : Json) {rest : Bytes} (follows : Follows rest) :
    skip (written v ++ rest) = .ok rest := by
  obtain ⟨left, more, skipped⟩ := skips v _ [] rest follows (Nat.lt_add_of_pos_right Nat.two_pos)
  cases left with
  | zero => exact absurd more (Nat.not_lt_zero _)
  | succ left => exact skipped.trans rfl

end Reader

end Json
end HomeMedia
