import HomeMedia.Text.Utf8
import Mathlib.Data.List.Basic
/-!
# A text is read back from its bytes

The lead byte of a character and the range of the byte behind it are just so narrow that no two
characters have the same bytes and that no bytes stand for a number without a character. So the
bytes of a character are read as that character, whatever follows (`exists_first`), and those of a
text as that text (`decode?_encode`). The other way round, bytes that are read as a character are
its bytes (`encode_of_first`), so what spells a text is the bytes of that text and nothing else
(`decode?_eq_some_iff`).
-/

namespace HomeMedia
namespace Text
namespace Utf8

/-! ## One character -/

/-- A byte that continues a character adds its six bits. -/
theorem tails_succ {bits low high more value : Nat} (rest : Bytes) (small : value < 64)
    (least : low ≤ value + 0x80) (most : value + 0x80 ≤ high) :
    tails bits low high (more + 1) (UInt8.ofNat (value + 0x80) :: rest) =
      tails (bits * 64 + value) 0x80 0xBF more rest := by
  have byte : (UInt8.ofNat (value + 0x80)).toNat = value + 0x80 :=
    UInt8.toNat_ofNat_of_lt' (show value + 0x80 < 256 by omega)
  rw [tails, byte, if_pos ⟨least, most⟩, Nat.add_sub_cancel]

/-- A character is read from a lead byte and the bytes that it announces. -/
theorem first_of_lead {byte : Nat} {l : Lead} {rest after : Bytes} {c : Char} (small : byte < 256)
    (announced : lead byte = some l)
    (continued : tails l.bits l.low l.high l.more rest = (some c.val.toNat, after)) :
    first (UInt8.ofNat byte) rest = (some c, after) := by
  rw [first, UInt8.toNat_ofNat_of_lt' small, announced]
  dsimp only
  rw [continued]
  exact congrArg (·, after) (congrArg some (Char.ofNat_toNat c))

/-- What the lead byte of a character of two bytes announces. -/
theorem lead_of_two {value : Nat} (least : 0x7F < value) (most : value ≤ 0x7FF) :
    lead (value / 64 % 0x20 + 0xC0) = some ⟨value / 64, 0x80, 0xBF, 1⟩ := by
  have bits : value / 64 % 0x20 + 0xC0 - 0xC0 = value / 64 := by omega
  rw [lead, if_neg (by omega), if_neg (by omega), if_pos (by omega), bits]

/-- What the lead byte of a character of three bytes announces. -/
theorem lead_of_three {value : Nat} (least : 0x7FF < value) (most : value ≤ 0xFFFF)
    (valid : value < 0xD800 ∨ 0xDFFF < value) :
    ∃ low high, lead (value / 4096 % 0x10 + 0xE0) = some ⟨value / 4096, low, high, 2⟩ ∧
      low ≤ value / 64 % 0x40 + 0x80 ∧ value / 64 % 0x40 + 0x80 ≤ high := by
  have lead_eq : value / 4096 % 0x10 = value / 4096 := by omega
  rw [lead_eq]
  generalize small : value / 4096 = n
  have : n ≤ 15 := by omega
  by_cases zero : n = 0
  · subst zero
    exact ⟨0xA0, 0xBF, rfl, by omega, by omega⟩
  by_cases thirteen : n = 13
  · subst thirteen
    exact ⟨0x80, 0x9F, rfl, by omega, by omega⟩
  refine ⟨0x80, 0xBF, ?_, by omega, by omega⟩
  rw [lead, if_neg (by omega), if_neg (by omega), if_neg (by omega), if_neg (by omega),
    if_neg (by omega), if_pos (by omega), Nat.add_sub_cancel]

/-- What the lead byte of a character of four bytes announces. -/
theorem lead_of_four {value : Nat} (least : 0xFFFF < value) (most : value < 0x110000) :
    ∃ low high, lead (value / 262144 % 0x08 + 0xF0) = some ⟨value / 262144, low, high, 3⟩ ∧
      low ≤ value / 4096 % 0x40 + 0x80 ∧ value / 4096 % 0x40 + 0x80 ≤ high := by
  have lead_eq : value / 262144 % 0x08 = value / 262144 := by omega
  rw [lead_eq]
  generalize small : value / 262144 = n
  have : n ≤ 4 := by omega
  by_cases zero : n = 0
  · subst zero
    exact ⟨0x90, 0xBF, rfl, by omega, by omega⟩
  by_cases four : n = 4
  · subst four
    exact ⟨0x80, 0x8F, rfl, by omega, by omega⟩
  refine ⟨0x80, 0xBF, ?_, by omega, by omega⟩
  rw [lead, if_neg (by omega), if_neg (by omega), if_neg (by omega), if_neg (by omega),
    if_neg (by omega), if_neg (by omega), if_neg (by omega), if_pos (by omega),
    Nat.add_sub_cancel]

/-- **The bytes of a character are read as that character**, whatever follows. -/
theorem exists_first (c : Char) : ∃ b more, String.utf8EncodeChar c = b :: more ∧
    ∀ rest, first b (more ++ rest) = (some c, rest) := by
  have valid : c.val.toNat < 0xD800 ∨ 0xDFFF < c.val.toNat ∧ c.val.toNat < 0x110000 := c.valid
  simp only [String.utf8EncodeChar]
  by_cases one : c.val.toNat ≤ 0x7F
  · rw [if_pos one]
    exact ⟨_, _, rfl, fun rest => first_of_lead (by omega) (if_pos (by omega)) rfl⟩
  rw [if_neg one]
  by_cases two : c.val.toNat ≤ 0x7FF
  · rw [if_pos two]
    refine ⟨_, _, rfl, fun rest => first_of_lead (by omega) (lead_of_two (by omega) two) ?_⟩
    dsimp only [List.cons_append]
    rw [tails_succ _ (by omega) (by omega) (by omega), List.nil_append, tails]
    exact congrArg (·, rest) (congrArg some (by omega))
  rw [if_neg two]
  by_cases three : c.val.toNat ≤ 0xFFFF
  · rw [if_pos three]
    obtain ⟨low, high, announced, least, most⟩ := lead_of_three (by omega) three (by omega)
    refine ⟨_, _, rfl, fun rest => first_of_lead (by omega) announced ?_⟩
    dsimp only [List.cons_append]
    rw [tails_succ _ (by omega) least most, tails_succ _ (by omega) (by omega) (by omega),
      List.nil_append, tails]
    exact congrArg (·, rest) (congrArg some (by omega))
  · rw [if_neg three]
    obtain ⟨low, high, announced, least, most⟩ :=
      lead_of_four (Nat.lt_of_not_le three) (show c.val.toNat < 0x110000 by omega)
    refine ⟨_, _, rfl, fun rest => first_of_lead (by omega) announced ?_⟩
    dsimp only [List.cons_append]
    rw [tails_succ _ (by omega) least most, tails_succ _ (by omega) (by omega) (by omega),
      tails_succ _ (by omega) (by omega) (by omega), List.nil_append, tails]
    exact congrArg (·, rest) (congrArg some (by omega))

/-! ## Texts -/

/-- Bytes in which no place is marked are the text of their characters. -/
theorem decode?_of_read {bytes : Bytes} {cs : List Char} (places : read bytes = cs.map some) :
    decode? bytes = some cs := by
  rw [decode?, places]
  clear places
  induction cs with
  | nil => rfl
  | cons c cs ih => rw [List.map_cons, List.foldr_cons, ih]

/-- The characters of a text are read back one by one, given a round for each byte. -/
theorem readUpTo_encode {fuel : Nat} {cs : List Char} (enough : (encode cs).length ≤ fuel) :
    readUpTo fuel (encode cs) = cs.map some := by
  induction cs generalizing fuel with
  | nil => cases fuel <;> rfl
  | cons c cs ih =>
    obtain ⟨b, more, bytes, read⟩ := exists_first c
    have split : encode (c :: cs) = b :: (more ++ encode cs) := by
      rw [encode, List.flatMap_cons, bytes]
      rfl
    rw [split] at enough ⊢
    cases fuel with
    | zero => exact absurd enough (Nat.not_succ_le_zero _)
    | succ fuel =>
      rw [readUpTo, read]
      dsimp only
      rw [ih, List.map_cons]
      rw [List.length_cons, List.length_append] at enough
      omega

/-- **A text is read back from its bytes.** -/
theorem decode?_encode (cs : List Char) : decode? (encode cs) = some cs :=
  decode?_of_read (readUpTo_encode (Nat.le_refl _))

/-- Its bytes are read as the text. -/
theorem toString?_encode (cs : List Char) : toString? (encode cs) = some (String.ofList cs) :=
  congrArg (Option.map String.ofList) (decode?_encode cs)

/-- Texts are encoded one behind the other. -/
theorem encode_append (cs more : List Char) : encode (cs ++ more) = encode cs ++ encode more :=
  List.flatMap_append

/-- So are strings. -/
theorem ofString_append (s t : String) : ofString (s ++ t) = ofString s ++ ofString t := by
  rw [ofString, String.toList_append, encode_append]
  rfl

/-! ## Only characters -/

/-- What a byte says of the character that it leads. The bounds of the second byte are such that no
shorter row of bytes and no number without a character is meant. -/
inductive Leads (byte : Nat) : Lead → Prop where
  /-- Nothing follows. -/
  | one (most : byte ≤ 0x7F) : Leads byte ⟨byte, 0, 0, 0⟩
  /-- One byte follows. -/
  | two (bits : Nat) (same : byte = bits + 0xC0) (least : 2 ≤ bits) (most : bits ≤ 0x1F) :
    Leads byte ⟨bits, 0x80, 0xBF, 1⟩
  /-- Two bytes follow. -/
  | three (bits low high : Nat) (same : byte = bits + 0xE0) (most : bits ≤ 0xF)
    (least : 0x80 ≤ low) (greatest : high ≤ 0xBF) (long : bits = 0 → 0xA0 ≤ low)
    (valid : bits = 0xD → high ≤ 0x9F) : Leads byte ⟨bits, low, high, 2⟩
  /-- Three bytes follow. -/
  | four (bits low high : Nat) (same : byte = bits + 0xF0) (most : bits ≤ 4)
    (least : 0x80 ≤ low) (greatest : high ≤ 0xBF) (long : bits = 0 → 0x90 ≤ low)
    (valid : bits = 4 → high ≤ 0x8F) : Leads byte ⟨bits, low, high, 3⟩

/-- A byte that announces some more has one of the forms of a leading byte. -/
theorem leads_of_lead {byte : Nat} {l : Lead} (announced : lead byte = some l) : Leads byte l := by
  unfold lead at announced
  split_ifs at announced <;> obtain rfl := Option.some.inj announced
  · exact .one (by omega)
  · exact .two _ (by omega) (by omega) (by omega)
  · exact .three 0 _ _ (by omega) (by omega) (by omega) (by omega) (by omega) (by omega)
  · exact .three 0xD _ _ (by omega) (by omega) (by omega) (by omega) (by omega) (by omega)
  · exact .three _ _ _ (by omega) (by omega) (by omega) (by omega) (by omega) (by omega)
  · exact .four 0 _ _ (by omega) (by omega) (by omega) (by omega) (by omega) (by omega)
  · exact .four _ _ _ (by omega) (by omega) (by omega) (by omega) (by omega) (by omega)
  · exact .four 4 _ _ (by omega) (by omega) (by omega) (by omega) (by omega) (by omega)

/-- A byte that continues a character adds six bits. -/
theorem exists_of_tails_succ {bits low high more value : Nat} {rest after : Bytes}
    (least : 0x80 ≤ low) (greatest : high ≤ 0xBF)
    (read : tails bits low high (more + 1) rest = (some value, after)) :
    ∃ six rest', six < 64 ∧ low ≤ six + 0x80 ∧ six + 0x80 ≤ high ∧
      rest = UInt8.ofNat (six + 0x80) :: rest' ∧
      tails (bits * 64 + six) 0x80 0xBF more rest' = (some value, after) := by
  cases rest with
  | nil => cases read
  | cons b rest =>
    rw [tails] at read
    split at read
    · rename_i within
      refine ⟨b.toNat - 0x80, rest, by omega, by omega, by omega, ?_, read⟩
      rw [Nat.sub_add_cancel (by omega), UInt8.ofNat_toNat]
    · cases read

/-- If no more bytes are to come, nothing is taken off. -/
theorem eq_of_tails_zero {bits low high value : Nat} {rest after : Bytes}
    (read : tails bits low high 0 rest = (some value, after)) : value = bits ∧ rest = after := by
  cases read
  exact ⟨rfl, rfl⟩

/-- **Bytes that are read as a number are the bytes of its character.** -/
theorem Leads.encode {byte n : Nat} {l : Lead} {rest after : Bytes} (leads : Leads byte l)
    (read : tails l.bits l.low l.high l.more rest = (some n, after)) :
    n.isValidChar ∧ ∀ c : Char, c.val.toNat = n →
      ∃ more, String.utf8EncodeChar c = UInt8.ofNat byte :: more ∧ rest = more ++ after := by
  cases leads with
  | one most =>
    obtain ⟨rfl, rfl⟩ := eq_of_tails_zero read
    refine ⟨.inl (Nat.lt_of_le_of_lt most (by decide)), fun c number => ?_⟩
    simp only [String.utf8EncodeChar, number]
    rw [if_pos most]
    exact ⟨[], rfl, rfl⟩
  | two bits same least most =>
    dsimp only at read
    obtain ⟨six, rest, small, -, -, rfl, tail⟩ :=
      exists_of_tails_succ (Nat.le_refl 0x80) (Nat.le_refl 0xBF) read
    obtain ⟨rfl, rfl⟩ := eq_of_tails_zero tail
    refine ⟨.inl (by omega), fun c number => ?_⟩
    have first : (bits * 64 + six) / 64 % 0x20 + 0xC0 = byte := by omega
    have second : (bits * 64 + six) % 0x40 = six := by omega
    simp only [String.utf8EncodeChar, number]
    rw [if_neg (by omega), if_pos (by omega), first, second]
    exact ⟨_, rfl, rfl⟩
  | three bits low high same most least greatest long valid =>
    obtain ⟨six, rest, small, above, below, rfl, tail⟩ := exists_of_tails_succ least greatest read
    obtain ⟨last, rest, few, -, -, rfl, done⟩ :=
      exists_of_tails_succ (Nat.le_refl 0x80) (Nat.le_refl 0xBF) tail
    obtain ⟨rfl, rfl⟩ := eq_of_tails_zero done
    generalize value : (bits * 64 + six) * 64 + last = n
    have number_valid : n.isValidChar := by
      unfold Nat.isValidChar
      omega
    refine ⟨number_valid, fun c number => ?_⟩
    have first : n / 4096 % 0x10 + 0xE0 = byte := by omega
    have second : n / 64 % 0x40 = six := by omega
    have third : n % 0x40 = last := by omega
    simp only [String.utf8EncodeChar, number]
    rw [if_neg (by omega), if_neg (by omega), if_pos (by omega), first, second, third]
    exact ⟨_, rfl, rfl⟩
  | four bits low high same most least greatest long valid =>
    obtain ⟨six, rest, small, above, below, rfl, tail⟩ := exists_of_tails_succ least greatest read
    obtain ⟨next, rest, few, -, -, rfl, more⟩ :=
      exists_of_tails_succ (Nat.le_refl 0x80) (Nat.le_refl 0xBF) tail
    obtain ⟨last, rest, less, -, -, rfl, done⟩ :=
      exists_of_tails_succ (Nat.le_refl 0x80) (Nat.le_refl 0xBF) more
    obtain ⟨rfl, rfl⟩ := eq_of_tails_zero done
    generalize value : ((bits * 64 + six) * 64 + next) * 64 + last = n
    have number_valid : n.isValidChar := by
      unfold Nat.isValidChar
      omega
    refine ⟨number_valid, fun c number => ?_⟩
    have first : n / 262144 % 0x08 + 0xF0 = byte := by omega
    have second : n / 4096 % 0x40 = six := by omega
    have third : n / 64 % 0x40 = next := by omega
    have fourth : n % 0x40 = last := by omega
    simp only [String.utf8EncodeChar, number]
    rw [if_neg (by omega), if_neg (by omega), if_neg (by omega), first, second, third, fourth]
    exact ⟨_, rfl, rfl⟩

/-- **Bytes that are read as a character are its bytes.** -/
theorem encode_of_first {b : UInt8} {rest after : Bytes} {c : Char}
    (read : first b rest = (some c, after)) :
    ∃ more, String.utf8EncodeChar c = b :: more ∧ rest = more ++ after := by
  unfold first at read
  split at read
  · cases read
  rename_i l announced
  cases tail : tails l.bits l.low l.high l.more rest with
  | mk value left =>
    rw [tail] at read
    obtain ⟨shown, rfl⟩ := Prod.mk.inj read
    obtain ⟨n, rfl, rfl⟩ := Option.map_eq_some_iff.1 shown
    obtain ⟨valid, encoded⟩ := (leads_of_lead announced).encode tail
    have number : (Char.ofNat n).val.toNat = n := by
      rw [Char.ofNat, dif_pos valid]
      rfl
    have bytes := encoded (Char.ofNat n) number
    rwa [UInt8.ofNat_toNat] at bytes

/-! ## Only texts -/

/-- Bytes that are read as characters throughout are the encoding of these. -/
theorem encode_of_readUpTo {fuel : Nat} {bytes : Bytes} {cs : List Char}
    (enough : bytes.length ≤ fuel) (read : readUpTo fuel bytes = cs.map some) :
    encode cs = bytes := by
  induction fuel generalizing bytes cs with
  | zero =>
    rw [List.length_eq_zero_iff.1 (Nat.le_zero.1 enough)]
    cases cs with
    | nil => rfl
    | cons c cs => cases read
  | succ fuel ih =>
    cases bytes with
    | nil =>
      cases cs with
      | nil => rfl
      | cons c cs => cases read
    | cons b rest =>
      rw [readUpTo] at read
      cases place : first b rest with
      | mk shown after =>
      rw [place] at read
      dsimp only at read
      cases cs with
      | nil => cases read
      | cons c cs =>
        obtain ⟨rfl, more⟩ := List.cons.inj read
        obtain ⟨tail, bytes, rfl⟩ := encode_of_first place
        rw [List.length_cons, List.length_append] at enough
        have rest := ih (by omega) more
        rw [encode, List.flatMap_cons, bytes, ← encode, rest]
        rfl

/-- If bytes are a text, no round of reading them finds a fault. -/
theorem read_of_decode? {bytes : Bytes} {cs : List Char} (text : decode? bytes = some cs) :
    read bytes = cs.map some := by
  unfold decode? at text
  generalize read bytes = places at text ⊢
  induction places generalizing cs with
  | nil =>
    cases text
    rfl
  | cons place places ih =>
    rw [List.foldr_cons] at text
    split at text
    · rename_i c more shown
      obtain rfl := Option.some.inj text
      rw [ih shown]
      rfl
    · cases text

/-- **Bytes spell a text if they are its bytes**, and only then. -/
theorem decode?_eq_some_iff {bytes : Bytes} {cs : List Char} :
    decode? bytes = some cs ↔ bytes = encode cs := by
  constructor
  · intro text
    exact (encode_of_readUpTo (Nat.le_refl _) (read_of_decode? text)).symm
  · rintro rfl
    exact decode?_encode cs

end Utf8
end Text
end HomeMedia
