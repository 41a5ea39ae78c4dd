import HomeMedia.Media
import HomeMedia.Proofs.Path
import HomeMedia.Proofs.Text.Lower
import HomeMedia.Proofs.Text.Utf8
import Mathlib
/-!
# Which paths lead to media files

A path leads to a media file if the name it leads to has something before its last dot and an
extension of the list behind it, in small letters or capitals. The extension has to be text, and of
all characters beyond ASCII only the Kelvin sign can stand in it: for the k of `mkv`, the only k in
the list. Nothing else of the path matters, not even whether it is text (`media_by_extension`).
-/

namespace HomeMedia
namespace Media

open Text (Bytes kelvinSign)

/-- A text that stands for an extension of the list: the extension in small letters or capitals, or
`mkv` with a Kelvin sign. -/
inductive IsSupported : List Char → Prop where
  /-- It differs from an extension in the case of letters at most. -/
  | listed (text : List Char) (word : String) (known : word ∈ extensions)
    (same : text.map Char.toLower = word.toList) : IsSupported text
  /-- The k is a Kelvin sign. -/
  | kelvin (m v : Char) (first : m.toLower = 'm') (last : v.toLower = 'v') :
    IsSupported [m, kelvinSign, v]

/-- The extensions are ASCII, and there is one k in them. -/
theorem letters_of_mem {word : String} (known : word ∈ extensions) :
    (∀ letter ∈ word.toList, letter.toNat < 0x80) ∧ ('k' ∈ word.toList → word = "mkv") := by
  have all : extensions.all (fun word => word.toList.all (fun letter => letter.toNat < 0x80) &&
      (!word.toList.contains 'k' || word == "mkv")) = true := by
    decide
  have one := List.all_eq_true.1 all word known
  rw [Bool.and_eq_true, List.all_eq_true, Bool.or_eq_true, Bool.not_eq_true'] at one
  refine ⟨fun letter mem => of_decide_eq_true (one.1 letter mem), fun mem => ?_⟩
  refine beq_iff_eq.1 (one.2.resolve_left fun none => ?_)
  cases none.symm.trans (List.contains_iff_mem.2 mem)

/-- What spells a word without a k is the word in small letters or capitals. -/
theorem map_toLower_of_spells {text word : List Char} (spells : List.Forall₂ Text.Spells text word)
    (none : 'k' ∉ word) : text.map Char.toLower = word := by
  induction spells with
  | nil => rfl
  | cons spells _ ih =>
    obtain ⟨other, more⟩ := not_or.1 fun mem => none (List.mem_cons.2 mem)
    rw [List.map_cons, ih more, spells.resolve_right fun kelvin => other kelvin.2.symm]

/-- What spells `mkv` is those letters in small letters or capitals, or has a Kelvin sign. -/
theorem isSupported_of_spells_mkv {text : List Char}
    (spells : List.Forall₂ Text.Spells text ['m', 'k', 'v']) : IsSupported text := by
  obtain ⟨m, _, first, two, rfl⟩ := List.forall₂_cons_right_iff.1 spells
  obtain ⟨k, _, second, one, rfl⟩ := List.forall₂_cons_right_iff.1 two
  obtain ⟨v, _, third, nothing, rfl⟩ := List.forall₂_cons_right_iff.1 one
  obtain rfl := List.forall₂_nil_right_iff.1 nothing
  have m_eq := first.resolve_right fun kelvin => absurd kelvin.2 (by decide)
  have v_eq := third.resolve_right fun kelvin => absurd kelvin.2 (by decide)
  rcases second with k_eq | ⟨rfl, -⟩
  · refine .listed _ "mkv" (by decide) ?_
    rw [List.map_cons, List.map_cons, List.map_singleton, m_eq, k_eq, v_eq]
    rfl
  · exact .kelvin m v m_eq v_eq

/-- **Whose lower-case form is an extension of the list.** -/
theorem isSupported_iff {text : List Char} : IsSupported text ↔
    ∃ word ∈ extensions, text.flatMap Text.lowerChar = word.toList := by
  have spelled {word : String} (known : word ∈ extensions) :
      text.flatMap Text.lowerChar = word.toList ↔ List.Forall₂ Text.Spells text word.toList :=
    Text.flatMap_lowerChar_eq_iff (letters_of_mem known).1
  constructor
  · intro supported
    cases supported with
    | listed _ word known same =>
      refine ⟨word, known, (spelled known).2 ?_⟩
      rw [← same, List.forall₂_map_right_iff]
      exact List.forall₂_same.2 fun c _ => .inl rfl
    | kelvin m v first last =>
      have known : "mkv" ∈ extensions := by decide
      refine ⟨"mkv", known, (spelled known).2 ?_⟩
      exact .cons (.inl first) (.cons (.inr ⟨rfl, rfl⟩) (.cons (.inl last) .nil))
  · rintro ⟨word, known, same⟩
    have spells := (spelled known).1 same
    by_cases mem : 'k' ∈ word.toList
    · obtain rfl := (letters_of_mem known).2 mem
      exact isSupported_of_spells_mkv spells
    · exact .listed text word known (map_toLower_of_spells spells mem)

/-- A path has an extension if it leads to a name with a dot in it that is not the first character;
it is what stands behind the last dot. -/
theorem extension?_eq_some_iff {p : Path} {ending : Bytes} : p.extension? = some ending ↔
    ∃ stem, p.LeadsTo (stem ++ Path.dot :: ending) ∧ stem ≠ [] ∧ Path.dot ∉ ending := by
  unfold Path.extension?
  rw [Option.bind_eq_some_iff]
  constructor
  · rintro ⟨file, name, found⟩
    obtain ⟨stem, rfl, some, last⟩ := Path.extensionOf_eq_some_iff.1 found
    exact ⟨stem, Path.fileName?_eq_some_iff.1 name, some, last⟩
  · rintro ⟨stem, leads, some, last⟩
    exact ⟨_, Path.fileName?_eq_some_iff.2 leads,
      Path.extensionOf_eq_some_iff.2 ⟨stem, rfl, some, last⟩⟩

/-- A path leads to a media file if its extension is the bytes of an extension of the list. -/
theorem isMedia_eq_true_iff {p : Path} : isMedia p = true ↔
    ∃ text, p.extension? = some (Text.Utf8.encode text) ∧ IsSupported text := by
  have spelled (text : List Char) : extensions.contains (Text.lower (String.ofList text)) = true ↔
      IsSupported text := by
    rw [List.contains_iff_mem, isSupported_iff, Text.lower, String.toList_ofList]
    constructor
    · intro known
      exact ⟨_, known, String.toList_ofList.symm⟩
    · rintro ⟨word, known, same⟩
      rwa [same, String.ofList_toList]
  unfold isMedia
  cases p.extension? with
  | none => exact iff_of_false nofun nofun
  | some ending =>
    rw [Option.bind_some, Text.Utf8.toString?]
    cases decoded : Text.Utf8.decode? ending with
    | none =>
      refine iff_of_false nofun ?_
      rintro ⟨text, same, -⟩
      rw [Option.some.inj same, Text.Utf8.decode?_encode] at decoded
      cases decoded
    | some text =>
      obtain rfl := Text.Utf8.decode?_eq_some_iff.1 decoded
      refine (spelled text).trans ⟨fun supported => ⟨text, rfl, supported⟩, ?_⟩
      rintro ⟨other, same, supported⟩
      rw [Option.some.inj same, Text.Utf8.decode?_encode] at decoded
      rwa [← Option.some.inj decoded]

/-- **The extension decides.** A path leads to a media file if and only if the name it leads to has
something before its last dot, and behind it the bytes of a text that stands for an extension of the
list. So paths whose names agree behind their last dots, with something before these, both lead to
media files or both do not, whatever else they are. -/
theorem media_by_extension :
    (∀ p : Path, isMedia p = true ↔ ∃ stem text,
      p.LeadsTo (stem ++ Path.dot :: Text.Utf8.encode text) ∧ stem ≠ [] ∧
        Path.dot ∉ Text.Utf8.encode text ∧ IsSupported text) ∧
    ∀ (p q : Path) (stem other ending : Bytes), stem ≠ [] → other ≠ [] → Path.dot ∉ ending →
      p.LeadsTo (stem ++ Path.dot :: ending) → q.LeadsTo (other ++ Path.dot :: ending) →
      isMedia p = isMedia q := by
  refine ⟨fun p => ?_, fun p q stem other ending some more last leads alike => ?_⟩
  · rw [isMedia_eq_true_iff]
    constructor
    · rintro ⟨text, found, supported⟩
      obtain ⟨stem, leads, some, last⟩ := extension?_eq_some_iff.1 found
      exact ⟨stem, text, leads, some, last, supported⟩
    · rintro ⟨stem, text, leads, some, last, supported⟩
      exact ⟨text, extension?_eq_some_iff.2 ⟨stem, leads, some, last⟩, supported⟩
  · have first := extension?_eq_some_iff.2 ⟨stem, leads, some, last⟩
    have second := extension?_eq_some_iff.2 ⟨other, alike, more, last⟩
    unfold isMedia
    rw [first, second]

/-- With a Kelvin sign in its extension, a name that is no text behind a dot between slashes, with
another dot and slashes behind it, is that of a media file, and so is a name of dots only before the
same extension. -/
theorem media_by_extension_kelvin :
    let ending := Text.Utf8.encode ['M', kelvinSign, 'v']
    let p : Path := ⟨[47, 46, 47, 255, Path.dot] ++ ending ++ [47, 46, 47]⟩
    let q : Path := ⟨[Path.dot, Path.dot] ++ ending⟩
    p.LeadsTo ([255] ++ Path.dot :: ending) ∧ q.LeadsTo ([Path.dot] ++ Path.dot :: ending) ∧
      isMedia p = true ∧ isMedia q = isMedia p := by
  intro ending p q
  have leads : p.LeadsTo ([255] ++ Path.dot :: ending) := Path.fileName?_eq_some_iff.1 (by decide)
  have alike : q.LeadsTo ([Path.dot] ++ Path.dot :: ending) :=
    Path.fileName?_eq_some_iff.1 (by decide)
  have last : Path.dot ∉ ending := by decide
  refine ⟨leads, alike, ?_, ?_⟩
  · exact (media_by_extension.1 p).2
      ⟨[255], ['M', kelvinSign, 'v'], leads, by decide, last, .kelvin 'M' 'v' rfl rfl⟩
  · exact media_by_extension.2 q p [Path.dot] [255] ending (by decide) (by decide) last alike leads

end Media
end HomeMedia
