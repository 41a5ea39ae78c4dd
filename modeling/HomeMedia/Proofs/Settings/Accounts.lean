import HomeMedia.Proofs.Text.Pieces
import HomeMedia.Settings.Accounts
import Mathlib.Data.List.Nodup
/-!
# Which account lists are accepted, and what is read from them

An account list falls into pieces between commas. A piece is *faulty* if it is not blank and names
no user: it has no colon, or only blanks before its first one. A list is refused for its first
faulty piece, and a list without one gives each user the password of the last piece that names him
(`accounts_of_pieces`).

Every table of accounts can be written down, as long as no user or password needs a comma, no user a
colon, and no blank has to be kept where blanks do not count. However the pairs are ordered, and
whatever blanks stand around and between them, the table is read again (`exists_read_written`).
-/

namespace HomeMedia
namespace Settings
namespace Accounts

/-! ## Tables of accounts -/

/-- No user has two passwords. -/
def Unique (a : Accounts) : Prop := (a.entries.map Prod.fst).Nodup

/-- The accounts with some more, one after the other. -/
def insertAll (a : Accounts) (more : List (String × String)) : Accounts :=
  more.foldl (fun a account => a.insert account.1 account.2) a

/-- One more account leaves each user with one password. -/
theorem Unique.insert {a : Accounts} (unique : a.Unique) (user password : String) :
    (a.insert user password).Unique := by
  unfold Unique Accounts.insert
  rw [List.map_append, List.nodup_append]
  refine ⟨unique.sublist (List.filter_sublist.map _), List.nodup_singleton _, ?_⟩
  rintro other mem _ new rfl
  obtain ⟨entry, kept, rfl⟩ := List.mem_map.1 mem
  have differs := (List.mem_filter.1 kept).2
  rw [List.map_singleton, List.mem_singleton] at new
  simp [new] at differs

/-- So do several more. -/
theorem Unique.insertAll {a : Accounts} (unique : a.Unique) (more : List (String × String)) :
    (a.insertAll more).Unique := by
  induction more generalizing a with
  | nil => exact unique
  | cons first more ih => exact ih (unique.insert first.1 first.2)

/-- In a table a user has a password if the two stand in it. -/
theorem Unique.get?_eq_some_iff {a : Accounts} (unique : a.Unique) {user password : String} :
    a.get? user = some password ↔ (user, password) ∈ a.entries := by
  rw [get?, List.lookup_eq_some_iff]
  constructor
  · rintro ⟨before, after, same, -⟩
    rw [same]
    exact List.mem_append_right _ (List.mem_cons_self ..)
  · intro mem
    obtain ⟨before, after, same⟩ := List.append_of_mem mem
    refine ⟨before, after, same, fun entry early => bne_iff_ne.2 ?_⟩
    unfold Unique at unique
    rw [same, List.map_append, List.nodup_append] at unique
    exact (unique.2.2 _ (List.mem_map_of_mem early) _ (List.mem_cons_self ..)).symm

/-- Leaving out a user does not matter to the others. -/
theorem lookup_filter_of_ne {user other : String} (differ : other ≠ user)
    (entries : List (String × String)) :
    (entries.filter fun entry => entry.1 != user).lookup other = entries.lookup other := by
  induction entries with
  | nil => rfl
  | cons entry more ih =>
    rw [List.filter_cons]
    split
    · rw [List.lookup_cons, List.lookup_cons, ih]
    · rename_i own
      have own : entry.1 = user := by simpa using own
      rw [ih, List.lookup_cons, own, beq_eq_false_iff_ne.2 differ]

/-- The later password counts. -/
theorem get?_insert (a : Accounts) (user password other : String) :
    (a.insert user password).get? other =
      if other = user then some password else a.get? other := by
  unfold get? Accounts.insert
  rw [List.lookup_append]
  split
  · rename_i same
    have gone : (a.entries.filter fun entry => entry.1 != user).lookup other = none := by
      refine List.lookup_eq_none_iff.2 fun entry kept => ?_
      have differs := bne_iff_ne.1 (List.mem_filter.1 kept).2
      exact bne_iff_ne.2 (same ▸ differs.symm)
    rw [gone, same]
    simp
  · rename_i differs
    rw [lookup_filter_of_ne differs, List.lookup_cons, beq_eq_false_iff_ne.2 differs]
    simp

/-- **The last password counts.** -/
theorem get?_insertAll (a : Accounts) (more : List (String × String)) (user : String) :
    (a.insertAll more).get? user =
      (((more.filter fun account => account.1 == user).getLast?).map Prod.snd).or
        (a.get? user) := by
  induction more generalizing a with
  | nil => rfl
  | cons first more ih =>
    change ((a.insert first.1 first.2).insertAll more).get? user = _
    rw [ih, get?_insert, List.filter_cons]
    by_cases own : user = first.1
    · rw [if_pos own, if_pos (beq_iff_eq.2 own.symm), List.getLast?_cons]
      cases (more.filter fun account => account.1 == user).getLast? <;> rfl
    · rw [if_neg own, if_neg fun same => own (beq_iff_eq.1 same).symm]

/-- New users stand behind the others. -/
theorem insertAll_of_nodup {a : Accounts} {more : List (String × String)}
    (unique : ((a.entries ++ more).map Prod.fst).Nodup) :
    a.insertAll more = ⟨a.entries ++ more⟩ := by
  induction more generalizing a with
  | nil => simp [insertAll]
  | cons first more ih =>
    have new : (a.entries.filter fun entry => entry.1 != first.1) = a.entries := by
      rw [List.filter_eq_self]
      intro entry mem
      rw [List.map_append, List.nodup_append] at unique
      exact bne_iff_ne.2
        (unique.2.2 _ (List.mem_map_of_mem mem) _ (List.mem_cons_self ..))
    have added : a.insert first.1 first.2 = ⟨a.entries ++ [first]⟩ := by
      rw [Accounts.insert, new]
    change (a.insert first.1 first.2).insertAll more = _
    rw [added, ih (by simpa using unique)]
    simp

/-! ## Pieces -/

/-- The pieces of an account list between its commas. -/
def piecesOf (raw : String) : List (List Char) := Text.split ',' raw.toList

/-- The user that a piece names. -/
def userOf (piece : List Char) : String :=
  String.ofList (Text.trim (piece.takeWhile fun c => c != ':'))

/-- The password that a piece gives: all behind the first colon, but for the blanks at its end. -/
def passwordOf (piece : List Char) : String :=
  String.ofList (((Text.trim piece).dropWhile fun c => c != ':').drop 1)

/-- A piece that is not blank and names no user. -/
def IsFaulty (piece : List Char) : Prop :=
  Text.trim piece ≠ [] ∧
    (':' ∉ piece ∨ ∀ c ∈ piece.takeWhile (fun c => c != ':'), Text.isBlank c = true)

instance : DecidablePred IsFaulty := fun _ =>
  @instDecidableAnd _ _ inferInstance (@instDecidableOr _ _ inferInstance (List.decidableBAll ..))

/-- The user stands before the first colon. -/
theorem takeWhile_colon {front : List Char} (absent : ':' ∉ front) (rest : List Char) :
    (front ++ ':' :: rest).takeWhile (fun c => c != ':') = front := by
  have plain : ∀ c ∈ front, (c != ':') = true := fun c mem =>
    bne_iff_ne.2 fun same => absent (same ▸ mem)
  rw [List.takeWhile_append_of_pos plain]
  simp

/-- The password stands behind it. -/
theorem dropWhile_colon {front : List Char} (absent : ':' ∉ front) (rest : List Char) :
    (front ++ ':' :: rest).dropWhile (fun c => c != ':') = ':' :: rest := by
  have plain : ∀ c ∈ front, (c != ':') = true := fun c mem =>
    bne_iff_ne.2 fun same => absent (same ▸ mem)
  rw [List.dropWhile_append_of_pos plain]
  simp

/-- **What a piece is read as**, blanks around it not counting. -/
theorem pair?_trim {piece : List Char} (some : Text.trim piece ≠ []) :
    IsFaulty piece ∧ pair? (Text.trim piece) = none ∨
      ¬IsFaulty piece ∧ pair? (Text.trim piece) = Option.some (userOf piece, passwordOf piece) := by
  have solid : Text.isBlank ':' = false := by decide
  by_cases colon : ':' ∈ Text.trim piece
  · obtain ⟨before, after, front, back, same⟩ := Text.exists_around_trim piece
    obtain ⟨user, password, cut, absent⟩ := List.eq_append_cons_of_mem colon
    have plain : ':' ∉ before ++ user := fun mem => by
      rcases List.mem_append.1 mem with early | mem
      · cases solid.symm.trans (front _ early)
      · exact absent mem
    have whole : piece = (before ++ user) ++ ':' :: (password ++ after) := by
      rw [same, cut]
      simp
    have named : piece.takeWhile (fun c => c != ':') = before ++ user := by
      rw [whole, takeWhile_colon plain]
    have trimmed : Text.trim (before ++ user) = Text.trim user := by
      have nothing : ∀ c ∈ ([] : List Char), Text.isBlank c = true := nofun
      have around := Text.trim_around front nothing user
      rwa [List.append_nil] at around
    have read : pair? (Text.trim piece) =
        if Text.trim user = [] then none
        else Option.some (String.ofList (Text.trim user), String.ofList password) := by
      rw [pair?, cut, Text.splitOnce_append absent]
    have faulty : IsFaulty piece ↔ Text.trim user = [] := by
      rw [← trimmed, Text.trim_eq_nil_iff, IsFaulty, named]
      have present : ':' ∈ piece := (Text.mem_trim_iff solid).1 colon
      exact ⟨fun bad => bad.2.resolve_left fun absent => absent present,
        fun blank => ⟨some, .inr blank⟩⟩
    by_cases nobody : Text.trim user = []
    · exact .inl ⟨faulty.2 nobody, by rw [read, if_pos nobody]⟩
    · refine .inr ⟨fun bad => nobody (faulty.1 bad), ?_⟩
      rw [read, if_neg nobody, userOf, passwordOf, named, trimmed, cut, dropWhile_colon absent]
      rfl
  · refine .inl ⟨⟨some, .inl fun mem => colon ((Text.mem_trim_iff solid).2 mem)⟩, ?_⟩
    rw [pair?, Text.splitOnce_of_not_mem colon]

/-- The user of a pair that is read is named without blanks around the name. -/
theorem named_of_pair? {entry : List Char} {account : String × String}
    (read : pair? entry = some account) :
    account.1 ≠ "" ∧ Text.trimmed account.1 = account.1 := by
  unfold pair? at read
  split at read
  · cases read
  · rename_i user password cut
    split at read
    · cases read
    · rename_i named
      cases read
      refine ⟨fun none => named (String.ofList_eq_empty_iff.1 none), ?_⟩
      rw [Text.trimmed, String.toList_ofList, Text.trim_trim]

/-! ## Lists -/

/-- The pairs to be read from pieces, in order. -/
def entriesOf (pieces : List (List Char)) : List (List Char) :=
  (pieces.map Text.trim).filter fun entry => entry != []

/-- The pieces that are not blank. -/
def written (pieces : List (List Char)) : List (List Char) :=
  pieces.filter fun piece => Text.trim piece != []

/-- A blank piece is passed over. -/
theorem entriesOf_of_blank {piece : List Char} (blank : Text.trim piece = [])
    (pieces : List (List Char)) : entriesOf (piece :: pieces) = entriesOf pieces := by
  simp [entriesOf, blank]

/-- Any other is read without the blanks around it. -/
theorem entriesOf_of_some {piece : List Char} (some : Text.trim piece ≠ [])
    (pieces : List (List Char)) :
    entriesOf (piece :: pieces) = Text.trim piece :: entriesOf pieces := by
  simp [entriesOf, some]

/-- A blank piece does not count as written. -/
theorem written_of_blank {piece : List Char} (blank : Text.trim piece = [])
    (pieces : List (List Char)) : written (piece :: pieces) = written pieces := by
  simp [written, blank]

/-- Any other does. -/
theorem written_of_some {piece : List Char} (some : Text.trim piece ≠ [])
    (pieces : List (List Char)) : written (piece :: pieces) = piece :: written pieces := by
  simp [written, some]

/-- **Without a faulty piece** all pieces are read, one after the other. -/
theorem addAll_of_sound {pieces : List (List Char)} (sound : ∀ piece ∈ pieces, ¬IsFaulty piece)
    (a : Accounts) : addAll a (entriesOf pieces) =
      .ok (a.insertAll ((written pieces).map fun piece => (userOf piece, passwordOf piece))) := by
  induction pieces generalizing a with
  | nil => rfl
  | cons piece pieces ih =>
    have later := ih fun piece mem => sound piece (List.mem_cons_of_mem _ mem)
    by_cases blank : Text.trim piece = []
    · rw [entriesOf_of_blank blank, later, written_of_blank blank]
    · rcases pair?_trim blank with ⟨faulty, -⟩ | ⟨-, read⟩
      · exact absurd faulty (sound piece (List.mem_cons_self ..))
      · rw [entriesOf_of_some blank, addAll, read]
        dsimp only
        rw [later, written_of_some blank]
        rfl

/-- **The first faulty piece** is reported. -/
theorem addAll_of_faulty {before : List (List Char)} (sound : ∀ piece ∈ before, ¬IsFaulty piece)
    {piece : List Char} (faulty : IsFaulty piece) (after : List (List Char)) (a : Accounts) :
    addAll a (entriesOf (before ++ piece :: after)) =
      .error (.invalidAccount (String.ofList (Text.trim piece))) := by
  induction before generalizing a with
  | nil =>
    rcases pair?_trim faulty.1 with ⟨-, read⟩ | ⟨good, -⟩
    · rw [List.nil_append, entriesOf_of_some faulty.1, addAll, read]
    · exact absurd faulty good
  | cons first before ih =>
    have later := ih fun piece mem => sound piece (List.mem_cons_of_mem _ mem)
    rw [List.cons_append]
    by_cases blank : Text.trim first = []
    · rw [entriesOf_of_blank blank, later]
    · rcases pair?_trim blank with ⟨bad, -⟩ | ⟨-, read⟩
      · exact absurd bad (sound first (List.mem_cons_self ..))
      · rw [entriesOf_of_some blank, addAll, read]
        exact later _

/-- A list has a faulty piece, and then a first one, or it has none. -/
theorem exists_first_faulty (pieces : List (List Char)) :
    (∀ piece ∈ pieces, ¬IsFaulty piece) ∨ ∃ before piece after,
      pieces = before ++ piece :: after ∧ (∀ piece ∈ before, ¬IsFaulty piece) ∧
        IsFaulty piece := by
  induction pieces with
  | nil => exact .inl nofun
  | cons first more ih =>
    by_cases bad : IsFaulty first
    · exact .inr ⟨[], first, more, rfl, nofun, bad⟩
    · rcases ih with sound | ⟨before, piece, after, rfl, sound, faulty⟩
      · exact .inl (List.forall_mem_cons.2 ⟨bad, sound⟩)
      · exact .inr ⟨first :: before, piece, after, rfl, List.forall_mem_cons.2 ⟨bad, sound⟩,
          faulty⟩

/-- All users of a table that is read are named without blanks around their names. -/
theorem named_of_addAll {entries : List (List Char)} {a b : Accounts}
    (named : ∀ account ∈ a.entries, account.1 ≠ "" ∧ Text.trimmed account.1 = account.1)
    (read : addAll a entries = .ok b) :
    ∀ account ∈ b.entries, account.1 ≠ "" ∧ Text.trimmed account.1 = account.1 := by
  induction entries generalizing a with
  | nil =>
    cases read
    exact named
  | cons entry more ih =>
    rw [addAll] at read
    split at read
    · cases read
    · rename_i user password pair
      refine ih (fun account mem => ?_) read
      rcases List.mem_append.1 mem with old | new
      · exact named account (List.mem_of_mem_filter old)
      · rw [List.mem_singleton.1 new]
        exact named_of_pair? pair

/-- **Whoever has an account is named without blanks** around the name. -/
theorem named_of_get? {raw : String} {a : Accounts} (read : ofString raw = .ok a)
    {user password : String} (found : a.get? user = some password) :
    user ≠ "" ∧ Text.trimmed user = user := by
  obtain ⟨before, after, same, -⟩ := List.lookup_eq_some_iff.1 found
  have mem : (user, password) ∈ a.entries := by
    rw [same]
    exact List.mem_append_right _ (List.mem_cons_self ..)
  have nobody : ∀ account ∈ empty.entries,
      account.1 ≠ "" ∧ Text.trimmed account.1 = account.1 := nofun
  exact named_of_addAll nobody read _ mem

/-- A list is refused for its first faulty piece, or all its pieces are read. -/
theorem ofString_cases (raw : String) :
    (∃ before piece after, piecesOf raw = before ++ piece :: after ∧
      (∀ earlier ∈ before, ¬IsFaulty earlier) ∧ IsFaulty piece ∧
      ofString raw = .error (.invalidAccount (String.ofList (Text.trim piece)))) ∨
    ((∀ piece ∈ piecesOf raw, ¬IsFaulty piece) ∧ ofString raw = .ok (empty.insertAll
      ((written (piecesOf raw)).map fun piece => (userOf piece, passwordOf piece)))) := by
  rcases exists_first_faulty (piecesOf raw) with sound | ⟨before, piece, after, cut, sound, faulty⟩
  · exact .inr ⟨sound, addAll_of_sound sound empty⟩
  · refine .inl ⟨before, piece, after, cut, sound, faulty, ?_⟩
    change addAll empty (entriesOf (piecesOf raw)) = _
    rw [cut]
    exact addAll_of_faulty sound faulty after empty

/-- Accounts are old or new. -/
theorem mem_of_mem_insertAll {a : Accounts} {more : List (String × String)}
    {account : String × String} (mem : account ∈ (a.insertAll more).entries) :
    account ∈ a.entries ∨ account ∈ more := by
  induction more generalizing a with
  | nil => exact .inl mem
  | cons first more ih =>
    rcases ih mem with old | new
    · rcases List.mem_append.1 old with kept | own
      · exact .inl (List.mem_of_mem_filter kept)
      · exact .inr (List.mem_cons.2 (.inl (List.mem_singleton.1 own)))
    · exact .inr (List.mem_cons_of_mem _ new)

/-- There are accounts once one has been added. -/
theorem insertAll_ne_empty {a : Accounts} {more : List (String × String)}
    (some : a.entries ≠ [] ∨ more ≠ []) : (a.insertAll more).entries ≠ [] := by
  induction more generalizing a with
  | nil => exact some.resolve_right fun none => none rfl
  | cons first more ih =>
    exact ih (.inl (List.append_ne_nil_of_right_ne_nil _ (List.cons_ne_nil _ _)))

/-- The users of a list are named in its pieces. -/
theorem named_of_mem {raw : String} {a : Accounts} (read : ofString raw = .ok a)
    {account : String × String} (mem : account ∈ a.entries) :
    ∃ piece ∈ piecesOf raw, Text.trim piece ≠ [] ∧ ¬IsFaulty piece ∧
      account = (userOf piece, passwordOf piece) := by
  rcases ofString_cases raw with ⟨_, _, _, -, -, -, failed⟩ | ⟨sound, all⟩
  · cases failed.symm.trans read
  · cases all.symm.trans read
    obtain ⟨piece, held, rfl⟩ := List.mem_map.1 ((mem_of_mem_insertAll mem).resolve_left nofun)
    obtain ⟨held, some⟩ := List.mem_filter.1 held
    exact ⟨piece, held, bne_iff_ne.1 some, sound piece held, rfl⟩

/-- A list of blank pieces has no accounts, and any other that is read has some. -/
theorem isEmpty_iff {raw : String} {a : Accounts} (read : ofString raw = .ok a) :
    a.isEmpty = true ↔ ∀ piece ∈ piecesOf raw, Text.trim piece = [] := by
  rcases ofString_cases raw with ⟨_, _, _, -, -, -, failed⟩ | ⟨-, all⟩
  · cases failed.symm.trans read
  · cases all.symm.trans read
    rw [isEmpty, List.isEmpty_iff]
    constructor
    · intro none piece mem
      by_contra some
      have held : piece ∈ written (piecesOf raw) := List.mem_filter.2 ⟨mem, bne_iff_ne.2 some⟩
      exact insertAll_ne_empty (.inr (List.ne_nil_of_mem (List.mem_map_of_mem held))) none
    · intro blank
      have nothing : written (piecesOf raw) = [] :=
        List.filter_eq_nil_iff.2 fun piece mem some => bne_iff_ne.1 some (blank piece mem)
      rw [nothing]
      rfl

/-! ## Tables that are written down -/

/-- A piece of an account list as somebody may write it. -/
inductive Piece where
  /-- Blanks only. -/
  | blank (blanks : List Char)
  /-- A user and a password with blanks around the pair. -/
  | account (before : List Char) (user password : String) (after : List Char)

namespace Piece

/-- A piece as it is written. -/
def text : Piece → List Char
  | blank blanks => blanks
  | account before user password after =>
    before ++ (user.toList ++ ':' :: password.toList) ++ after

/-- What is written into a piece besides the account. -/
def blanks : Piece → List Char
  | blank blanks => blanks
  | account before _ _ after => before ++ after

/-- The account in a piece. -/
def account? : Piece → Option (String × String)
  | blank _ => none
  | account _ user password _ => some (user, password)

end Piece

/-- Pieces with commas between them. -/
def listed (pieces : List Piece) : String :=
  String.ofList ([','].intercalate (pieces.map Piece.text))

/-- A user and a password that can be written into an account list. -/
structure IsWritable (account : String × String) : Prop where
  /-- There is a user. -/
  named : account.1 ≠ ""
  /-- The user neither begins nor ends with a blank. -/
  trimmed : Text.trimmed account.1 = account.1
  /-- The user has no comma and no colon. -/
  plain : ',' ∉ account.1.toList ∧ ':' ∉ account.1.toList
  /-- The password has no comma. -/
  clean : ',' ∉ account.2.toList
  /-- The password does not end with a blank. -/
  solid : ∀ c, account.2.toList.getLast? = some c → Text.isBlank c = false

/-- An account is read from the piece that it is written into. -/
theorem IsWritable.read {user password : String} (writable : IsWritable (user, password))
    {before after : List Char} (front : ∀ c ∈ before, Text.isBlank c = true)
    (back : ∀ c ∈ after, Text.isBlank c = true) :
    let piece := (Piece.account before user password after).text
    Text.trim piece ≠ [] ∧ pair? (Text.trim piece) = some (user, password) := by
  intro piece
  have solid : Text.isBlank ':' = false := by decide
  have trimmed : Text.trim user.toList = user.toList := by
    have same := congrArg String.toList writable.trimmed
    rwa [Text.trimmed, String.toList_ofList] at same
  have core : Text.trim piece = user.toList ++ ':' :: password.toList := by
    change Text.trim (before ++ _ ++ after) = _
    rw [Text.trim_around front back, Text.trim_append_cons solid,
      Text.trimStart_of_trim trimmed, Text.trimEnd_of_getLast? writable.solid]
  have named : Text.trim user.toList ≠ [] := by
    rw [trimmed]
    exact fun none => writable.named (String.toList_eq_nil_iff.1 none)
  rw [core]
  refine ⟨by simp, ?_⟩
  rw [pair?, Text.splitOnce_append writable.plain.2]
  dsimp only
  rw [if_neg named, trimmed, String.ofList_toList, String.ofList_toList]

/-- No piece that is written as it should be has a comma. -/
theorem comma_not_mem_text {piece : Piece} (blank : ∀ c ∈ piece.blanks, Text.isBlank c = true)
    (writable : ∀ account, piece.account? = some account → IsWritable account) :
    ',' ∉ piece.text := by
  have solid : Text.isBlank ',' = false := by decide
  intro mem
  cases piece with
  | blank blanks => cases solid.symm.trans (blank _ mem)
  | account before user password after =>
    have fit := writable _ rfl
    rcases List.mem_append.1 mem with mem | late
    · rcases List.mem_append.1 mem with early | mem
      · cases solid.symm.trans (blank _ (List.mem_append_left _ early))
      · rcases List.mem_append.1 mem with inUser | mem
        · exact fit.plain.1 inUser
        · rcases List.mem_cons.1 mem with colon | inPassword
          · cases colon
          · exact fit.clean inPassword
    · cases solid.symm.trans (blank _ (List.mem_append_right _ late))

/-- The accounts in pieces are read from them. -/
theorem addAll_texts {pieces : List Piece}
    (blank : ∀ piece ∈ pieces, ∀ c ∈ piece.blanks, Text.isBlank c = true)
    (writable : ∀ account ∈ pieces.filterMap Piece.account?, IsWritable account) (a : Accounts) :
    addAll a (entriesOf (pieces.map Piece.text)) =
      .ok (a.insertAll (pieces.filterMap Piece.account?)) := by
  induction pieces generalizing a with
  | nil => rfl
  | cons piece pieces ih =>
    have own := blank piece (List.mem_cons_self ..)
    have later := ih fun piece mem => blank piece (List.mem_cons_of_mem _ mem)
    rw [List.map_cons]
    cases piece with
    | blank blanks =>
      have nothing : Text.trim (Piece.blank blanks).text = [] := Text.trim_eq_nil_iff.2 own
      rw [entriesOf_of_blank nothing, later writable]
      rfl
    | account before user password after =>
      have fit : IsWritable (user, password) := writable _ (List.mem_cons_self ..)
      obtain ⟨some, read⟩ := fit.read (fun c mem => own c (List.mem_append_left _ mem))
        fun c mem => own c (List.mem_append_right _ mem)
      rw [entriesOf_of_some some, addAll, read]
      exact later (fun account mem => writable account (List.mem_cons_of_mem _ mem)) _

/-- **What is written down is read again**, in whatever order and with whatever blanks. -/
theorem exists_read_written {m : Accounts} (unique : m.Unique)
    (writable : ∀ account ∈ m.entries, IsWritable account) {pieces : List Piece}
    (blank : ∀ piece ∈ pieces, ∀ c ∈ piece.blanks, Text.isBlank c = true)
    (all : (pieces.filterMap Piece.account?).Perm m.entries) :
    ∃ a, ofString (listed pieces) = .ok a ∧ a.entries.Perm m.entries ∧
      ∀ user, a.get? user = m.get? user := by
  have fit : ∀ account ∈ pieces.filterMap Piece.account?, IsWritable account := fun account mem =>
    writable account (all.mem_iff.1 mem)
  have distinct : ((pieces.filterMap Piece.account?).map Prod.fst).Nodup :=
    (all.map Prod.fst).nodup_iff.2 unique
  -- The list without pieces is written like the one with a single blank piece.
  have cut : entriesOf (piecesOf (listed pieces)) = entriesOf (pieces.map Piece.text) := by
    rw [piecesOf, listed, String.toList_ofList]
    cases pieces with
    | nil => rfl
    | cons piece more =>
      have some : (piece :: more).map Piece.text ≠ [] := List.cons_ne_nil _ _
      rw [Text.split_intercalate some]
      intro text mem
      obtain ⟨piece, held, rfl⟩ := List.mem_map.1 mem
      exact comma_not_mem_text (blank piece held) fun account same =>
        fit account (List.mem_filterMap.2 ⟨piece, held, same⟩)
  have read : ofString (listed pieces) = .ok ⟨pieces.filterMap Piece.account?⟩ := by
    change addAll empty (entriesOf (piecesOf (listed pieces))) = _
    rw [cut, addAll_texts blank fit, insertAll_of_nodup (by simpa [empty] using distinct)]
    rfl
  refine ⟨_, read, all, fun user => Option.ext fun password => ?_⟩
  rw [unique.get?_eq_some_iff, Unique.get?_eq_some_iff distinct]
  exact all.mem_iff

/-- **Which account lists are accepted, and what is read from them.**  A list is refused iff one of
its pieces between commas is faulty, and the first such piece is reported, trimmed. Otherwise each
user has one password, that of the last piece that is not blank and names the user, and nobody else
has one.

A table of accounts in which no user has two passwords can be written down if its users are not
empty, neither begin nor end with a blank and have neither a comma nor a colon, and its passwords
have no comma and do not end with a blank. In whatever order its accounts are written, with whatever
blanks around them and whatever blank pieces between them, it is this table that is read. -/
theorem accounts_of_pieces (raw : String) :
    (∀ e, ofString raw = .error e ↔ ∃ before piece after,
      piecesOf raw = before ++ piece :: after ∧ (∀ piece ∈ before, ¬IsFaulty piece) ∧
        IsFaulty piece ∧ e = .invalidAccount (String.ofList (Text.trim piece))) ∧
    ((∀ piece ∈ piecesOf raw, ¬IsFaulty piece) → ∃ a, ofString raw = .ok a ∧ a.Unique ∧
      ∀ user, a.get? user = (((piecesOf raw).filter fun piece =>
        Text.trim piece != [] && userOf piece == user).getLast?).map passwordOf) ∧
    ∀ m : Accounts, m.Unique → (∀ account ∈ m.entries, IsWritable account) →
      ∀ pieces : List Piece, (∀ piece ∈ pieces, ∀ c ∈ piece.blanks, Text.isBlank c = true) →
        (pieces.filterMap Piece.account?).Perm m.entries →
        ∃ a, ofString (listed pieces) = .ok a ∧ a.entries.Perm m.entries ∧
          ∀ user, a.get? user = m.get? user := by
  have refused : ∀ before piece after, piecesOf raw = before ++ piece :: after →
      (∀ piece ∈ before, ¬IsFaulty piece) → IsFaulty piece →
      ofString raw = .error (.invalidAccount (String.ofList (Text.trim piece))) := by
    intro before piece after cut sound faulty
    change addAll empty (entriesOf (piecesOf raw)) = _
    rw [cut]
    exact addAll_of_faulty sound faulty after empty
  have accepted : (∀ piece ∈ piecesOf raw, ¬IsFaulty piece) → ofString raw = .ok (empty.insertAll
      ((written (piecesOf raw)).map fun piece => (userOf piece, passwordOf piece))) := fun sound =>
    addAll_of_sound sound empty
  refine ⟨fun e => ⟨fun failed => ?_, ?_⟩, fun sound => ⟨_, accepted sound, ?_, fun user => ?_⟩,
    fun m unique writable pieces blank all => exists_read_written unique writable blank all⟩
  · rcases exists_first_faulty (piecesOf raw) with sound | ⟨before, piece, after, cut, sound, faulty⟩
    · cases failed.symm.trans (accepted sound)
    · refine ⟨before, piece, after, cut, sound, faulty, ?_⟩
      cases failed.symm.trans (refused before piece after cut sound faulty)
      rfl
  · rintro ⟨before, piece, after, cut, sound, faulty, rfl⟩
    exact refused before piece after cut sound faulty
  · exact Unique.insertAll (a := empty) List.nodup_nil _
  · rw [get?_insertAll, List.filter_map, written, List.filter_filter, List.getLast?_map,
      Option.map_map]
    have nobody : empty.get? user = none := rfl
    have same : ((piecesOf raw).filter fun piece =>
        Text.trim piece != [] && userOf piece == user) =
          (piecesOf raw).filter fun piece => userOf piece == user && Text.trim piece != [] :=
      List.filter_congr fun piece _ => Bool.and_comm ..
    rw [nobody, Option.or_none, same]
    rfl

/-- A later password counts, and a password may begin with a blank and hold a colon. -/
theorem accounts_of_pieces_two_passwords :
    (∃ a, ofString " ann : p:w ,,bob:x, ann:y" = .ok a ∧ a.get? "ann" = some "y") ∧
    ∃ a, ofString " ,bob: ,\tann: p:w" = .ok a ∧ a.get? "ann" = some " p:w" := by
  obtain ⟨-, accepted, written⟩ := accounts_of_pieces " ann : p:w ,,bob:x, ann:y"
  constructor
  · obtain ⟨a, read, -, passwords⟩ := accepted (by decide)
    exact ⟨a, read, (passwords "ann").trans (by decide)⟩
  · let table : Accounts := ⟨[("ann", " p:w"), ("bob", "")]⟩
    let pieces : List Piece :=
      [.blank [' '], .account [] "bob" "" [' '], .account ['\t'] "ann" " p:w" []]
    have unique : table.Unique := by
      unfold Unique
      decide
    have ann : IsWritable ("ann", " p:w") := by
      refine ⟨by decide, by decide, by decide, by decide, fun c last => ?_⟩
      cases (show some 'w' = some c from last)
      decide
    have bob : IsWritable ("bob", "") := ⟨by decide, by decide, by decide, by decide, nofun⟩
    have blank : ∀ piece ∈ pieces, piece.blanks.all Text.isBlank = true := by decide
    obtain ⟨a, read, -, passwords⟩ := written table unique
      (List.forall_mem_cons.2 ⟨ann, List.forall_mem_singleton.2 bob⟩) pieces
      (fun piece mem => List.all_eq_true.1 (blank piece mem)) (List.Perm.swap ..)
    exact ⟨a, read, passwords "ann"⟩

end Accounts
end Settings
end HomeMedia
