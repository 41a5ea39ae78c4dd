import HomeMedia.Home.Basic
import HomeMedia.Proofs.Number
import HomeMedia.Proofs.Settings.Accounts
import HomeMedia.Proofs.Text.Utf8
import HomeMedia.Settings.Server
/-!
# Which settings are accepted, and what they are

The variables of a server are *checked* in a fixed order (`Check.order`). What a check looks at,
when it fails and what it then reports is said of each check by itself, without the ones before it
(`Check.Fails`). The settings are refused iff a check fails, and the first one that does is reported
(`reports_ofVariables`). Settings that are accepted are *described* by the variables, each by its
own (`Described`), and are *usable* (`Usable`): the registry of sessions takes them as they are.

The proof follows the reader of the settings from check to check: `Reports checks x` says that `x`
fails as the first of some checks does, and is put together like `x` (`Reports.bind`).
-/

namespace HomeMedia

namespace Text

/-- A character of a text that is cut out of another is one of that text. -/
theorem mem_of_mem_trim {c : Char} {cs : List Char} (mem : c ∈ trim cs) : c ∈ cs := by
  obtain ⟨before, after, -, -, same⟩ := exists_around_trim cs
  rw [same]
  exact List.mem_append_left _ (List.mem_append_right _ mem)

/-- A text trimmed is a word if its characters between the blanks are the word's. -/
theorem trimmed_eq_iff {s word : String} : trimmed s = word ↔ trim s.toList = word.toList := by
  rw [trimmed, ← String.toList_inj, String.toList_ofList]

end Text

namespace Settings

/-! ## Reading one variable -/

namespace Variables

/-- Variables that are set to texts, or not at all. -/
def ofTexts (texts : String → Option String) : Variables :=
  fun name => (texts name).map Text.Utf8.ofString

/-- A variable has the text that it was set to. -/
@[simp] theorem text?_ofTexts (texts : String → Option String) (name : String) :
    (ofTexts texts).text? name = texts name := by
  unfold text? ofTexts
  cases texts name with
  | none => rfl
  | some text => exact (Text.Utf8.toString?_encode _).trans (congrArg some String.ofList_toList)

variable {α : Type} {reader : List Char → Except Reason α} {vars : Variables} {name : String}
  {default : α}

/-- Reading a variable fails if it is set and its text cannot be read. -/
theorem read_eq_error_iff {e : Error} : read reader vars name default = .error e ↔
    ∃ text reason, vars.text? name = some text ∧
      reader (Text.trim text.toList) = .error reason ∧ e = .invalidValue name reason := by
  unfold read
  cases vars.text? name with
  | none => exact ⟨nofun, fun ⟨_, _, set, _⟩ => nomatch set⟩
  | some text =>
    dsimp only
    cases answer : reader (Text.trim text.toList) with
    | ok a =>
      refine ⟨nofun, ?_⟩
      rintro ⟨_, _, ⟨⟩, refused, -⟩
      cases answer.symm.trans refused
    | error reason =>
      constructor
      · rintro ⟨⟩
        exact ⟨text, reason, rfl, answer, rfl⟩
      · rintro ⟨_, _, ⟨⟩, refused, rfl⟩
        cases answer.symm.trans refused
        rfl

/-- It gives the default where the variable is not set, and otherwise what the text stands for. -/
theorem read_eq_ok_iff {a : α} : read reader vars name default = .ok a ↔
    (vars.text? name = none ∧ a = default) ∨
      ∃ text, vars.text? name = some text ∧ reader (Text.trim text.toList) = .ok a := by
  unfold read
  cases vars.text? name with
  | none =>
    constructor
    · rintro ⟨⟩
      exact .inl ⟨rfl, rfl⟩
    · rintro (⟨-, rfl⟩ | ⟨_, ⟨⟩, -⟩)
      rfl
  | some text =>
    dsimp only
    cases answer : reader (Text.trim text.toList) with
    | error reason =>
      refine ⟨nofun, ?_⟩
      rintro (⟨⟨⟩, -⟩ | ⟨_, ⟨⟩, accepted⟩)
      cases answer.symm.trans accepted
    | ok b =>
      constructor
      · rintro ⟨⟩
        exact .inr ⟨text, rfl, answer⟩
      · rintro (⟨⟨⟩, -⟩ | ⟨_, ⟨⟩, accepted⟩)
        cases answer.symm.trans accepted
        rfl

end Variables

/-! ## Checks -/

/-- Something that is checked of the variables. -/
inductive Check where
  /-- A variable is set to a number between blanks. -/
  | number (name : String)
  /-- A variable is set to a truth value between blanks. -/
  | truth (name : String)
  /-- The account list has no faulty piece. -/
  | accounts
  /-- A rule is kept that concerns the settings of the web interface together. -/
  | rule (conflict : Conflict)
  /-- The time between refreshes is a number between blanks, if there is a catalog. -/
  | refresh
  /-- The port is a number without blanks. -/
  | port
  deriving DecidableEq, Repr

namespace Check

/-- The checks of the settings of the web interface. -/
def ofUi : List Check := [.number "UI_SESSION_TIMEOUT", .number "UI_SESSION_SWEEP_INTERVAL",
  .number "UI_MAX_UPDATE_IDS", .truth "UI_ACCOUNTS_ENABLED", .accounts, .rule .noCap,
  .rule .noSweepInterval, .rule .noAccounts]

/-- All checks, in their order. -/
def order : List Check := ofUi ++ [.refresh, .port]

/-- When a check fails, and what it reports. -/
inductive Fails (texts : String → Option String) : Check → Refusal → Prop where
  | number {name text : String} {fault : Number.Fault} (set : texts name = some text)
    (faulty : Number.Faulty Number.max64 (Text.trim text.toList) fault) :
    Fails texts (.number name) (.ui (.invalidValue name (.number fault)))
  | truth {name text : String} (set : texts name = some text)
    (neither : Text.trimmed text ≠ "true" ∧ Text.trimmed text ≠ "false") :
    Fails texts (.truth name) (.ui (.invalidValue name .truth))
  /-- The first faulty piece of the account list is reported. -/
  | accounts {text : String} {before : List (List Char)} {piece : List Char}
    {after : List (List Char)} (set : texts "UI_ACCOUNTS" = some text)
    (cut : Accounts.piecesOf text = before ++ piece :: after)
    (sound : ∀ earlier ∈ before, ¬Accounts.IsFaulty earlier) (faulty : Accounts.IsFaulty piece) :
    Fails texts .accounts (.ui (.invalidAccount (String.ofList (Text.trim piece))))
  | noCap {text : String} (set : texts "UI_MAX_UPDATE_IDS" = some text)
    (numeral : Number.IsNumeral (Text.trim text.toList))
    (zero : Number.value (Number.unsigned (Text.trim text.toList)) = 0) :
    Fails texts (.rule .noCap) (.ui (.conflict .noCap))
  | noSweepInterval {text : String} (set : texts "UI_SESSION_SWEEP_INTERVAL" = some text)
    (numeral : Number.IsNumeral (Text.trim text.toList))
    (zero : Number.value (Number.unsigned (Text.trim text.toList)) = 0) :
    Fails texts (.rule .noSweepInterval) (.ui (.conflict .noSweepInterval))
  /-- Accounts are required, and all pieces of the account list are blank. -/
  | noAccounts {text : String} (set : texts "UI_ACCOUNTS_ENABLED" = some text)
    (enabled : Text.trimmed text = "true")
    (nobody : ∀ list, texts "UI_ACCOUNTS" = some list →
      ∀ piece ∈ Accounts.piecesOf list, Text.trim piece = []) :
    Fails texts (.rule .noAccounts) (.ui (.conflict .noAccounts))
  | refresh {url text : String} {fault : Number.Fault}
    (named : texts "ONLINE_CATALOG_URL" = some url) (filled : Text.trimmed url ≠ "")
    (set : texts "ONLINE_CATALOG_REFRESH" = some text)
    (faulty : Number.Faulty Number.max64 (Text.trim text.toList) fault) :
    Fails texts .refresh (.catalog (.invalidValue "ONLINE_CATALOG_REFRESH" (.number fault)))
  | port {text : String} {fault : Number.Fault} (set : texts "HEARTH_PORT" = some text)
    (faulty : Number.Faulty Number.max16 text.toList fault) :
    Fails texts .port (.port fault)

/-- The first check that fails, and what it reports. -/
inductive FirstFails (texts : String → Option String) : List Check → Refusal → Prop where
  | here {check : Check} {more : List Check} {r : Refusal} (fails : Fails texts check r) :
    FirstFails texts (check :: more) r
  | later {check : Check} {more : List Check} {r : Refusal}
    (passes : ∀ r, ¬Fails texts check r) (first : FirstFails texts more r) :
    FirstFails texts (check :: more) r

end Check

variable {texts : String → Option String}

open Check (Fails FirstFails)

/-- The first check that fails is the first of all, or that one passes and it is the first of the
others. -/
theorem firstFails_cons_iff {check : Check} {more : List Check} {r : Refusal} :
    FirstFails texts (check :: more) r ↔
      Fails texts check r ∨ (∀ r, ¬Fails texts check r) ∧ FirstFails texts more r := by
  constructor
  · rintro (fails | ⟨passes, first⟩)
    · exact .inl fails
    · exact .inr ⟨passes, first⟩
  · rintro (fails | ⟨passes, first⟩)
    · exact .here fails
    · exact .later passes first

/-- **A check fails first iff one fails.** -/
theorem exists_firstFails_iff {checks : List Check} :
    (∃ r, FirstFails texts checks r) ↔ ∃ check ∈ checks, ∃ r, Fails texts check r := by
  induction checks with
  | nil => exact ⟨nofun, nofun⟩
  | cons check more ih =>
    constructor
    · rintro ⟨r, fails | ⟨-, first⟩⟩
      · exact ⟨check, List.mem_cons_self .., r, fails⟩
      · obtain ⟨later, mem, fails⟩ := ih.1 ⟨r, first⟩
        exact ⟨later, List.mem_cons_of_mem _ mem, fails⟩
    · rintro ⟨failing, mem, r, fails⟩
      by_cases any : ∃ r, Fails texts check r
      · obtain ⟨r, fails⟩ := any
        exact ⟨r, .here fails⟩
      · rcases List.mem_cons.1 mem with rfl | mem
        · exact absurd ⟨r, fails⟩ any
        · obtain ⟨r, first⟩ := ih.2 ⟨failing, mem, r, fails⟩
          exact ⟨r, .later (not_exists.1 any) first⟩

/-- Among the checks of two lists it is among the first list, or that one passes. -/
theorem firstFails_append_iff {checks more : List Check} {r : Refusal} :
    FirstFails texts (checks ++ more) r ↔ FirstFails texts checks r ∨
      (∀ r, ¬FirstFails texts checks r) ∧ FirstFails texts more r := by
  induction checks with
  | nil => exact ⟨fun first => .inr ⟨nofun, first⟩, fun either => (either.resolve_left nofun).2⟩
  | cons check checks ih =>
    rw [List.cons_append, firstFails_cons_iff, firstFails_cons_iff, ih]
    constructor
    · rintro (fails | ⟨passes, first | ⟨none, first⟩⟩)
      · exact .inl (.inl fails)
      · exact .inl (.inr ⟨passes, first⟩)
      · refine .inr ⟨fun r early => ?_, first⟩
        rcases firstFails_cons_iff.1 early with fails | ⟨-, early⟩
        · exact passes r fails
        · exact none r early
    · rintro ((fails | ⟨passes, first⟩) | ⟨none, first⟩)
      · exact .inl fails
      · exact .inr ⟨passes, .inl first⟩
      · have passes : ∀ r, ¬Fails texts check r := fun r fails => none r (.here fails)
        exact .inr ⟨passes, .inr ⟨fun r early => none r (.later passes early), first⟩⟩

/-- Something fails as the first of some checks does. -/
def Reports (texts : String → Option String) (checks : List Check) {α : Type}
    (x : Except Refusal α) : Prop :=
  ∀ r, x = .error r ↔ FirstFails texts checks r

namespace Reports

variable {α β : Type} {checks more : List Check}

/-- What does not fail has nothing to check. -/
theorem ok (a : α) : Reports texts [] (.ok a : Except Refusal α) := fun _ => ⟨nofun, nofun⟩

/-- One check. -/
theorem single {check : Check} {x : Except Refusal α}
    (one : ∀ r, x = .error r ↔ Fails texts check r) : Reports texts [check] x := fun r =>
  (one r).trans ⟨.here, fun first => (firstFails_cons_iff.1 first).resolve_right nofun⟩

/-- **One thing after another.** -/
theorem bind {x : Except Refusal α} {f : α → Except Refusal β} (first : Reports texts checks x)
    (second : ∀ a, x = .ok a → Reports texts more (f a)) :
    Reports texts (checks ++ more) (x >>= f) := by
  intro r
  rw [firstFails_append_iff]
  cases x with
  | error e =>
    have failed : FirstFails texts checks e := (first e).1 rfl
    constructor
    · rintro ⟨⟩
      exact .inl failed
    · rintro (early | ⟨none, -⟩)
      · cases (first r).2 early
        rfl
      · exact absurd failed (none e)
  | ok a =>
    have none : ∀ r, ¬FirstFails texts checks r := fun r early => nomatch (first r).2 early
    exact (second a rfl r).trans ⟨fun late => .inr ⟨none, late⟩, fun either =>
      (either.resolve_left (none r)).2⟩

/-- A check that is made by a test. -/
theorem ite {check : Check} {fault : Refusal} {broken : Prop} [Decidable broken]
    {x : Except Refusal α} (one : ∀ r, Fails texts check r ↔ broken ∧ r = fault)
    (rest : Reports texts more x) :
    Reports texts (check :: more) (if broken then .error fault else x) := by
  intro r
  rw [firstFails_cons_iff, one]
  split
  · rename_i bad
    constructor
    · rintro ⟨⟩
      exact .inl ⟨bad, rfl⟩
    · rintro (⟨-, rfl⟩ | ⟨passes, -⟩)
      · rfl
      · exact absurd ((one fault).2 ⟨bad, rfl⟩) (passes fault)
  · rename_i good
    rw [rest r]
    exact ⟨fun late => .inr ⟨fun r fails => good ((one r).1 fails).1, late⟩,
      fun either => (either.resolve_left fun now => good now.1).2⟩

end Reports

/-! ## The checks in their order -/

/-- A failure told in other words is one that was a failure before. -/
theorem mapError_eq_error_iff {ε δ α : Type} {g : ε → δ} {x : Except ε α} {d : δ} :
    x.mapError g = .error d ↔ ∃ e, x = .error e ∧ d = g e := by
  cases x with
  | error e =>
    constructor
    · rintro ⟨⟩
      exact ⟨e, rfl, rfl⟩
    · rintro ⟨_, ⟨⟩, rfl⟩
      rfl
  | ok a => exact ⟨nofun, nofun⟩

/-- Other words for failures do not change a success. -/
theorem mapError_eq_ok_iff {ε δ α : Type} {g : ε → δ} {x : Except ε α} {a : α} :
    x.mapError g = .ok a ↔ x = .ok a := by
  cases x with
  | error e => exact ⟨nofun, nofun⟩
  | ok b => constructor <;> (rintro ⟨⟩; rfl)

/-- Failures may be put in other words after each of two steps or after both. -/
theorem mapError_bind {ε δ α β : Type} (g : ε → δ) (x : Except ε α) (f : α → Except ε β) :
    (x >>= f).mapError g = x.mapError g >>= fun a => (f a).mapError g := by
  cases x <;> rfl

/-- The number of a variable is one of at most 64 bits. -/
theorem nat_eq_error_iff {name : String} {default : Nat} {e : Error} :
    (Variables.ofTexts texts).nat Number.max64 name default = .error e ↔
      ∃ text fault, texts name = some text ∧
        Number.Faulty Number.max64 (Text.trim text.toList) fault ∧
        e = .invalidValue name (.number fault) := by
  simp only [Variables.nat, Variables.read_eq_error_iff, Variables.text?_ofTexts,
    mapError_eq_error_iff, Number.readNat_eq_error_iff]
  constructor
  · rintro ⟨text, reason, set, ⟨fault, faulty, rfl⟩, rfl⟩
    exact ⟨text, fault, set, faulty, rfl⟩
  · rintro ⟨text, fault, set, faulty, rfl⟩
    exact ⟨text, _, set, ⟨fault, faulty, rfl⟩, rfl⟩

/-- A number fails as its check does. -/
theorem reports_nat (name : String) (default : Nat) : Reports texts [.number name]
    (((Variables.ofTexts texts).nat Number.max64 name default).mapError Refusal.ui) := by
  refine .single fun r => ?_
  rw [mapError_eq_error_iff]
  constructor
  · rintro ⟨e, failed, rfl⟩
    obtain ⟨text, fault, set, faulty, rfl⟩ := nat_eq_error_iff.1 failed
    exact .number set faulty
  · rintro ⟨set, faulty⟩
    exact ⟨_, nat_eq_error_iff.2 ⟨_, _, set, faulty, rfl⟩, rfl⟩

/-- A truth value is read from its own word. -/
theorem readBool_eq_some_iff {text : String} {b : Bool} :
    Number.readBool (Text.trim text.toList) = some b ↔ Text.trimmed text = Text.truth b := by
  rw [Text.trimmed_eq_iff, Number.readBool]
  cases b with
  | true =>
    split
    · exact ⟨fun _ => ‹_›, fun _ => rfl⟩
    · split
      · exact ⟨nofun, fun same => absurd same ‹_›⟩
      · exact ⟨nofun, fun same => absurd same ‹_›⟩
  | false =>
    split
    · rename_i same
      rw [same]
      exact ⟨nofun, fun same => by cases same⟩
    · split
      · exact ⟨fun _ => ‹_›, fun _ => rfl⟩
      · exact ⟨nofun, fun same => absurd same ‹_›⟩

/-- Other words are none. -/
theorem readBool_eq_none_iff {text : String} :
    Number.readBool (Text.trim text.toList) = none ↔
      Text.trimmed text ≠ "true" ∧ Text.trimmed text ≠ "false" := by
  rw [Option.eq_none_iff_forall_ne_some, Bool.forall_bool, and_comm]
  exact and_congr (not_congr readBool_eq_some_iff) (not_congr readBool_eq_some_iff)

/-- A truth value fails as its check does. -/
theorem reports_bool (name : String) (default : Bool) : Reports texts [.truth name]
    (((Variables.ofTexts texts).bool name default).mapError Refusal.ui) := by
  refine .single fun r => ?_
  rw [mapError_eq_error_iff]
  simp only [Variables.bool, Variables.read_eq_error_iff, Variables.text?_ofTexts]
  constructor
  · rintro ⟨_, ⟨text, reason, set, failed, rfl⟩, rfl⟩
    split at failed
    · cases failed
    · rename_i unread
      cases failed
      exact .truth set (readBool_eq_none_iff.1 unread)
  · intro fails
    cases fails with
    | truth set neither =>
      exact ⟨_, ⟨_, _, set, by rw [readBool_eq_none_iff.2 neither], rfl⟩, rfl⟩

/-- So does the list of accounts. -/
theorem reports_accounts : Reports texts [.accounts]
    ((Accounts.ofString ((Variables.ofTexts texts).textOr "UI_ACCOUNTS" "")).mapError
      Refusal.ui) := by
  refine .single fun r => ?_
  rw [mapError_eq_error_iff, Variables.textOr, Variables.text?_ofTexts]
  constructor
  · rintro ⟨e, failed, rfl⟩
    cases set : texts "UI_ACCOUNTS" with
    | none =>
      rw [set] at failed
      cases failed
    | some text =>
      rw [set] at failed
      rcases Accounts.ofString_cases text with ⟨_, _, _, cut, sound, faulty, refused⟩ | ⟨-, read⟩
      · cases refused.symm.trans failed
        exact .accounts set cut sound faulty
      · cases read.symm.trans failed
  · intro fails
    cases fails with
    | accounts set cut sound faulty =>
      refine ⟨_, ?_, rfl⟩
      rw [set, Option.getD_some]
      change Accounts.addAll .empty (Accounts.entriesOf (Accounts.piecesOf _)) = _
      rw [cut]
      exact Accounts.addAll_of_faulty sound faulty _ _

/-- The number of a variable is zero iff it is set to a numeral that stands for zero. -/
theorem nat_eq_zero_iff {name : String} {default n : Nat} (some : default ≠ 0)
    (read : (Variables.ofTexts texts).nat Number.max64 name default = .ok n) :
    n = 0 ↔ ∃ text, texts name = Option.some text ∧ Number.IsNumeral (Text.trim text.toList) ∧
      Number.value (Number.unsigned (Text.trim text.toList)) = 0 := by
  rcases Variables.read_eq_ok_iff.1 read with ⟨unset, rfl⟩ | ⟨text, set, numeral⟩
  · rw [Variables.text?_ofTexts] at unset
    refine ⟨fun zero => absurd zero some, ?_⟩
    rintro ⟨text, set, -⟩
    cases unset.symm.trans set
  · rw [Variables.text?_ofTexts] at set
    obtain ⟨digits, -, rfl⟩ := Number.readNat_eq_ok_iff.1 (mapError_eq_ok_iff.1 numeral)
    constructor
    · exact fun zero => ⟨text, set, digits, zero⟩
    · rintro ⟨other, same, -, zero⟩
      cases set.symm.trans same
      exact zero

/-- A truth value that is `false` by default is `true` iff it is set to `true`. -/
theorem bool_eq_true_iff {name : String} {b : Bool}
    (read : (Variables.ofTexts texts).bool name false = .ok b) :
    b = true ↔ ∃ text, texts name = some text ∧ Text.trimmed text = "true" := by
  rcases Variables.read_eq_ok_iff.1 read with ⟨unset, rfl⟩ | ⟨text, set, spelled⟩
  · rw [Variables.text?_ofTexts] at unset
    refine ⟨nofun, ?_⟩
    rintro ⟨text, set, -⟩
    cases unset.symm.trans set
  · rw [Variables.text?_ofTexts] at set
    split at spelled
    · rename_i same
      cases spelled
      rw [readBool_eq_some_iff] at same
      constructor
      · rintro rfl
        exact ⟨text, set, same⟩
      · rintro ⟨other, again, true⟩
        cases set.symm.trans again
        cases b with
        | true => rfl
        | false => exact absurd (same.symm.trans true) (by decide)
    · cases spelled

/-- No account is read if every piece of the list is blank. -/
theorem accounts_isEmpty_iff {a : Accounts} (read : Accounts.ofString
      ((Variables.ofTexts texts).textOr "UI_ACCOUNTS" "") = .ok a) :
    a.isEmpty = true ↔ ∀ list, texts "UI_ACCOUNTS" = some list →
      ∀ piece ∈ Accounts.piecesOf list, Text.trim piece = [] := by
  rw [Accounts.isEmpty_iff read, Variables.textOr, Variables.text?_ofTexts]
  cases texts "UI_ACCOUNTS" with
  | none => exact ⟨nofun, fun _ piece mem => by
      cases List.mem_singleton.1 mem
      rfl⟩
  | some list => exact ⟨fun blank _ same => Option.some.inj same ▸ blank, fun blank => blank _ rfl⟩

/-- **The rules** are checked in their order. -/
theorem reports_validate {ui : Ui}
    (cap : (Variables.ofTexts texts).nat Number.max64 "UI_MAX_UPDATE_IDS" 10 = .ok ui.maxUpdates)
    (interval : (Variables.ofTexts texts).nat Number.max64 "UI_SESSION_SWEEP_INTERVAL" 60 =
      .ok ui.sweepInterval)
    (enabled : (Variables.ofTexts texts).bool "UI_ACCOUNTS_ENABLED" false =
      .ok ui.accountsEnabled)
    (accounts : Accounts.ofString ((Variables.ofTexts texts).textOr "UI_ACCOUNTS" "") =
      .ok ui.accounts) :
    Reports texts [.rule .noCap, .rule .noSweepInterval, .rule .noAccounts]
      (ui.validate.mapError Refusal.ui) := by
  have tests : ui.validate.mapError Refusal.ui =
      if ui.maxUpdates = 0 then .error (.ui (.conflict .noCap))
      else if ui.sweepInterval = 0 then .error (.ui (.conflict .noSweepInterval))
      else if ui.accountsEnabled = true ∧ ui.accounts.isEmpty = true then
        .error (.ui (.conflict .noAccounts))
      else .ok () := by
    unfold Ui.validate Ui.conflict?
    simp only [Bool.and_eq_true]
    split_ifs <;> rfl
  rw [tests]
  refine .ite (fun r => ?_) (.ite (fun r => ?_) (.ite (fun r => ?_) (.ok ())))
  · rw [nat_eq_zero_iff (by decide) cap]
    constructor
    · intro fails
      cases fails with
      | noCap set numeral zero => exact ⟨⟨_, set, numeral, zero⟩, rfl⟩
    · rintro ⟨⟨_, set, numeral, zero⟩, rfl⟩
      exact .noCap set numeral zero
  · rw [nat_eq_zero_iff (by decide) interval]
    constructor
    · intro fails
      cases fails with
      | noSweepInterval set numeral zero => exact ⟨⟨_, set, numeral, zero⟩, rfl⟩
    · rintro ⟨⟨_, set, numeral, zero⟩, rfl⟩
      exact .noSweepInterval set numeral zero
  · rw [bool_eq_true_iff enabled, accounts_isEmpty_iff accounts]
    constructor
    · intro fails
      cases fails with
      | noAccounts set on nobody => exact ⟨⟨⟨_, set, on⟩, nobody⟩, rfl⟩
    · rintro ⟨⟨⟨_, set, on⟩, nobody⟩, rfl⟩
      exact .noAccounts set on nobody

/-- **The settings of the web interface** are refused by the first check that fails. -/
theorem reports_ui : Reports texts Check.ofUi
    ((Ui.ofVariables (Variables.ofTexts texts)).mapError Refusal.ui) := by
  unfold Ui.ofVariables
  simp only [mapError_bind]
  refine .bind (reports_nat _ _) fun _ _ => .bind (reports_nat _ _) fun interval gap =>
    .bind (reports_nat _ _) fun cap most => .bind (reports_bool _ _) fun enabled on =>
    .bind reports_accounts fun accounts read => ?_
  exact .bind (reports_validate (mapError_eq_ok_iff.1 most) (mapError_eq_ok_iff.1 gap)
    (mapError_eq_ok_iff.1 on) (mapError_eq_ok_iff.1 read)) fun _ _ => .ok _

/-- The settings of a catalog are checked where one is named. -/
theorem reports_catalog :
    Reports texts [.refresh] (Server.catalogOf (Variables.ofTexts texts)) := by
  refine .single fun r => ?_
  rw [Server.catalogOf, Variables.text?_ofTexts]
  cases named : texts "ONLINE_CATALOG_URL" with
  | none =>
    refine ⟨nofun, fun fails => ?_⟩
    cases fails with
    | refresh named' => cases named.symm.trans named'
  | some url =>
    dsimp only
    split
    · rename_i blank
      refine ⟨nofun, fun fails => ?_⟩
      cases fails with
      | refresh named' filled =>
        cases named.symm.trans named'
        exact absurd blank filled
    · rename_i filled
      constructor
      · intro failed
        split at failed
        · rename_i e refused
          cases failed
          obtain ⟨text, fault, set, faulty, rfl⟩ := nat_eq_error_iff.1 refused
          exact .refresh named filled set faulty
        · cases failed
      · intro fails
        cases fails with
        | refresh _ _ set faulty => rw [nat_eq_error_iff.2 ⟨_, _, set, faulty, rfl⟩]

/-- The port fails as its check does. -/
theorem reports_port : Reports texts [.port] (Server.portOf (Variables.ofTexts texts)) := by
  refine .single fun r => ?_
  rw [Server.portOf, Variables.text?_ofTexts]
  cases set : texts "HEARTH_PORT" with
  | none => exact ⟨nofun, fun fails => by
      cases fails with
      | port set' => cases set.symm.trans set'⟩
  | some text =>
    dsimp only
    rw [mapError_eq_error_iff]
    constructor
    · rintro ⟨fault, failed, rfl⟩
      exact .port set (Number.readNat_eq_error_iff.1 failed)
    · intro fails
      cases fails with
      | port set' faulty =>
        cases set.symm.trans set'
        exact ⟨_, Number.readNat_eq_error_iff.2 faulty, rfl⟩

/-- **The first check that fails is reported.** -/
theorem reports_ofVariables :
    Reports texts Check.order (Server.ofVariables (Variables.ofTexts texts)) :=
  reports_ui.bind fun _ _ => reports_catalog.bind fun _ _ => reports_port.bind fun _ _ => .ok _

end Settings
end HomeMedia
