import HomeMedia.Home.Basic
import HomeMedia.Proofs.Settings.Checks
/-!
# What accepted settings are

Settings that are accepted are *described* by the variables, each by its own: what a variable is
taken for does not depend on whether others are set (`Described`). They are also *usable*: no cap
and no interval is zero, accounts are there where they are required, and no name, origin or address
is blank or has blanks around it (`Usable`). A registry of sessions takes them as they are and has
nothing to report about them (`accepted_or_reported`).
-/

namespace HomeMedia
namespace Settings

/-! ## Described settings -/

/-- What a variable is taken for: the default where it is not set, and otherwise what its text
stands for. -/
inductive Taken (texts : String → Option String) (name : String) {α : Type} (default : α)
    (stands : String → α → Prop) : α → Prop where
  | unset (unset : texts name = none) : Taken texts name default stands default
  | set {text : String} {a : α} (set : texts name = some text) (meant : stands text a) :
    Taken texts name default stands a

/-- Whatever a variable that is set is taken for, its text stands for. -/
theorem Taken.of_set {texts : String → Option String} {name : String} {α : Type} {default a : α}
    {stands : String → α → Prop} (taken : Taken texts name default stands a) {text : String}
    (set : texts name = some text) : stands text a := by
  cases taken with
  | unset unset => cases unset.symm.trans set
  | set same meant =>
    cases set.symm.trans same
    exact meant

/-- A variable that is not set is taken for the default. -/
theorem Taken.of_unset {texts : String → Option String} {name : String} {α : Type}
    {default a : α} {stands : String → α → Prop} (taken : Taken texts name default stands a)
    (unset : texts name = none) : a = default := by
  cases taken with
  | unset => rfl
  | set same => cases unset.symm.trans same

/-- A numeral stands for a number within the limit. -/
def IsNumber (limit : Nat) (cs : List Char) (n : Nat) : Prop :=
  Number.IsNumeral cs ∧ Number.value (Number.unsigned cs) ≤ limit ∧
    Number.value (Number.unsigned cs) = n

/-- A numeral between blanks stands for a number of at most 64 bits. -/
def IsNumber64 (text : String) (n : Nat) : Prop :=
  IsNumber Number.max64 (Text.trim text.toList) n

/-- The accounts of a list: each user has the password of the last piece that names the user. -/
structure Accounts.ListedIn (list : String) (a : Accounts) : Prop where
  /-- No piece is faulty. -/
  sound : ∀ piece ∈ piecesOf list, ¬IsFaulty piece
  /-- No user has two passwords. -/
  unique : a.Unique
  /-- Later pieces count. -/
  password : ∀ user, a.get? user = (((piecesOf list).filter fun piece =>
    Text.trim piece != [] && userOf piece == user).getLast?).map passwordOf

/-- The catalog that is named, if one is. -/
inductive Named (texts : String → Option String) : Option Catalog → Prop where
  | unset (unset : texts "ONLINE_CATALOG_URL" = none) : Named texts none
  | blank {url : String} (set : texts "ONLINE_CATALOG_URL" = some url)
    (blank : Text.trimmed url = "") : Named texts none
  | named {url : String} {seconds : Nat} (set : texts "ONLINE_CATALOG_URL" = some url)
    (filled : Text.trimmed url ≠ "")
    (refresh : Taken texts "ONLINE_CATALOG_REFRESH" 3600 IsNumber64 seconds) :
    Named texts (some ⟨Text.trimmed url, seconds⟩)

/-- Settings that are described by the variables, each by its own. -/
structure Described (texts : String → Option String) (s : Server) : Prop where
  library : Taken texts "MEDIA_LIBRARY_PATH" (Path.ofString "/media")
    (fun text library => library = Path.ofString text) s.library
  stage : Taken texts "ENVIRONMENT" Stage.development
    (fun text stage => stage = Stage.ofString text) s.stage
  timeout : Taken texts "UI_SESSION_TIMEOUT" 1800 IsNumber64 s.ui.sessionTimeout
  interval : Taken texts "UI_SESSION_SWEEP_INTERVAL" 60 IsNumber64 s.ui.sweepInterval
  cap : Taken texts "UI_MAX_UPDATE_IDS" 10 IsNumber64 s.ui.maxUpdates
  enabled : Taken texts "UI_ACCOUNTS_ENABLED" false
    (fun text enabled => Text.trimmed text = Text.truth enabled) s.ui.accountsEnabled
  accounts : Taken texts "UI_ACCOUNTS" Accounts.empty Accounts.ListedIn s.ui.accounts
  port : Taken texts "HEARTH_PORT" 49152
    (fun text port => IsNumber Number.max16 text.toList port) s.port
  origins : Taken texts "CORS_ORIGINS" none
    (fun text origins => origins = some (Server.originsOf text)) s.origins
  catalog : Named texts s.catalog

/-! ## Usable settings -/

/-- A text that is not empty and neither begins nor ends with a blank. -/
def IsTrimmed (s : String) : Prop := s ≠ "" ∧ Text.trimmed s = s

/-- Settings that the server can use as they are. -/
structure Usable (s : Server) : Prop where
  /-- Sessions list at least one change. -/
  cap : 1 ≤ s.ui.maxUpdates
  /-- There is time between two sweeps. -/
  interval : 1 ≤ s.ui.sweepInterval
  /-- Somebody may log in. -/
  accounts : s.ui.accountsEnabled = true → s.ui.accounts.entries ≠ []
  /-- Users can be named in an account list. -/
  users : ∀ account ∈ s.ui.accounts.entries,
    IsTrimmed account.1 ∧ ',' ∉ account.1.toList ∧ ':' ∉ account.1.toList
  /-- Origins can be named in a list. -/
  origins : ∀ list, s.origins = some list → ∀ origin ∈ list, IsTrimmed origin ∧ ',' ∉ origin.toList
  /-- The address of a catalog is not blank. -/
  url : ∀ c, s.catalog = some c → IsTrimmed c.url

variable {texts : String → Option String}

/-- What is left of a text between its blanks is trimmed. -/
theorem isTrimmed_ofList_trim {cs : List Char} (some : Text.trim cs ≠ []) :
    IsTrimmed (String.ofList (Text.trim cs)) := by
  refine ⟨fun none => some (String.ofList_eq_empty_iff.1 none), ?_⟩
  rw [Text.trimmed, String.toList_ofList, Text.trim_trim]

/-- A variable for a number is taken for the number that it shows. -/
theorem taken_of_nat {name : String} {default n : Nat}
    (read : (Variables.ofTexts texts).nat Number.max64 name default = .ok n) :
    Taken texts name default IsNumber64 n := by
  rcases Variables.read_eq_ok_iff.1 read with ⟨unset, rfl⟩ | ⟨text, set, numeral⟩
  · exact .unset (Variables.text?_ofTexts texts name ▸ unset)
  · exact .set (Variables.text?_ofTexts texts name ▸ set)
      (Number.readNat_eq_ok_iff.1 (mapError_eq_ok_iff.1 numeral))

/-- One for a truth value is taken for what it says. -/
theorem taken_of_bool {name : String} {default b : Bool}
    (read : (Variables.ofTexts texts).bool name default = .ok b) :
    Taken texts name default (fun text b => Text.trimmed text = Text.truth b) b := by
  rcases Variables.read_eq_ok_iff.1 read with ⟨unset, rfl⟩ | ⟨text, set, spelled⟩
  · exact .unset (Variables.text?_ofTexts texts name ▸ unset)
  · refine .set (Variables.text?_ofTexts texts name ▸ set) (readBool_eq_some_iff.1 ?_)
    split at spelled
    · cases spelled
      assumption
    · cases spelled

/-- What is read from an account list is listed there. -/
theorem Accounts.listedIn_of_read {list : String} {a : Accounts} (read : ofString list = .ok a) :
    ListedIn list a := by
  rcases ofString_cases list with ⟨_, _, _, -, -, -, failed⟩ | ⟨sound, all⟩
  · cases failed.symm.trans read
  · cases all.symm.trans read
    refine ⟨sound, Unique.insertAll (a := empty) List.nodup_nil _, fun user => ?_⟩
    have nobody : empty.get? user = none := rfl
    rw [get?_insertAll, nobody, Option.or_none, List.filter_map, written, List.filter_filter,
      List.getLast?_map, Option.map_map]
    refine congrArg (fun pieces => (List.getLast? pieces).map passwordOf) ?_
    exact List.filter_congr fun piece _ => Bool.and_comm ..

/-- The list of accounts is taken for the accounts in it. -/
theorem taken_of_accounts {a : Accounts} (read : Accounts.ofString
      ((Variables.ofTexts texts).textOr "UI_ACCOUNTS" "") = .ok a) :
    Taken texts "UI_ACCOUNTS" Accounts.empty Accounts.ListedIn a := by
  rw [Variables.textOr, Variables.text?_ofTexts] at read
  cases set : texts "UI_ACCOUNTS" with
  | none =>
    rw [set] at read
    cases read
    exact .unset set
  | some list =>
    rw [set] at read
    exact .set set (Accounts.listedIn_of_read read)

/-- The users of a list that is read can be named in one. -/
theorem users_of_read {list : String} {a : Accounts} (read : Accounts.ofString list = .ok a) :
    ∀ account ∈ a.entries, IsTrimmed account.1 ∧ ',' ∉ account.1.toList ∧
      ':' ∉ account.1.toList := by
  intro account mem
  obtain ⟨piece, held, some, sound, rfl⟩ := Accounts.named_of_mem read mem
  have front : ∀ {c}, c ∈ (Accounts.userOf piece).toList →
      c ∈ piece.takeWhile fun c => c != ':' := by
    intro c mem
    rw [Accounts.userOf, String.toList_ofList] at mem
    exact Text.mem_of_mem_trim mem
  refine ⟨isTrimmed_ofList_trim fun none => sound ⟨some, .inr (Text.trim_eq_nil_iff.1 none)⟩,
    fun comma => ?_, fun colon => ?_⟩
  · exact Text.not_mem_of_mem_split held ((List.takeWhile_sublist _).mem (front comma))
  · exact bne_iff_ne.1 (List.mem_takeWhile_imp (p := fun c => c != ':') (front colon)) rfl

/-- An origin in a list is trimmed, and has no comma. -/
theorem origins_of_list {list : String} {origin : String} (mem : origin ∈ Server.originsOf list) :
    IsTrimmed origin ∧ ',' ∉ origin.toList := by
  obtain ⟨_, kept, rfl⟩ := List.mem_map.1 mem
  obtain ⟨cut, some⟩ := List.mem_filter.1 kept
  obtain ⟨piece, held, rfl⟩ := List.mem_map.1 cut
  refine ⟨isTrimmed_ofList_trim (bne_iff_ne.1 some), ?_⟩
  rw [String.toList_ofList]
  exact fun comma => Text.not_mem_of_mem_split held (Text.mem_of_mem_trim comma)

/-- A catalog that is read is the one that the variables name. -/
theorem named_of_catalogOf {c : Option Catalog}
    (read : Server.catalogOf (Variables.ofTexts texts) = .ok c) : Named texts c := by
  rw [Server.catalogOf, Variables.text?_ofTexts] at read
  cases set : texts "ONLINE_CATALOG_URL" with
  | none =>
    rw [set] at read
    cases read
    exact .unset set
  | some url =>
    rw [set] at read
    dsimp only at read
    split at read
    · cases read
      exact .blank set ‹_›
    · split at read
      · cases read
      · cases read
        exact .named set ‹_› (taken_of_nat ‹_›)

/-- The port is taken for the number that it shows. -/
theorem taken_of_portOf {port : Nat}
    (read : Server.portOf (Variables.ofTexts texts) = .ok port) :
    Taken texts "HEARTH_PORT" 49152
      (fun text port => IsNumber Number.max16 text.toList port) port := by
  rw [Server.portOf, Variables.text?_ofTexts] at read
  cases set : texts "HEARTH_PORT" with
  | none =>
    rw [set] at read
    cases read
    exact .unset set
  | some text =>
    rw [set] at read
    exact .set set (Number.readNat_eq_ok_iff.1 (mapError_eq_ok_iff.1 read))

/-- A text is taken for what is made of it. -/
theorem taken_of_text {α : Type} (f : String → α) (name default : String) :
    Taken texts name (f default) (fun text a => a = f text)
      (f ((Variables.ofTexts texts).textOr name default)) := by
  rw [Variables.textOr, Variables.text?_ofTexts]
  cases set : texts name with
  | none => exact .unset set
  | some text => exact .set set rfl

/-- The origins are taken for those of the list, if there is one. -/
theorem taken_of_origins : Taken texts "CORS_ORIGINS" none
    (fun text origins => origins = some (Server.originsOf text))
    (((Variables.ofTexts texts).text? "CORS_ORIGINS").map Server.originsOf) := by
  rw [Variables.text?_ofTexts]
  cases set : texts "CORS_ORIGINS" with
  | none => exact .unset set
  | some text => exact .set set rfl

/-! ## Accepted settings -/

/-- What a computation that gives a value has done. -/
theorem bind_eq_ok_iff {ε α β : Type} {x : Except ε α} {f : α → Except ε β} {b : β} :
    x >>= f = .ok b ↔ ∃ a, x = .ok a ∧ f a = .ok b := by
  cases x with
  | error e => exact ⟨nofun, nofun⟩
  | ok a => exact ⟨fun same => ⟨a, rfl, same⟩, fun ⟨_, same, rest⟩ => Except.ok.inj same ▸ rest⟩

namespace Ui

/-- Settings that break no rule have room and time, and accounts where they are required. -/
theorem conflict?_eq_none_iff {ui : Ui} : ui.conflict? = none ↔
    1 ≤ ui.maxUpdates ∧ 1 ≤ ui.sweepInterval ∧
      (ui.accountsEnabled = true → ui.accounts.entries ≠ []) := by
  unfold conflict?
  split_ifs with noCap noInterval nobody
  · exact ⟨nofun, fun all => by omega⟩
  · exact ⟨nofun, fun all => by omega⟩
  · rw [Bool.and_eq_true, Accounts.isEmpty, List.isEmpty_iff] at nobody
    exact ⟨nofun, fun all => absurd nobody.2 (all.2.2 nobody.1)⟩
  · rw [Bool.and_eq_true, Accounts.isEmpty, List.isEmpty_iff] at nobody
    exact ⟨fun _ => ⟨by omega, by omega, fun on none => nobody ⟨on, none⟩⟩, fun _ => rfl⟩

/-- Settings pass if nothing in them is in conflict. -/
theorem validate_eq_ok_iff {ui : Ui} : ui.validate = .ok () ↔ ui.conflict? = none := by
  unfold validate
  cases ui.conflict? with
  | none => exact ⟨fun _ => rfl, fun _ => rfl⟩
  | some c => exact ⟨nofun, nofun⟩

/-- Settings of the web interface as they are read from the variables. -/
structure IsRead (texts : String → Option String) (ui : Ui) : Prop where
  timeout : (Variables.ofTexts texts).nat Number.max64 "UI_SESSION_TIMEOUT" 1800 =
    .ok ui.sessionTimeout
  interval : (Variables.ofTexts texts).nat Number.max64 "UI_SESSION_SWEEP_INTERVAL" 60 =
    .ok ui.sweepInterval
  cap : (Variables.ofTexts texts).nat Number.max64 "UI_MAX_UPDATE_IDS" 10 = .ok ui.maxUpdates
  enabled : (Variables.ofTexts texts).bool "UI_ACCOUNTS_ENABLED" false = .ok ui.accountsEnabled
  accounts : Accounts.ofString ((Variables.ofTexts texts).textOr "UI_ACCOUNTS" "") =
    .ok ui.accounts
  /-- No rule is broken. -/
  rules : ui.conflict? = none

/-- **Settings that are accepted are what the variables say.** -/
theorem isRead_of_ofVariables {ui : Ui}
    (read : ofVariables (Variables.ofTexts texts) = .ok ui) : ui.IsRead texts := by
  unfold ofVariables at read
  obtain ⟨timeout, time, read⟩ := bind_eq_ok_iff.1 read
  obtain ⟨interval, gap, read⟩ := bind_eq_ok_iff.1 read
  obtain ⟨cap, most, read⟩ := bind_eq_ok_iff.1 read
  obtain ⟨enabled, on, read⟩ := bind_eq_ok_iff.1 read
  obtain ⟨accounts, listed, read⟩ := bind_eq_ok_iff.1 read
  obtain ⟨⟨⟩, valid, ⟨⟩⟩ := bind_eq_ok_iff.1 read
  exact ⟨time, gap, most, on, listed, validate_eq_ok_iff.1 valid⟩

end Ui

/-- **Accepted settings** are described by the variables and usable. -/
theorem described_and_usable {s : Server}
    (read : Server.ofVariables (Variables.ofTexts texts) = .ok s) :
    Described texts s ∧ Usable s := by
  unfold Server.ofVariables at read
  obtain ⟨ui, web, read⟩ := bind_eq_ok_iff.1 read
  obtain ⟨catalog, online, read⟩ := bind_eq_ok_iff.1 read
  obtain ⟨port, port', ⟨⟩⟩ := bind_eq_ok_iff.1 read
  have web := Ui.isRead_of_ofVariables (mapError_eq_ok_iff.1 web)
  have named := named_of_catalogOf online
  obtain ⟨cap, interval, accounts⟩ := Ui.conflict?_eq_none_iff.1 web.rules
  constructor
  · exact {
      library := taken_of_text Path.ofString _ _
      stage := taken_of_text Stage.ofString _ "development"
      timeout := taken_of_nat web.timeout
      interval := taken_of_nat web.interval
      cap := taken_of_nat web.cap
      enabled := taken_of_bool web.enabled
      accounts := taken_of_accounts web.accounts
      port := taken_of_portOf port'
      origins := taken_of_origins
      catalog := named }
  · refine ⟨cap, interval, accounts, users_of_read web.accounts, fun list same => ?_,
      fun c same => ?_⟩
    · obtain ⟨text, -, rfl⟩ := Option.map_eq_some_iff.1 same
      exact fun origin => origins_of_list
    · cases same
      cases named with
      | named set filled refresh =>
        exact ⟨filled, Text.trimmed_trimmed _⟩

/-- Usable settings are taken as they are, and nothing is reported about them. -/
theorem Usable.unchanged {s : Server} (usable : Usable s) (ids : Session.Candidates) (h : Home) :
    (Session.Registry.ofSettings s.ui ids).ui = s.ui ∧ (h.openRegistry s.ui ids).log = h.log := by
  constructor
  · rw [Session.Registry.ofSettings, Nat.max_eq_left usable.cap, Nat.max_eq_left usable.interval]
  · have silent : s.ui.conflict? = none :=
      Ui.conflict?_eq_none_iff.2 ⟨usable.cap, usable.interval, usable.accounts⟩
    rw [Home.openRegistry, silent]
    exact List.append_nil _

/-- **Which settings are accepted, which fault is reported, and what accepted settings are.**
Settings are refused iff one of the checks fails, and it is the first of them that is reported.
Accepted settings are described by the variables, each by its own, and are usable; a registry of
sessions is opened with them unchanged and without a word. -/
theorem accepted_or_reported (texts : String → Option String) :
    let answer := Server.ofVariables (Variables.ofTexts texts)
    ((∃ r, answer = .error r) ↔ ∃ check ∈ Check.order, ∃ r, Check.Fails texts check r) ∧
    (∀ r, answer = .error r ↔ Check.FirstFails texts Check.order r) ∧
    ∀ s, answer = .ok s → Described texts s ∧ Usable s ∧
      ∀ (ids : Session.Candidates) (h : Home),
        (Session.Registry.ofSettings s.ui ids).ui = s.ui ∧
          (h.openRegistry s.ui ids).log = h.log := by
  intro answer
  refine ⟨?_, reports_ofVariables, fun s read => ?_⟩
  · rw [← exists_firstFails_iff]
    exact exists_congr reports_ofVariables
  · obtain ⟨described, usable⟩ := described_and_usable read
    exact ⟨described, usable, usable.unchanged⟩

/-- The settings of a household are accepted. Of a faulty account list, a cap of zero and a port
with a blank behind it, the account list is reported. -/
theorem accepted_or_reported_household :
    let texts := fun name => [("UI_ACCOUNTS_ENABLED", " true "), ("UI_ACCOUNTS", " ann :p:w,"),
      ("HEARTH_PORT", "+80"), ("ONLINE_CATALOG_URL", " http://c.lan ")].lookup name
    let faulty := fun name => [("UI_MAX_UPDATE_IDS", "0"), ("UI_ACCOUNTS", "ann"),
      ("HEARTH_PORT", "80 ")].lookup name
    (∃ s, Server.ofVariables (Variables.ofTexts texts) = .ok s ∧ Described texts s ∧ Usable s ∧
      s.port = 80 ∧ s.catalog = some ⟨"http://c.lan", 3600⟩) ∧
    Check.FirstFails faulty Check.order (.ui (.invalidAccount "ann")) := by
  intro texts faulty
  have read : Server.ofVariables (Variables.ofTexts texts) = .ok {
      library := Path.ofString "/media", stage := .development, port := 80, origins := none
      catalog := some ⟨"http://c.lan", 3600⟩
      ui := { accountsEnabled := true, accounts := ⟨[("ann", "p:w")]⟩ } } := by decide +kernel
  have refused : Server.ofVariables (Variables.ofTexts faulty) =
      .error (.ui (.invalidAccount "ann")) := by decide +kernel
  obtain ⟨-, -, all⟩ := accepted_or_reported texts
  obtain ⟨described, usable, -⟩ := all _ read
  exact ⟨⟨_, read, described, usable, rfl, rfl⟩,
    ((accepted_or_reported faulty).2.1 _).1 refused⟩

end Settings
end HomeMedia
