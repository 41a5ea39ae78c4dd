import HomeMedia.Proofs.Session.Entering
import HomeMedia.Proofs.Settings.Accepted
/-!
# Who may log in by the settings

A variable whose bytes are no text counts as unset (`ofVariables_ofTexts`). So whether a login needs
an account depends on the text of `UI_ACCOUNTS_ENABLED` alone. A text that is no truth value is
refused, and once the text is not `false`, exactly the accounts of the list may log in
(`login_needs_account`). Everybody may log in where the variable is not set, says `false`, or is no
text: in this last case access is open although something else than `false` was written
(`unreadable_opens`).
-/

namespace HomeMedia
namespace Settings

variable {vars : Variables}

/-- **Bytes that are no text count for nothing:** only texts are read. -/
theorem ofVariables_ofTexts (vars : Variables) :
    Server.ofVariables (Variables.ofTexts vars.text?) = Server.ofVariables vars := by
  have number : Variables.nat Number.max64 (Variables.ofTexts vars.text?) =
      Variables.nat Number.max64 vars := by
    funext name default
    simp only [Variables.nat, Variables.read, Variables.text?_ofTexts]
  have truth : (Variables.ofTexts vars.text?).bool = vars.bool := by
    funext name default
    simp only [Variables.bool, Variables.read, Variables.text?_ofTexts]
  simp only [Server.ofVariables, Ui.ofVariables, Server.catalogOf, Server.portOf,
    Variables.textOr, Variables.text?_ofTexts, number, truth]

/-- The settings of variables of which some may be no texts. -/
theorem described_and_usable_of_texts {s : Server} (read : Server.ofVariables vars = .ok s) :
    Described vars.text? s ∧ Usable s :=
  described_and_usable ((ofVariables_ofTexts vars).trans read)

/-- **Accounts are required** iff `true` is written. -/
theorem accountsEnabled_iff {s : Server} (described : Described vars.text? s) :
    s.ui.accountsEnabled = true ↔
      ∃ text, vars.text? "UI_ACCOUNTS_ENABLED" = some text ∧ Text.trimmed text = "true" := by
  cases set : vars.text? "UI_ACCOUNTS_ENABLED" with
  | none =>
    rw [described.enabled.of_unset set]
    exact ⟨nofun, fun ⟨_, same, _⟩ => nomatch same⟩
  | some text =>
    have meant := described.enabled.of_set set
    constructor
    · intro on
      rw [on] at meant
      exact ⟨text, rfl, meant⟩
    · rintro ⟨_, ⟨⟩, on⟩
      cases enabled : s.ui.accountsEnabled with
      | true => rfl
      | false =>
        rw [enabled] at meant
        exact absurd (on.symm.trans meant) (by decide)

/-- A text that is no truth value is refused. -/
theorem refused_of_neither {text : String}
    (set : vars.text? "UI_ACCOUNTS_ENABLED" = some text)
    (neither : Text.trimmed text ≠ "true" ∧ Text.trimmed text ≠ "false") :
    ∃ r, Server.ofVariables vars = .error r := by
  cases read : Server.ofVariables vars with
  | error r => exact ⟨r, rfl⟩
  | ok s =>
    have meant := (described_and_usable_of_texts read).1.enabled.of_set set
    cases enabled : s.ui.accountsEnabled with
    | true => exact absurd (meant.trans (congrArg Text.truth enabled)) neither.1
    | false => exact absurd (meant.trans (congrArg Text.truth enabled)) neither.2

/-- Where accounts are required, there are some, and they come from a list. -/
theorem exists_list_of_enabled {s : Server} (described : Described vars.text? s)
    (usable : Usable s) (enabled : s.ui.accountsEnabled = true) :
    s.ui.accounts.entries ≠ [] ∧
      ∃ list, vars.text? "UI_ACCOUNTS" = some list ∧ Accounts.ListedIn list s.ui.accounts := by
  have filled := usable.accounts enabled
  refine ⟨filled, ?_⟩
  cases set : vars.text? "UI_ACCOUNTS" with
  | none =>
    rw [described.accounts.of_unset set] at filled
    exact absurd rfl filled
  | some list => exact ⟨list, rfl, described.accounts.of_set set⟩

/-- Not every password is right for a user whose account is required. -/
theorem exists_refused {r : Session.Registry} (enabled : r.ui.accountsEnabled = true) :
    ∃ user password, r.accepts user password = false := by
  by_contra all
  simp only [not_exists, Bool.not_eq_false, Session.Registry.accepts_iff, enabled,
    Bool.true_eq_false, false_or] at all
  exact absurd ((all "" "").symm.trans (all "" " ")) (by decide)

/-- **Who may log in by the settings.**  If the text of `UI_ACCOUNTS_ENABLED` is not `false`, then
the settings are refused, or accounts are required: some are listed, and exactly these may log in. A
text that is no truth value is always refused. By settings that are accepted everybody may log in
iff no other text than `false` is written; bytes that are no text do not count as one. -/
theorem login_needs_account (vars : Variables) :
    (∀ text, vars.text? "UI_ACCOUNTS_ENABLED" = some text →
      Text.trimmed text ≠ "true" ∧ Text.trimmed text ≠ "false" →
      ∃ r, Server.ofVariables vars = .error r) ∧
    ∀ s, Server.ofVariables vars = .ok s → ∀ ids : Session.Candidates,
      (∀ text, vars.text? "UI_ACCOUNTS_ENABLED" = some text → Text.trimmed text ≠ "false" →
        (s.ui.accounts.entries ≠ [] ∧ ∃ list, vars.text? "UI_ACCOUNTS" = some list ∧
          Accounts.ListedIn list s.ui.accounts) ∧
        ∀ user password, (Session.Registry.ofSettings s.ui ids).accepts user password = true ↔
          s.ui.accounts.get? user = some password) ∧
      ((∀ user password, (Session.Registry.ofSettings s.ui ids).accepts user password = true) ↔
        ∀ text, vars.text? "UI_ACCOUNTS_ENABLED" = some text → Text.trimmed text = "false") := by
  refine ⟨fun text set neither => refused_of_neither set neither, fun s read ids => ?_⟩
  obtain ⟨described, usable⟩ := described_and_usable_of_texts read
  have enabled_of_other : ∀ text, vars.text? "UI_ACCOUNTS_ENABLED" = some text →
      Text.trimmed text ≠ "false" → s.ui.accountsEnabled = true := by
    intro text set other
    refine (accountsEnabled_iff described).2 ⟨text, set, ?_⟩
    by_contra neither
    obtain ⟨r, failed⟩ := refused_of_neither set ⟨neither, other⟩
    cases failed.symm.trans read
  refine ⟨fun text set other => ?_, fun all text set => ?_, fun off user password => ?_⟩
  · have enabled := enabled_of_other text set other
    refine ⟨exists_list_of_enabled described usable enabled, fun user password => ?_⟩
    rw [Session.Registry.accepts_iff]
    exact or_iff_right fun off => nomatch enabled.symm.trans off
  · by_contra other
    obtain ⟨user, password, refused⟩ :=
      exists_refused (r := Session.Registry.ofSettings s.ui ids) (enabled_of_other text set other)
    cases refused.symm.trans (all user password)
  · refine Session.Registry.accepts_iff.2 (.inl ?_)
    rw [← Bool.not_eq_true]
    intro enabled
    obtain ⟨text, set, on⟩ := (accountsEnabled_iff described).1 enabled
    exact absurd (on.symm.trans (off text set)) (by decide)

/-- By the settings of a household ann may log in with her password only; `yes` is refused. -/
theorem login_needs_account_household :
    let vars : Variables := .ofTexts fun name =>
      [("UI_ACCOUNTS_ENABLED", " true"), ("UI_ACCOUNTS", "ann:x")].lookup name
    let unclear : Variables := .ofTexts fun name =>
      [("UI_ACCOUNTS_ENABLED", "yes"), ("UI_ACCOUNTS", "ann:x")].lookup name
    (∃ s, Server.ofVariables vars = .ok s ∧ ∀ ids : Session.Candidates, ∀ user password,
      (Session.Registry.ofSettings s.ui ids).accepts user password = true ↔
        s.ui.accounts.get? user = some password) ∧
    ∃ r, Server.ofVariables unclear = .error r := by
  intro vars unclear
  have read : Server.ofVariables vars = .ok {
      library := Path.ofString "/media", stage := .development, port := 49152, origins := none
      catalog := none
      ui := { accountsEnabled := true, accounts := ⟨[("ann", "x")]⟩ } } := by decide +kernel
  have set : vars.text? "UI_ACCOUNTS_ENABLED" = some " true" := by decide +kernel
  have unset : unclear.text? "UI_ACCOUNTS_ENABLED" = some "yes" := by decide +kernel
  exact ⟨⟨_, read, fun ids =>
      (((login_needs_account vars).2 _ read ids).1 _ set (by decide)).2⟩,
    (login_needs_account unclear).1 _ unset (by decide)⟩

/-- **A value that is no text leaves the server open**, whatever accounts are listed. -/
theorem unreadable_opens :
    let vars := (Variables.ofTexts fun name => [("UI_ACCOUNTS", "ann:x")].lookup name).set
      "UI_ACCOUNTS_ENABLED" [0xFF]
    Text.Utf8.toString? [0xFF] = none ∧ ∃ s, Server.ofVariables vars = .ok s ∧
      s.ui.accounts.get? "eve" = none ∧ ∀ (ids : Session.Candidates) (user password : String),
        (Session.Registry.ofSettings s.ui ids).accepts user password = true := by
  intro vars
  have read : Server.ofVariables vars = .ok {
      library := Path.ofString "/media", stage := .development, port := 49152, origins := none
      catalog := none, ui := { accounts := ⟨[("ann", "x")]⟩ } } := by decide +kernel
  exact ⟨by decide, _, read, by decide, fun ids user password =>
    Session.Registry.accepts_iff.2 (.inl rfl)⟩

end Settings
end HomeMedia
