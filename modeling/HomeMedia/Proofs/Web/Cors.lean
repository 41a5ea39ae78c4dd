import HomeMedia.Proofs.Text.Utf8
import HomeMedia.Settings.Server
import HomeMedia.Web.Cors
/-!
# Which origin an answer names

By the settings of a server nobody, some origins or everybody may call (`ofSettings_cases`). What an
answer then tells the browser is up to a *layer* that is only known by its documentation
(`Documented`): it names the origin of the request if that is one of those that may call, nobody for
nobody, and the wildcard for everybody. The headers of this library are such a layer
(`documented_headers`).

Once an origin is listed, an answer names the origin of its request iff that is listed and can stand
in a header. Without a list nobody is named in production, and the wildcard elsewhere
(`allowed_iff_listed`).
-/

namespace HomeMedia

/-- Different texts have different bytes. -/
theorem Text.Utf8.ofString_injective : Function.Injective Text.Utf8.ofString := by
  intro s t same
  have read := congrArg Text.Utf8.toString? same
  rw [Text.Utf8.ofString, Text.Utf8.ofString, Text.Utf8.toString?_encode,
    Text.Utf8.toString?_encode, String.ofList_toList, String.ofList_toList] at read
  exact Option.some.inj read

namespace Web
namespace Cors

open Text (Bytes)

/-! ## Layers -/

/-- The headers of an answer about who may call, by the method and the origin of the request. -/
abbrev Layer := Cors → String → Option Bytes → List (String × Bytes)

/-- The origins that headers name as allowed. -/
def allowed (headers : List (String × Bytes)) : List Bytes :=
  (headers.filter fun header => header.1 == "access-control-allow-origin").map Prod.snd

/-- What is documented of a layer. -/
structure Documented (layer : Layer) : Prop where
  /-- If nobody may call, no origin is named. -/
  nobody : ∀ method origin, allowed (layer .nobody method origin) = []
  /-- If everybody may call, the wildcard is named. -/
  everybody : ∀ method origin, allowed (layer .everybody method origin) = [[42]]
  /-- An origin that may call is named. -/
  listed : ∀ {origins : List Bytes} (method) {origin}, origin ∈ origins →
    allowed (layer (.only origins) method (some origin)) = [origin]
  /-- Another origin is not. -/
  unlisted : ∀ {origins : List Bytes} (method) {origin}, origin ∉ origins →
    allowed (layer (.only origins) method (some origin)) = []
  /-- A request without an origin gets no name. -/
  unknown : ∀ origins method, allowed (layer (.only origins) method none) = []

/-- The origins that are allowed by headers are those allowed by each of them. -/
theorem allowed_append (headers more : List (String × Bytes)) :
    allowed (headers ++ more) = allowed headers ++ allowed more := by
  rw [allowed, List.filter_append, List.map_append]
  rfl

/-- The other headers name no origin. -/
theorem allowed_headers (policy : Cors) (method : String) (origin : Option Bytes) :
    allowed (policy.headers method origin) = allowed (policy.allowOrigin origin) := by
  have others : allowed ((if answersAlone method then policy.preflight else policy.exposed).map
      fun header => (header.1, Text.Utf8.ofString header.2)) = [] := by
    cases answersAlone method <;> cases policy <;> rfl
  rw [headers, allowed_append]
  exact (congrArg _ others).trans (List.append_nil _)

/-- **The headers are as they are documented.** -/
theorem documented_headers : Documented headers where
  nobody method origin := allowed_headers .nobody method origin
  everybody method origin := allowed_headers .everybody method origin
  listed {origins} method {origin} mem := by
    rw [allowed_headers, allowOrigin]
    dsimp only
    rw [if_pos (List.contains_iff_mem.2 mem)]
    rfl
  unlisted {origins} method {origin} absent := by
    rw [allowed_headers, allowOrigin]
    dsimp only
    rw [if_neg fun held => absent (List.contains_iff_mem.1 held)]
    rfl
  unknown origins method := allowed_headers (.only origins) method none

/-! ## The settings -/

/-- The origins that can stand in a header may call. -/
theorem mem_usable_iff {origins : List String} {value : Bytes} : value ∈ usable origins ↔
    isHeaderValue value = true ∧ ∃ listed ∈ origins, value = Text.Utf8.ofString listed := by
  rw [usable, List.mem_filter, List.mem_map, and_comm]
  simp only [eq_comm]

/-- Only the star has the bytes of the wildcard. -/
theorem ofString_eq_wildcard {s : String} : Text.Utf8.ofString s = [42] ↔ s = "*" := by
  have star : Text.Utf8.ofString "*" = [42] := by decide
  rw [← star]
  exact Text.Utf8.ofString_injective.eq_iff

/-- A list without the star has no usable origin that is the wildcard. -/
theorem wildcard_not_mem_usable {origins : List String} (plain : "*" ∉ origins) :
    [42] ∉ usable origins := by
  intro mem
  obtain ⟨-, listed, held, same⟩ := mem_usable_iff.1 mem
  exact plain (ofString_eq_wildcard.1 same.symm ▸ held)

/-- **Who may call by the settings.** -/
theorem ofSettings_cases (isProduction : Bool) {origins : Option (List String)}
    (plain : "*" ∉ origins.getD []) :
    (origins.getD [] = [] ∧
      (ofSettings isProduction origins).1 = .ok (if isProduction then .nobody else .everybody)) ∨
    (origins.getD [] ≠ [] ∧ usable (origins.getD []) = [] ∧
      (ofSettings isProduction origins).1 = .ok .nobody) ∨
    (origins.getD [] ≠ [] ∧
      (ofSettings isProduction origins).1 = .ok (.only (usable (origins.getD [])))) := by
  unfold ofSettings
  split
  · rename_i none
    refine .inl ⟨none, ?_⟩
    cases isProduction <;> rfl
  · rename_i some
    dsimp only
    split
    · rename_i unusable
      exact .inr (.inl ⟨some, unusable, rfl⟩)
    · rw [if_neg fun held =>
        wildcard_not_mem_usable plain (List.contains_iff_mem.1 held)]
      exact .inr (.inr ⟨some, rfl⟩)

/-- An answer names the origin of its request iff that is listed, byte for byte, and can stand in a
header; it names no other. -/
structure Guarded (list : List String) (origin : Option Bytes) (named : List Bytes) : Prop where
  own : ∀ value, named = [value] ↔ origin = some value ∧ isHeaderValue value = true ∧
    ∃ listed ∈ list, value = Text.Utf8.ofString listed
  single : named = [] ∨ ∃ value, named = [value]

namespace Guarded

variable {list : List String} {origin : Option Bytes} {named : List Bytes}

/-- Only listed origins are named. -/
theorem listed (guarded : Guarded list origin named) :
    ∀ value ∈ named, ∃ listed ∈ list, value = Text.Utf8.ofString listed := by
  intro value mem
  rcases guarded.single with rfl | ⟨other, rfl⟩
  · cases mem
  · cases List.mem_singleton.1 mem
    exact ((guarded.own value).1 rfl).2.2

/-- A list without the wildcard names nobody by it. -/
theorem wildcard_not_mem (guarded : Guarded list origin named) (plain : "*" ∉ list) :
    [42] ∉ named := by
  intro mem
  obtain ⟨listed, held, same⟩ := guarded.listed _ mem
  exact plain (ofString_eq_wildcard.1 same.symm ▸ held)

end Guarded

/-- **The listed origins that can stand in a header are named**, each in answer to its own
requests. -/
theorem guarded_of_only {layer : Layer} (documented : Documented layer) (list : List String)
    (method : String) (origin : Option Bytes) :
    Guarded list origin (allowed (layer (.only (usable list)) method origin)) := by
  cases origin with
  | none =>
    rw [documented.unknown]
    exact ⟨fun value => ⟨nofun, nofun⟩, .inl rfl⟩
  | some origin =>
    by_cases mem : origin ∈ usable list
    · rw [documented.listed method mem]
      refine ⟨fun value => ⟨?_, ?_⟩, .inr ⟨origin, rfl⟩⟩
      · rintro ⟨⟩
        exact ⟨rfl, mem_usable_iff.1 mem⟩
      · rintro ⟨⟨⟩, -⟩
        rfl
    · rw [documented.unlisted method mem]
      refine ⟨fun value => ⟨nofun, ?_⟩, .inl rfl⟩
      rintro ⟨⟨⟩, held⟩
      exact absurd (mem_usable_iff.2 held) mem

/-- A list of origins that cannot stand in a header names nobody. -/
theorem guarded_of_nobody {layer : Layer} (documented : Documented layer) {list : List String}
    (unusable : usable list = []) (method : String) (origin : Option Bytes) :
    Guarded list origin (allowed (layer .nobody method origin)) := by
  rw [documented.nobody]
  refine ⟨fun value => ⟨nofun, ?_⟩, .inl rfl⟩
  rintro ⟨-, held⟩
  cases unusable ▸ mem_usable_iff.2 held

/-- **Which origin an answer names.**  The settings always make a policy, unless they list the
wildcard. If origins are listed, an answer names an origin iff it is that of the request, is listed
byte for byte and can stand in a header; it names no other, and never everybody, even if no origin
on the list can stand in a header. If no origin is listed, an answer names nobody in production and
everybody elsewhere. So in production only listed origins are ever named. -/
theorem allowed_iff_listed (s : Settings.Server) (plain : "*" ∉ s.origins.getD []) {layer : Layer}
    (documented : Documented layer) :
    ∃ policy, (ofSettings s.stage.isProduction s.origins).1 = .ok policy ∧
      ∀ (method : String) (origin : Option Bytes),
        let named := allowed (layer policy method origin)
        (s.origins.getD [] ≠ [] → Guarded (s.origins.getD []) origin named ∧ [42] ∉ named) ∧
        (s.origins.getD [] = [] → named = if s.stage.isProduction then [] else [[42]]) ∧
        (s.stage.isProduction = true → ∀ value ∈ named,
          ∃ listed ∈ s.origins.getD [], value = Text.Utf8.ofString listed) := by
  rcases ofSettings_cases s.stage.isProduction plain with
    ⟨none, policy⟩ | ⟨some, unusable, policy⟩ | ⟨some, policy⟩
  · refine ⟨_, policy, fun method origin => ⟨fun some => absurd none some, fun _ => ?_, ?_⟩⟩
    · cases s.stage.isProduction with
      | true => exact documented.nobody method origin
      | false => exact documented.everybody method origin
    · intro production value mem
      rw [production, if_pos rfl, documented.nobody] at mem
      cases mem
  · refine ⟨_, policy, fun method origin => ?_⟩
    have guarded := guarded_of_nobody documented unusable method origin
    exact ⟨fun _ => ⟨guarded, guarded.wildcard_not_mem plain⟩, fun none => absurd none some,
      fun _ => guarded.listed⟩
  · refine ⟨_, policy, fun method origin => ?_⟩
    have guarded := guarded_of_only documented (s.origins.getD []) method origin
    exact ⟨fun _ => ⟨guarded, guarded.wildcard_not_mem plain⟩, fun none => absurd none some,
      fun _ => guarded.listed⟩

/-- In production, of two listed origins the one that can stand in a header is named to itself, and
nobody else is named. -/
theorem allowed_iff_listed_production :
    let s : Settings.Server := {
      library := Path.ofString "/media", stage := .production, ui := {}, port := 49152
      origins := some ["http://a.lan", "http://b\x7f.lan"], catalog := none }
    "*" ∉ s.origins.getD [] ∧ Documented headers ∧
      ∃ policy, (ofSettings s.stage.isProduction s.origins).1 = .ok policy ∧
        allowed (policy.headers "GET" (some (Text.Utf8.ofString "http://a.lan"))) =
          [Text.Utf8.ofString "http://a.lan"] ∧
        ∀ method, [42] ∉ allowed (policy.headers method (some [42])) := by
  intro s
  have plain : "*" ∉ s.origins.getD [] := by decide
  obtain ⟨policy, chosen, named⟩ := allowed_iff_listed s plain documented_headers
  have some : s.origins.getD [] ≠ [] := List.cons_ne_nil _ _
  refine ⟨plain, documented_headers, policy, chosen, ?_, fun method => ?_⟩
  · exact (((named "GET" _).1 some).1.own _).2
      ⟨rfl, by decide, "http://a.lan", List.mem_cons_self .., rfl⟩
  · exact ((named method _).1 some).2

end Cors
end Web
end HomeMedia
