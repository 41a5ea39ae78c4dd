import HomeMedia.Proofs.Text.Utf8
import HomeMedia.Web.Request
/-!
# Which session a request shows

A header value that can be seen consists of ASCII characters, one to a byte, and is read as those
(`visible?_eq_some_iff`). So a request shows a session id iff the first value of its header can be
seen and holds something besides blanks, and the id is what is left without the blanks around it
(`sessionId?_eq_some_iff`).
-/

namespace HomeMedia

namespace Text.Utf8

/-- The characters of ASCII bytes, one to a byte. -/
def ascii (bytes : Bytes) : List Char := bytes.map fun b => Char.ofNat b.toNat

variable {bytes : Bytes}

/-- A byte below 128 is a character. -/
theorem first_of_lt {b : UInt8} (low : b.toNat < 128) (rest : Bytes) :
    first b rest = (some (Char.ofNat b.toNat), rest) := by
  simp [first, lead, low, tails]

/-- ASCII bytes are read one by one. -/
theorem readUpTo_ascii (low : ∀ b ∈ bytes, b.toNat < 128) :
    readUpTo bytes.length bytes = (ascii bytes).map some := by
  induction bytes with
  | nil => rfl
  | cons b rest ih =>
    obtain ⟨lowFirst, lowRest⟩ := List.forall_mem_cons.1 low
    rw [List.length_cons, readUpTo, first_of_lt lowFirst]
    dsimp only
    rw [ih lowRest]
    rfl

/-- **ASCII bytes spell their characters.** -/
theorem decode?_ascii (low : ∀ b ∈ bytes, b.toNat < 128) : decode? bytes = some (ascii bytes) :=
  decode?_of_read (readUpTo_ascii low)

end Text.Utf8

namespace Web.Request

open Text (Bytes)

variable {value : Bytes} {r : Request}

/-- A visible byte is below 128. -/
theorem lt_of_isVisible {b : UInt8} (visible : isVisible b = true) : b.toNat < 128 := by
  simp only [isVisible, Bool.or_eq_true, Bool.and_eq_true, decide_eq_true_eq, beq_iff_eq] at visible
  rcases visible with ⟨-, high⟩ | rfl
  · exact Nat.lt_succ_of_lt (UInt8.lt_iff_toNat_lt.1 high)
  · decide

/-- **A value that can be seen is read byte by byte.** -/
theorem visible?_eq_some_iff {text : String} : visible? value = some text ↔
    (∀ b ∈ value, isVisible b = true) ∧ text = String.ofList (Text.Utf8.ascii value) := by
  unfold visible?
  by_cases visible : ∀ b ∈ value, isVisible b = true
  · rw [if_pos (List.all_eq_true.2 visible), Text.Utf8.toString?,
      Text.Utf8.decode?_ascii fun b mem => lt_of_isVisible (visible b mem), Option.map_some,
      Option.some_inj]
    exact ⟨fun same => ⟨visible, same.symm⟩, fun same => same.2.symm⟩
  · rw [if_neg (mt List.all_eq_true.1 visible)]
    exact ⟨nofun, fun shown => absurd shown.1 visible⟩

/-- **Which session a request shows.** -/
theorem sessionId?_eq_some_iff {id : String} : r.sessionId? = some id ↔
    ∃ value, r.sessions.head? = some value ∧ (∀ b ∈ value, isVisible b = true) ∧
      id = Text.trimmed (String.ofList (Text.Utf8.ascii value)) ∧ id ≠ "" := by
  unfold sessionId?
  constructor
  · intro shown
    split at shown
    · cases shown
    · rename_i text found
      obtain ⟨value, head, seen⟩ := Option.bind_eq_some_iff.1 found
      obtain ⟨visible, rfl⟩ := visible?_eq_some_iff.1 seen
      dsimp only at shown
      split at shown
      · cases shown
      · rename_i filled
        cases shown
        exact ⟨value, head, visible, rfl, filled⟩
  · rintro ⟨value, head, visible, rfl, filled⟩
    rw [head, Option.bind_some, visible?_eq_some_iff.2 ⟨visible, rfl⟩]
    exact if_neg filled

end Web.Request
end HomeMedia
