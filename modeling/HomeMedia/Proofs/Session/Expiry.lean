import HomeMedia.Proofs.Session.Sweeping
/-!
# Which sessions are idle for too long

A session is swept when it has been idle for longer than its timeout. Both times are counted in
milliseconds and count at most as the greatest signed 64-bit number (`isExpiredAt_iff_capped`). Up
to that number this is the comparison of the exact times. It is also what comes of multiplying,
converting and subtracting words of 64 bits, each step of which stops at the end of its range
(`isExpiredAt_eq_inWords`): the lower end is never the answer, for no timeout is negative.

Who is idle for too long stays so as time goes on (`isExpiredAt_of_later`). So a later sweep makes
an earlier one superfluous: the same sessions are left (`sweep_sweep`), each of the others is
counted by one of the two (`length_expired_add`), and what becomes of the subscription of the
registry depends on the sessions that are left (`registry_sweep`, `timer_sweep`).
-/

namespace HomeMedia

/-! ## Words of 64 bits -/

namespace Number

/-- The product of two unsigned words, or the greatest one. -/
def saturatingMul (a b : UInt64) : UInt64 :=
  if a.toNat * b.toNat ≤ max64 then a * b else UInt64.ofNat max64

/-- An unsigned word as a signed one, or the greatest one. -/
def toSignedOrMax (a : UInt64) : Int64 := if a.toNat ≤ maxSigned64 then a.toInt64 else .maxValue

/-- The difference of two signed words, or the end of the range that is nearer to it. -/
def saturatingSub (a b : Int64) : Int64 :=
  if a.toInt - b.toInt < Int64.minValue.toInt then .minValue
  else if Int64.maxValue.toInt < a.toInt - b.toInt then .maxValue
  else a - b

/-- The saturating product is the product, capped at the greatest word. -/
theorem toNat_saturatingMul (a b : UInt64) :
    (saturatingMul a b).toNat = min (a.toNat * b.toNat) max64 := by
  unfold saturatingMul
  split
  · rename_i small
    rw [UInt64.toNat_mul, Nat.min_eq_left small]
    exact Nat.mod_eq_of_lt (Nat.lt_succ_of_le small)
  · rename_i large
    rw [Nat.min_eq_right (Nat.le_of_not_le large)]
    rfl

/-- An unsigned word is taken for its value, capped at the greatest signed one. -/
theorem toInt_toSignedOrMax (a : UInt64) :
    (toSignedOrMax a).toInt = min (a.toNat : Int) maxSigned64 := by
  unfold toSignedOrMax
  split
  · rename_i small
    have below : 2 * a.toBitVec.toNat < 2 ^ 64 := by
      rw [UInt64.toNat_toBitVec]
      simp only [maxSigned64] at small
      omega
    rw [Int.min_eq_left (Int.ofNat_le.2 small), ← Int64.toInt_toBitVec, UInt64.toBitVec_toInt64,
      BitVec.toInt_eq_toNat_of_lt below, UInt64.toNat_toBitVec]
  · rename_i large
    rw [Int.min_eq_right (Int.ofNat_le.2 (Nat.le_of_not_le large))]
    decide

/-- The saturating difference is the difference, held within the range of signed words. -/
theorem toInt_saturatingSub (a b : Int64) :
    (saturatingSub a b).toInt = clampSigned64 (a.toInt - b.toInt) := by
  have least : Int64.minValue.toInt = -9223372036854775808 := by decide
  have greatest : Int64.maxValue.toInt = 9223372036854775807 := by decide
  unfold saturatingSub
  split
  · simp only [clampSigned64, maxSigned64, Int.ofNat_eq_natCast]
    omega
  · split
    · simp only [clampSigned64, maxSigned64, Int.ofNat_eq_natCast]
      omega
    · have inside : (a - b).toInt = a.toInt - b.toInt := by
        rw [Int64.toInt_sub]
        exact Int.bmod_eq_of_le (by omega) (by omega)
      rw [inside]
      simp only [clampSigned64, maxSigned64, Int.ofNat_eq_natCast]
      omega

end Number

/-! ## One session -/

namespace Session

variable {s : Session}

/-- Whether a session has been idle for longer than its timeout, worked out in words. -/
def isExpiredInWords (now lastAccess : Int64) (timeout : UInt64) : Bool :=
  Number.toSignedOrMax (Number.saturatingMul timeout 1000) < Number.saturatingSub now lastAccess

/-- The time at which a session was last active and its timeout fit into words. -/
structure FitsWords (s : Session) : Prop where
  /-- No timeout is greater than an unsigned word. -/
  timeout : s.timeout ≤ Number.max64
  /-- The time is not before the first that a signed word can say. -/
  first : -(Number.maxSigned64 : Int) - 1 ≤ s.lastAccess
  /-- Nor is it after the last. -/
  last : s.lastAccess ≤ Number.maxSigned64

/-- Times that are too long count as the greatest one. -/
theorem isExpiredAt_iff_capped {now : Int} : s.isExpiredAt now = true ↔
    min (1000 * (s.timeout : Int)) Number.maxSigned64 <
      min (now - s.lastAccess) Number.maxSigned64 := by
  refine decide_eq_true_iff.trans ?_
  simp only [Number.clampSigned64, Number.maxSigned64, Int.ofNat_eq_natCast]
  omega

/-- As long as the idle time is not too long itself, nothing is cut off. -/
theorem isExpiredAt_iff_exact {now : Int} (near : now - s.lastAccess ≤ Number.maxSigned64) :
    s.isExpiredAt now = true ↔ 1000 * (s.timeout : Int) < now - s.lastAccess := by
  rw [isExpiredAt_iff_capped, Int.min_eq_left near]
  omega

/-- Who is idle for too long stays so. -/
theorem isExpiredAt_of_later {first last : Int} (later : first ≤ last)
    (expired : s.isExpiredAt first = true) : s.isExpiredAt last = true := by
  rw [isExpiredAt_iff_capped] at expired ⊢
  have longer : first - s.lastAccess ≤ last - s.lastAccess := Int.sub_le_sub_right later _
  omega

/-- **Words of 64 bits are wide enough.** -/
theorem isExpiredAt_eq_inWords (fits : FitsWords s) (now : Int64) :
    s.isExpiredAt now.toInt =
      isExpiredInWords now (.ofInt s.lastAccess) (.ofNat s.timeout) := by
  have timeout : (UInt64.ofNat s.timeout).toNat = s.timeout :=
    UInt64.toNat_ofNat_of_lt' (Nat.lt_succ_of_le fits.timeout)
  have access : (Int64.ofInt s.lastAccess).toInt = s.lastAccess := by
    have first := fits.first
    have last := fits.last
    simp only [Number.maxSigned64] at first last
    exact Int64.toInt_ofInt_of_le (by omega) (by omega)
  have allowed : (Number.toSignedOrMax (Number.saturatingMul (.ofNat s.timeout) 1000)).toInt =
      min (1000 * (s.timeout : Int)) Number.maxSigned64 := by
    rw [Number.toInt_toSignedOrMax, Number.toNat_saturatingMul, timeout]
    simp only [UInt64.reduceToNat, Number.max64, Number.maxSigned64]
    omega
  rw [Bool.eq_iff_iff, isExpiredAt_iff_capped, isExpiredInWords, decide_eq_true_iff,
    Int64.lt_iff_toInt_lt, allowed, Number.toInt_saturatingSub, access]
  simp only [Number.clampSigned64, Number.maxSigned64, Int.ofNat_eq_natCast]
  omega

/-! ## All sessions -/

namespace Registry

variable {r : Registry} {first last : Int}

/-- A later sweep removes whom an earlier one removes. -/
theorem sweep_sweep (later : first ≤ last) (r : Registry) :
    (r.sweep first).sweep last = r.sweep last := by
  have both : (r.sweep first).sessions.filter (fun s => !s.isExpiredAt last) =
      r.sessions.filter fun s => !s.isExpiredAt last := by
    refine List.filter_filter.trans (List.filter_congr fun s _ => ?_)
    cases early : s.isExpiredAt first with
    | false => simp
    | true => rw [isExpiredAt_of_later later early]; rfl
  unfold sweep at both ⊢
  rw [withSessions, both]
  rfl

/-- A session is expired or left. -/
theorem length_expired_add_left (now : Int) (r : Registry) :
    (r.expired now).length + (r.sweep now).sessions.length = r.sessions.length :=
  (List.length_eq_length_filter_add _).symm

/-- Who is expired is removed. -/
theorem not_mem_sweep {s : Session} (mem : s ∈ r.sessions) (now : Int) :
    s ∉ (r.sweep now).sessions ↔ s.isExpiredAt now = true := by
  have stays : s ∈ (r.sweep now).sessions ↔ s ∈ r.sessions ∧ (!s.isExpiredAt now) = true :=
    List.mem_filter
  simp [stays, mem]

/-- Of two sweeps, one removes whom the later one would remove alone. -/
theorem length_expired_add (later : first ≤ last) (r : Registry) :
    (r.expired first).length + ((r.sweep first).expired last).length =
      (r.expired last).length := by
  have early := r.length_expired_add_left first
  have rest := (r.sweep first).length_expired_add_left last
  have alone := r.length_expired_add_left last
  rw [sweep_sweep later] at rest
  omega

end Registry
end Session

/-! ## The whole server -/

namespace Home

variable {h : Home} {r : Session.Registry}

/-- How many sessions a sweep removes. -/
theorem count_sweep (found : h.registry = some r) (now : Int) :
    (h.sweep now).1 = (r.expired now).length := by
  rw [sweep, found]

/-- What the registry is after a sweep. -/
theorem registry_sweep (found : h.registry = some r) (now : Int) :
    (h.sweep now).2.registry = some { r.sweep now with
      subscription := if (r.sweep now).sessions = [] then none
        else some (r.subscription.getD (h.timer.created + 1)) } := by
  rw [sweep, found]
  exact registry_checkTimer (h := { h with
    registry := some (r.sweep now), released := h.released ++ r.expired now }) rfl

/-- What the timer is once the registry has seen to its subscription, if there is no need for a new
one. -/
theorem timer_checkTimer (found : h.registry = some r)
    (kept : r.sessions ≠ [] → r.subscription.isSome = true) :
    h.checkTimer.timer = if r.sessions = []
      then r.subscription.elim h.timer fun id => (h.timer.unsubscribe id).2
      else h.timer := by
  unfold checkTimer
  rw [found]
  dsimp only
  rcases timerNeed_cases r with ⟨need, fine⟩ | ⟨need, absent, busy⟩ | ⟨id, need, present, idle⟩
  · rw [need]
    by_cases empty : r.sessions = []
    · rw [empty, List.isEmpty_nil, Bool.not_true, Option.isSome_eq_false_iff,
        Option.isNone_iff_eq_none] at fine
      rw [if_pos empty, fine]
      rfl
    · rw [if_neg empty]
  · have filled : r.sessions ≠ [] := by simpa using busy
    rw [absent] at kept
    exact absurd (kept filled) Bool.false_ne_true
  · rw [need, if_pos (List.isEmpty_iff.1 idle), present]
    rfl

/-- What the timer is after a sweep: only the subscription of a registry that is left without
sessions ends. -/
theorem timer_sweep (found : h.registry = some r)
    (needed : r.subscription.isSome = !r.sessions.isEmpty) (now : Int) :
    (h.sweep now).2.timer = if (r.sweep now).sessions = []
      then r.subscription.elim h.timer fun id => (h.timer.unsubscribe id).2
      else h.timer := by
  have kept : (r.sweep now).sessions ≠ [] → (r.sweep now).subscription.isSome = true := by
    intro left
    obtain ⟨s, stays⟩ := List.exists_mem_of_ne_nil _ left
    have filled : r.sessions ≠ [] := List.ne_nil_of_mem (List.mem_of_mem_filter stays)
    exact needed.trans (by simpa using filled)
  rw [sweep, found]
  exact timer_checkTimer (h := { h with
    registry := some (r.sweep now), released := h.released ++ r.expired now }) rfl kept

/-- A registry that has seen to its subscription after a sweep is in step. -/
theorem needed_sweep (now : Int) (new : Nat) :
    (if (r.sweep now).sessions = [] then none else some (r.subscription.getD new)).isSome =
      !(r.sweep now).sessions.isEmpty := by
  split
  · rename_i empty
    rw [empty]
    rfl
  · rename_i left
    exact (Bool.not_eq_eq_eq_not.2 (by simpa using left)).symm

/-- Who is left by a sweep is left by an earlier one. -/
theorem sessions_sweep_of_later {first last : Int} (later : first ≤ last)
    (left : (r.sweep last).sessions ≠ []) : (r.sweep first).sessions ≠ [] := by
  rw [← Session.Registry.sweep_sweep later r] at left
  obtain ⟨s, stays⟩ := List.exists_mem_of_ne_nil _ left
  exact List.ne_nil_of_mem (List.mem_of_mem_filter stays)

/-- The registry is after two sweeps what it is after the later one alone. -/
theorem registry_sweep_sweep (found : h.registry = some r) {first last : Int}
    (later : first ≤ last) :
    ((h.sweep first).2.sweep last).2.registry = (h.sweep last).2.registry := by
  have same (subscription : Option Nat) :
      ({ r.sweep first with subscription } : Session.Registry).sweep last =
        { r.sweep last with subscription } :=
    congrArg (fun t : Session.Registry => { t with subscription })
      (Session.Registry.sweep_sweep later r)
  rw [registry_sweep (registry_sweep found first), registry_sweep found, same]
  dsimp only
  by_cases empty : (r.sweep last).sessions = []
  · rw [if_pos empty, if_pos empty]
  · rw [if_neg empty, if_neg empty, if_neg (sessions_sweep_of_later later empty)]
    rfl

/-- So is the timer, if the registry was in step with it. -/
theorem timer_sweep_sweep (found : h.registry = some r)
    (needed : r.subscription.isSome = !r.sessions.isEmpty) {first last : Int}
    (later : first ≤ last) :
    ((h.sweep first).2.sweep last).2.timer = (h.sweep last).2.timer := by
  have same (subscription : Option Nat) :
      (({ r.sweep first with subscription } : Session.Registry).sweep last).sessions =
        (r.sweep last).sessions := by
    rw [← Session.Registry.sweep_sweep later r]
    rfl
  rw [timer_sweep (registry_sweep found first) (needed_sweep first _), same,
    timer_sweep found needed, timer_sweep found needed]
  dsimp only
  by_cases empty : (r.sweep last).sessions = []
  · rw [if_pos empty, if_pos empty]
    by_cases early : (r.sweep first).sessions = []
    · rw [if_pos early, if_pos early]
      rfl
    · -- The second sweep ends the subscription that the first has kept.
      rw [if_neg early, if_neg early]
      obtain ⟨s, stays⟩ := List.exists_mem_of_ne_nil _ early
      have filled : r.sessions ≠ [] := List.ne_nil_of_mem (List.mem_of_mem_filter stays)
      obtain ⟨id, present⟩ := Option.isSome_iff_exists.1 (needed.trans (by simpa using filled))
      rw [present]
      rfl
  · rw [if_neg empty, if_neg empty, if_neg (sessions_sweep_of_later later empty)]

/-- **Who is idle for too long is swept, once.**  A sweep at some time removes the sessions whose
idle time is greater than their timeout, where both are counted in milliseconds and neither counts
as more than the greatest signed 64-bit number; the others stay in their order, and the number of
those removed is told. As long as the idle time is at most that number, this is the exact
comparison; for times and timeouts that are words of 64 bits it is the comparison in words. A sweep
before a later one makes no difference to the registry, nor to the timer if there was nothing to do
about the subscription, and the two tell together what the later one tells alone. -/
theorem sweep_by_idle_time (found : h.registry = some r) :
    (∀ now : Int, ∃ next, (h.sweep now).2.registry = some next ∧
      next.sessions = (r.sessions.filter fun s =>
        !decide (min (now - s.lastAccess) Number.maxSigned64 >
          min (1000 * (s.timeout : Int)) Number.maxSigned64)) ∧
      next.count = next.sessions.length ∧
      (h.sweep now).1 + next.sessions.length = r.sessions.length ∧
      (∀ s ∈ r.sessions, now - s.lastAccess ≤ Number.maxSigned64 →
        (s ∉ next.sessions ↔ now - s.lastAccess > 1000 * (s.timeout : Int))) ∧
      ∀ word : Int64, word.toInt = now → ∀ s ∈ r.sessions, s.FitsWords →
        (s ∉ next.sessions ↔
          Session.isExpiredInWords word (.ofInt s.lastAccess) (.ofNat s.timeout) = true)) ∧
    ∀ first last : Int, first ≤ last →
      let early := h.sweep first
      let both := early.2.sweep last
      let alone := h.sweep last
      both.2.registry = alone.2.registry ∧ early.1 + both.1 = alone.1 ∧
        (r.subscription.isSome = !r.sessions.isEmpty → both.2.timer = alone.2.timer) := by
  refine ⟨fun now => ⟨_, registry_sweep found now, ?_, rfl, ?_, ?_, ?_⟩, fun first last later =>
    ⟨registry_sweep_sweep found later, ?_, fun needed => timer_sweep_sweep found needed later⟩⟩
  · refine List.filter_congr fun s _ => congrArg not ?_
    rw [Bool.eq_iff_iff, decide_eq_true_iff]
    exact Session.isExpiredAt_iff_capped
  · rw [count_sweep found]
    exact r.length_expired_add_left now
  · intro s mem near
    exact (Session.Registry.not_mem_sweep mem now).trans (Session.isExpiredAt_iff_exact near)
  · rintro word rfl s mem fits
    rw [← Session.isExpiredAt_eq_inWords fits]
    exact Session.Registry.not_mem_sweep mem _
  · rw [count_sweep found, count_sweep (registry_sweep found first), count_sweep found]
    exact Session.Registry.length_expired_add later r

/-- Four sessions: one was last active at the first moment that a clock can show, and is allowed to
be idle for as long as a word can say; one then, too, but is not allowed to be idle at all; one was
active at the last moment; and one is an ordinary one. -/
def farApart : Home where
  timer := .manual { created := 1, entries := [⟨1, .sweep, 60 * Duration.second⟩] }
  registry := some {
    ui := {}
    sessions := [
      { id := "a", timeout := Number.max64, maxUpdates := 10,
        lastAccess := -9223372036854775808 },
      { id := "b", timeout := 0, maxUpdates := 10, lastAccess := -9223372036854775808 },
      { id := "c", timeout := 0, maxUpdates := 10, lastAccess := 9223372036854775807 },
      { id := "d", timeout := 2, maxUpdates := 10, lastAccess := 10000 }]
    count := 4
    subscription := some 1
    candidates := .scripted [] }

/-- The first session may be idle for as long as the clock can tell; the second goes at once, the
fourth at the end. -/
theorem sweep_by_idle_time_farApart :
    ∃ r, farApart.registry = some r ∧
      (∃ next, (farApart.sweep 9223372036854775807).2.registry = some next ∧
        next.sessions.map Session.id = ["a", "c"]) ∧
      (farApart.sweep 12000).1 = 1 ∧
      (farApart.sweep 12000).1 + ((farApart.sweep 12000).2.sweep 9223372036854775807).1 = 2 := by
  obtain ⟨one, two⟩ := sweep_by_idle_time (h := farApart) rfl
  obtain ⟨next, after, sessions, -⟩ := one 9223372036854775807
  obtain ⟨-, sum, -⟩ := two 12000 9223372036854775807 (by decide)
  exact ⟨_, rfl, ⟨next, after, by rw [sessions]; decide⟩, by decide, sum.trans (by decide)⟩

end Home
end HomeMedia
