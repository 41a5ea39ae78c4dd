import HomeMedia.Proofs.Home.Episodes
/-!
# Runs in which time passes only by sleeps

A sleep takes the clock from alarm to alarm, and whoever is woken up at a stop has had a turn before
the clock goes on. So if time passes only by sleeps, the clock is never taken past an alarm: the run
is *gentle* (`Gently`). Commands that do not jump make gentle runs, whether each of them waits until
everybody waits or not, and ask for the same in the same order (`exists_gently_through_runs`).
-/

namespace HomeMedia
namespace Home

variable {h g : Home}

/-- Whether an episode takes the clock past no alarm, as no stop of a sleep does. -/
def IsGentle (h : Home) : Episode → Prop
  | .pass ms => ∀ a ∈ h.loop.alarms, h.loop.now + ms ≤ a.due
  | _ => True

/-- Whether all episodes of a run are gentle: time passes only by sleeps. -/
def Gently : Home → List Episode → Prop
  | _, [] => True
  | h, e :: more => h.IsGentle e ∧ (h.undergo e).Gently more

instance (h : Home) : (e : Episode) → Decidable (h.IsGentle e)
  | .command _ _ => isTrue trivial
  | .turn _ => isTrue trivial
  | .pass ms => inferInstanceAs (Decidable (∀ a ∈ h.loop.alarms, h.loop.now + ms ≤ a.due))

instance decidableGently : (h : Home) → (episodes : List Episode) → Decidable (h.Gently episodes)
  | _, [] => isTrue trivial
  | h, e :: more =>
    have := decidableGently (h.undergo e) more
    inferInstanceAs (Decidable (h.IsGentle e ∧ (h.undergo e).Gently more))

/-- A run is gentle if its first part is, and the second part is from there on. -/
theorem gently_append {episodes more : List Episode} :
    h.Gently (episodes ++ more) ↔ h.Gently episodes ∧ (h.through episodes).Gently more := by
  induction episodes generalizing h with
  | nil => exact (iff_of_eq (true_and _)).symm
  | cons e rest ih =>
    rw [List.cons_append, Gently, Gently, ih, and_assoc]
    rfl

/-! ## Settling and sleeping -/

/-- Turns are had and time passes, in order and gently. -/
def IdlesGently (h g : Home) : Prop :=
  ∃ episodes : List Episode, episodes.filterMap Episode.command? = [] ∧
    g = h.through episodes ∧ h.Gently episodes

/-- An application idles gently to itself. -/
theorem IdlesGently.refl (h : Home) : IdlesGently h h := ⟨[], rfl, rfl, trivial⟩

/-- One more gentle episode that is no command keeps the idling gentle. -/
theorem IdlesGently.tail (idles : IdlesGently h g) {e : Episode} (other : e.command? = none)
    (gentle : g.IsGentle e) : IdlesGently h (g.undergo e) := by
  obtain ⟨episodes, quiet, rfl, gently⟩ := idles
  refine ⟨episodes ++ [e], ?_, ?_, gently_append.2 ⟨gently, gentle, trivial⟩⟩
  · rw [List.filterMap_append, quiet, List.filterMap_cons_none other]
    rfl
  · rw [through_append]
    rfl

/-- **Settling and sleeping is orderly and gentle.** -/
theorem idlesGently_patient (h : Home) :
    Live.Patient fun g => Timely g ∧ IdlesGently h g where
  turn := by
    rintro s t ⟨timely, idles⟩ turn
    obtain ⟨now, less⟩ := effort_lt_of_turn? timely.paced turn
    rw [eq_undergo_of_turn? turn] at now less ⊢
    exact ⟨⟨timely.undergo _, idles.tail rfl trivial⟩, now, less⟩
  loop_withLoop _ _ := rfl
  ahead kept := kept.1.ahead
  moveTo := by
    rintro s time ⟨timely, idles⟩ still later ahead
    have now : s.loop.now + (time - s.loop.now) = time := Nat.add_sub_cancel' later
    have passed : Live.moveTo time s = s.undergo (.pass (time - s.loop.now)) := by
      unfold undergo
      dsimp only
      rw [if_pos (show s.loop.ready = [] from still), now]
    rw [passed]
    exact ⟨timely.undergo _, idles.tail rfl fun a ha => now.le.trans (ahead a ha)⟩

/-! ## Commands that do not jump -/

/-- Commands come to these episodes, and ask for the same. -/
structure Makes (h : Home) (commands : List (Bool × Command)) (episodes : List Episode) :
    Prop where
  /-- It comes to the same. -/
  through : commands.foldl (fun h asked => (h.run asked.1 asked.2).2) h = h.through episodes
  /-- The same is asked for in the same order. -/
  asked : episodes.filterMap Episode.command? =
    (commands.map Prod.snd).filter fun command => !command.takesTime
  /-- Time passes only by sleeps. -/
  gently : h.Gently episodes

/-- What a command that does not jump does at first. -/
theorem exists_makes_act (timely : Timely h) {command : Command}
    (sleeps : ∀ ms, command ≠ .jump ms) : ∃ episodes, h.Makes [(false, command)] episodes := by
  cases time : command.takesTime with
  | false =>
    refine ⟨[.command command time], rfl, ?_, trivial, trivial⟩
    change [command] = [command].filter fun command => !command.takesTime
    rw [List.filter_cons_of_pos (by rw [time]; rfl)]
    rfl
  | true =>
    cases command with
    | sleep ms =>
      obtain ⟨-, episodes, quiet, same, gently⟩ :=
        (idlesGently_patient h).sleep ms ⟨timely, .refl h⟩
      exact ⟨episodes, same, quiet, gently⟩
    | jump ms => exact absurd rfl (sleeps ms)
    | _ => cases time

/-- **A command that does not jump is orderly and gentle**, whether it waits or not. -/
theorem exists_makes_run (timely : Timely h) (waits : Bool) {command : Command}
    (sleeps : ∀ ms, command ≠ .jump ms) : ∃ episodes, h.Makes [(waits, command)] episodes := by
  obtain ⟨first, acted, asked, gently⟩ := exists_makes_act timely sleeps
  cases waits with
  | false => exact ⟨first, acted, asked, gently⟩
  | true =>
    have still : Timely (h.through first) :=
      through_keeps (P := Timely) (fun e _ _ timely => timely.undergo e) timely
    obtain ⟨⟨-, more, quiet, settled, soft⟩, -⟩ :=
      (idlesGently_patient (h.through first)).settle ⟨still, .refl _⟩
    refine ⟨first ++ more, ?_, ?_, gently_append.2 ⟨gently, soft⟩⟩
    · rw [through_append, ← settled, ← acted]
      rfl
    · rw [List.filterMap_append, quiet, List.append_nil]
      exact asked

/-- **Commands that do not jump make gentle runs**, whether they wait or not. -/
theorem exists_gently_through_runs (commands : List (Bool × Command)) (timely : Timely h)
    (sleeps : ∀ asked ∈ commands, ∀ ms, asked.2 ≠ .jump ms) :
    ∃ episodes, h.Makes commands episodes := by
  induction commands generalizing h with
  | nil => exact ⟨[], rfl, rfl, trivial⟩
  | cons first more ih =>
    obtain ⟨begun, made⟩ :=
      exists_makes_run timely first.1 (sleeps first (List.mem_cons_self ..))
    have later : Timely (h.through begun) :=
      through_keeps (P := Timely) (fun e _ _ timely => timely.undergo e) timely
    obtain ⟨rest, goes⟩ := ih later fun asked mem => sleeps asked (List.mem_cons_of_mem _ mem)
    refine ⟨begun ++ rest, ?_, ?_, gently_append.2 ⟨made.gently, goes.gently⟩⟩
    · rw [through_append, ← goes.through, ← made.through]
      rfl
    · rw [List.filterMap_append, made.asked, goes.asked, ← List.filter_append]
      rfl

end Home
end HomeMedia
