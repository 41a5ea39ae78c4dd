import HomeMedia.Proofs.Session.Roll
/-!
# Who is told about changes

A notice is dropped at once when the number that is kept beside the sessions is zero. That number is
right at every moment of every run (`Front.Counted`, `after_counted`): sessions come and go together
with it, and nothing else touches either. So the short way out is never taken while there is
somebody to tell, and a notice is what it would be if every session were looked at: those that are
logged in note the batch, and nothing else in the server is touched. It makes no difference through
which of the three entries the notice comes (`told_as_one_batch`).
-/

namespace HomeMedia

namespace Session.Registry

/-- A notice keeps the number of sessions and what is kept beside it. -/
theorem counted_tell {r : Registry} (counted : r.count = r.sessions.length)
    (notice : Session → Session) :
    (r.tell notice).count = (r.tell notice).sessions.length := by
  rw [tell_eq counted]
  exact counted.trans (List.length_map _).symm

end Session.Registry

namespace Home

open Session (Registry)

namespace Front

/-- The number that is kept beside the sessions is theirs. -/
def Counted (f : Front) : Prop := ∀ r, f.registry = some r → r.count = r.sessions.length

namespace Counted

variable {f g : Front}

/-- Whether the number is right depends on the roll alone. -/
theorem of_roll (counted : Counted f) (same : g.roll = f.roll) : Counted g := by
  intro r found
  obtain ⟨s, before, sessions, count⟩ := registry_of_roll same found
  rw [← sessions, ← count]
  exact counted s before

/-- A registry that has just been given its sessions has counted them. -/
theorem of_withSessions {r : Registry} {sessions : List Session}
    (same : g.registry = some (r.withSessions sessions)) : Counted g := by
  intro t found
  cases same.symm.trans found
  rfl

/-- The registry may change, as long as it stays counted. -/
theorem map (counted : Counted f) {change : Registry → Registry}
    (same : g.registry = f.registry.map change)
    (keeps : ∀ r, r.count = r.sessions.length → (change r).count = (change r).sessions.length) :
    Counted g := by
  intro t found
  obtain ⟨r, before, rfl⟩ := Option.map_eq_some_iff.1 (same.symm.trans found)
  exact keeps r (counted r before)

/-- **Every step to the front keeps the number right.** -/
theorem step (counted : Counted f) (step : Step f g) : Counted g := by
  cases step with
  | sweep h now =>
    unfold Home.sweep
    split
    · exact counted
    · exact of_roll (of_withSessions rfl) (roll_checkTimer { h with registry := _, released := _ })
  | checkTimer h => exact counted.of_roll (roll_checkTimer h)
  | arm h => exact counted.of_roll (roll_arm h)
  | disarm h => exact counted.of_roll (roll_disarm h)
  | announce h ids =>
    refine counted.map rfl fun r right => ?_
    rw [Registry.announce_eq]
    exact Registry.counted_tell right _
  | _ => exact counted

/-- **Every move keeps the number right.** -/
theorem move {label : Label} (counted : Counted f) (move : Move label f g) : Counted g := by
  cases move with
  | turn taken => exact counted.step taken
  | create h timeout =>
    unfold Home.createSession
    split
    · exact counted
    · rename_i r found
      rcases r.create_cases timeout h.now with ⟨_, _, drawn⟩ | ⟨_, _, drawn, -⟩
      · rw [drawn]
        intro t same
        cases same
        exact counted r found
      · rw [drawn]
        exact of_roll (of_withSessions rfl)
          (roll_checkTimer { h with registry := _, released := _ })
  | remove h id =>
    unfold Home.removeSession
    split
    · exact counted
    · exact of_roll (map counted rfl fun _ _ => rfl) (roll_checkTimer (onRegistry _ _))
  | dropRegistry h => exact nofun
  | ask h id command => exact counted.map rfl fun _ right => right.trans (List.length_map _).symm
  | tell h ids => exact counted.map rfl fun _ right => Registry.counted_tell right _
  | drainAll h => exact counted.map rfl fun _ right => right.trans (List.length_map _).symm
  | shutDown h => exact counted

end Counted
end Front

/-- So the number is right after any run. -/
theorem after_counted {h : Home} (counted : h.front.Counted) (run : List Happening) :
    (h.after run).front.Counted :=
  after_of_next (P := fun g => g.front.Counted)
    (fun happening _ g right => (next_moves happening g).keep
      (P := Front.Counted) (fun _ _ _ _ move before => before.move move) right) counted

/-- **A notice reaches exactly those who are logged in, whichever way it comes.**  At every moment
of a run that begins with a new registry, while the registry exists: a batch of containers, and what
a task or the library reports, have the same effect on the whole server, and so has a single
container where the batch consists of it alone. Every session that is logged in is as if it had been
asked to note the batch itself, and nothing else has changed: no other session, registered or not,
no count and no timer. Whatever the sessions are told, dropping it when none is counted comes to the
same as looking at all of them. -/
theorem told_as_one_batch (h₀ : Home) (ui : Settings.Ui) (ids : Session.Candidates)
    (run : List Happening) :
    let h := (h₀.openRegistry ui ids).after run
    ∀ r, h.registry = some r →
      (∀ notice, r.tell notice =
        { r with sessions := r.sessions.map fun s => if s.loggedIn then notice s else s }) ∧
      ∀ batch : List ObjectId,
        let told : Home := { h with registry := some { r with sessions := r.sessions.map fun s =>
          if s.loggedIn then (s.run (.changedAll batch)).2 else s } }
        (h.act (.changedAll batch)).2 = told ∧
        (h.act (.announce batch)).2 = told ∧
        (∀ c, batch = [c] → (h.act (.changed c)).2 = told) ∧
        h.announce batch = told.leave (.announced batch) := by
  intro h r found
  have counted : r.count = r.sessions.length :=
    after_counted (h := h₀.openRegistry ui ids) (fun t same => by cases same; rfl) run r found
  refine ⟨Registry.tell_eq counted, fun batch => ?_⟩
  intro told
  have reached : h.onRegistry (Registry.changedAll batch) = told := by
    rw [onRegistry, found]
    exact congrArg (fun t => ({ h with registry := some t } : Home))
      (Registry.tell_eq counted (Session.changedAll batch))
  have entered (notice : Registry → Registry) :
      (h.ofRegistry fun _ => (.nothing, h.onRegistry notice)).2 = h.onRegistry notice := by
    rw [ofRegistry, found]
  refine ⟨?_, ?_, ?_, ?_⟩
  · exact (entered _).trans reached
  · exact (entered _).trans (Registry.announce_eq batch ▸ reached)
  · rintro c rfl
    exact (entered _).trans (Registry.changed_eq c ▸ reached)
  · rw [announce, Registry.announce_eq, reached]

/-- Two sessions, of which one is logged in, and a report of a single container. -/
theorem told_as_one_batch_two_sessions :
    let h := (({} : Home).openRegistry {} (.scripted ["a", "b"])).after
      [.command (.createSession none), .command (.createSession none),
        .command (.onSession "a" (.logIn true))]
    ∃ r, h.registry = some r ∧ r.sessions.map Session.loggedIn = [true, false] ∧
      (h.act (.changed 3)).2 = (h.act (.announce [3])).2 ∧
      (h.act (.announce [3])).2.registry.map (fun t => t.sessions.map Session.updates) =
        some [.ids [3], .none] := by
  intro h
  have all := told_as_one_batch {} {} (.scripted ["a", "b"])
    [.command (.createSession none), .command (.createSession none),
      .command (.onSession "a" (.logIn true))] _ rfl
  obtain ⟨-, announced, single, -⟩ := all.2 [3]
  refine ⟨_, rfl, rfl, (single 3 rfl).trans announced.symm, ?_⟩
  rw [show (h.act (.announce [3])).2 = _ from announced]
  rfl

end Home
end HomeMedia
