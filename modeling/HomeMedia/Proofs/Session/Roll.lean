import HomeMedia.Proofs.Home.Moves
/-!
# Who is registered

The *roll* of a home server is the list of its sessions as far as clients can see it: without the
subscription, the settings and the ids to come. Seeing to the subscription and arming or disarming
the schedule do not change it, so most of what happens does not (`roll_checkTimer` and others).

A front is *sound* if the web interface can look sessions up, the registry is tidy, and every
session is neat: it lists nothing once there is too much to list. All that happens keeps this
(`next_sound`).
-/

namespace HomeMedia

namespace Session

/-- Nothing is listed once there is too much to list. -/
def Neat (s : Session) : Prop := s.pending.isFull = true → s.pending.listed = []

/-- A session that is told about changes lists nothing once there is too much. -/
theorem Neat.changedAll {s : Session} (neat : s.Neat) (ids : List ObjectId) :
    (s.changedAll ids).Neat := by
  unfold Neat Session.changedAll Pending.noteAll at *
  dsimp only
  split_ifs with full
  · exact neat
  · exact neat
  · exact fun _ => rfl
  · exact fun h => absurd h full

/-- Neither does one that has just told what was pending. -/
theorem Neat.told {s : Session} (neat : s.Neat) : s.told.Neat := by
  unfold Neat Session.told Pending.take at *
  dsimp only
  split_ifs
  · exact fun h => by cases h
  · exact neat
  · exact fun _ => rfl

/-- Neither does one that is asked anything. -/
theorem Neat.run {s : Session} (neat : s.Neat) (command : Command) : (s.run command).2.Neat := by
  cases command with
  | changed id =>
    have batch := neat.changedAll [id]
    unfold Neat Session.changedAll at batch
    rwa [← Pending.note_eq_noteAll] at batch
  | changedAll ids => exact neat.changedAll ids
  | take => exact neat.told
  | clear => exact fun _ => rfl
  | _ => exact neat

end Session

namespace Home

/-- What clients can see: whether sessions can be looked up, what tasks told about, the sessions
and how many they are. -/
def Front.roll (f : Front) : Bool × List Trace × Option (List Session × Nat) :=
  (f.servesSessions, f.traces, f.registry.map fun r => (r.sessions, r.count))

variable {h : Home} {f g : Front}

/-! ## What leaves the roll alone -/

/-- Looking at the timer leaves the roll. -/
@[simp] theorem roll_checkTimer (h : Home) : h.checkTimer.front.roll = h.front.roll := by
  unfold checkTimer
  cases found : h.registry with
  | none => rfl
  | some r =>
    dsimp only
    cases r.timerNeed with
    | nothing => rfl
    | subscribe =>
      change (_, _, (h.registry.map _).map _) = (_, _, h.registry.map _)
      rw [Option.map_map]
      rfl
    | unsubscribe id =>
      change (_, _, (h.registry.map _).map _) = (_, _, h.registry.map _)
      rw [Option.map_map]
      rfl

/-- Arming the schedule leaves it. -/
@[simp] theorem roll_arm (h : Home) : h.arm.front.roll = h.front.roll := by
  unfold arm
  split
  · split <;> rfl
  · rfl

/-- So does disarming it. -/
@[simp] theorem roll_disarm (h : Home) : h.disarm.front.roll = h.front.roll := by
  unfold disarm
  split <;> rfl

namespace Front

/-- The registered session with an id. -/
def session? (id : String) (f : Front) : Option Session := f.registry.bind fun r => r.find? id

/-- Looking up a session is reading the roll. -/
theorem session?_eq (id : String) (f : Front) :
    f.session? id = f.roll.2.2.bind fun p => p.1.find? fun s => s.id == id := by
  unfold session? roll
  cases f.registry <;> rfl

/-- With the same roll the same sessions are found. -/
theorem session?_of_roll (same : g.roll = f.roll) (id : String) :
    g.session? id = f.session? id := by
  rw [session?_eq, session?_eq, same]

/-- With the same roll a registry has the same sessions and the same count. -/
theorem registry_of_roll (same : g.roll = f.roll) {r : Session.Registry}
    (found : g.registry = some r) :
    ∃ s, f.registry = some s ∧ s.sessions = r.sessions ∧ s.count = r.count := by
  have sessions : f.roll.2.2 = some (r.sessions, r.count) := by
    rw [← same, roll, found]
    rfl
  obtain ⟨s, hs, pair⟩ := Option.map_eq_some_iff.1 sessions
  exact ⟨s, hs, Prod.mk.inj pair⟩

/-- What all happenings keep. -/
structure Sound (f : Front) : Prop where
  /-- Sessions can be looked up. -/
  serves : f.servesSessions = true
  /-- Ids are different and sessions are counted. -/
  tidy : ∀ r, f.registry = some r → r.Tidy
  /-- The pending changes have their form. -/
  neat : ∀ r, f.registry = some r → ∀ s ∈ r.sessions, s.Neat

namespace Sound

/-- Whether a front is sound depends on the roll alone. -/
theorem of_roll (sound : Sound f) (same : g.roll = f.roll) : Sound g where
  serves := (congrArg Prod.fst same).trans sound.serves
  tidy r hr := by
    obtain ⟨s, hs, sessions, count⟩ := registry_of_roll same hr
    exact ⟨sessions ▸ (sound.tidy s hs).nodup, sessions ▸ count ▸ (sound.tidy s hs).counted⟩
  neat r hr := by
    obtain ⟨s, hs, sessions, -⟩ := registry_of_roll same hr
    exact sessions ▸ sound.neat s hs

/-- The registry may change. -/
theorem withRegistry (sound : Sound f) {r : Session.Registry} (tidy : r.Tidy)
    (neat : ∀ s ∈ r.sessions, s.Neat) : Sound { f with registry := some r } where
  serves := sound.serves
  tidy r' hr := by cases hr; exact tidy
  neat r' hr := by cases hr; exact neat

/-- Without a registry there is nothing to keep. -/
theorem dropRegistry (sound : Sound f) : Sound { f with registry := none } where
  serves := sound.serves
  tidy r hr := by cases hr
  neat r hr := by cases hr

/-- Sessions may change, as long as their ids stay and they stay neat. -/
theorem map (sound : Sound f) (change : Session → Session)
    (keepsId : ∀ s, (change s).id = s.id) (keepsNeat : ∀ s, s.Neat → (change s).Neat) :
    Sound { f with
      registry := f.registry.map fun r => { r with sessions := r.sessions.map change } } := by
  cases found : f.registry with
  | none => exact sound.dropRegistry
  | some r =>
    refine sound.withRegistry ((sound.tidy r found).map keepsId) fun s hs => ?_
    obtain ⟨t, ht, rfl⟩ := List.mem_map.1 hs
    exact keepsNeat t (sound.neat r found t ht)

/-- Sessions may leave. -/
theorem withSublist (sound : Sound f) {r : Session.Registry} (found : f.registry = some r)
    {sessions : List Session} (sub : sessions.Sublist r.sessions) :
    Sound { f with registry := some (r.withSessions sessions) } :=
  sound.withRegistry ((sound.tidy r found).withSublist sub) fun s hs =>
    sound.neat r found s (sub.subset hs)

/-- Telling the sessions about changes leaves the front sound. -/
theorem tell (sound : Sound h.front) (ids : List ObjectId) :
    Sound (h.onRegistry (Session.Registry.changedAll ids)).front := by
  have told := sound.map (fun s => if s.loggedIn then s.changedAll ids else s)
    (fun s => by split <;> rfl) fun s neat => by split; exacts [neat.changedAll ids, neat]
  change Sound { h.front with registry := h.registry.map (Session.Registry.changedAll ids) }
  have counted : ∀ r, h.registry = some r → r.count = r.sessions.length := fun r found =>
    (sound.tidy r found).counted
  rw [Session.Registry.map_changedAll counted]
  exact told

/-- So does creating a session. -/
theorem createSession (sound : Sound h.front) (timeout : Nat) :
    Sound (h.createSession timeout).2.front := by
  unfold Home.createSession
  split
  · exact sound
  · rename_i r found
    have tidy := sound.tidy r found
    rcases r.create_cases timeout h.now with
      ⟨cause, candidates, drawn⟩ | ⟨s, candidates, drawn, free, fresh⟩
    · rw [drawn]
      exact sound.withRegistry ⟨tidy.nodup, tidy.counted⟩ (sound.neat r found)
    · rw [drawn]
      have tidy := tidy.concat free
      refine of_roll ?_ (roll_checkTimer { h with registry := _, released := _ })
      refine sound.withRegistry ⟨tidy.nodup, tidy.counted⟩ fun t ht => ?_
      rcases List.mem_append.1 ht with ht | ht
      · exact sound.neat r found t ht
      · rw [List.mem_singleton.1 ht, Session.Neat, fresh]
        exact fun _ => rfl

/-- So does removing one. -/
theorem removeSession (sound : Sound h.front) (id : String) :
    Sound (h.removeSession id).2.front := by
  unfold Home.removeSession
  split
  · exact sound
  · rename_i s present
    obtain ⟨r, found, -⟩ := Option.bind_eq_some_iff.1 present
    refine of_roll ?_ (roll_checkTimer (onRegistry _ _))
    change Sound { h.front with registry := h.registry.map _ }
    rw [found]
    exact sound.withSublist found List.eraseP_sublist

/-- So does a sweep. -/
theorem sweep (sound : Sound h.front) (now : Int) : Sound (h.sweep now).2.front := by
  unfold Home.sweep
  split
  · exact sound
  · rename_i r found
    exact of_roll (sound.withSublist found List.filter_sublist)
      (roll_checkTimer { h with registry := _, released := _ })

/-- **So does every step to the front.** -/
theorem step (sound : Sound f) (step : Step f g) : Sound g := by
  cases step with
  | beat h id => exact sound.of_roll rfl
  | sweep h now => exact sound.sweep now
  | checkTimer h => exact sound.of_roll (roll_checkTimer h)
  | arm h => exact sound.of_roll (roll_arm h)
  | disarm h => exact sound.of_roll (roll_disarm h)
  | setStopped h stopped => exact sound.of_roll rfl
  | dropSchedule h => exact sound.of_roll rfl
  | announce h ids =>
    have told := sound.tell ids
    rw [← Session.Registry.announce_eq] at told
    exact { told with }
  | leave h trace quiet => exact { sound with }

/-- **Every move keeps a front sound.** -/
theorem move {label : Label} (sound : Sound f) (move : Move label f g) : Sound g := by
  cases move with
  | turn step => exact sound.step step
  | create h timeout => exact sound.createSession timeout
  | remove h id => exact sound.removeSession id
  | dropRegistry h => exact sound.dropRegistry
  | ask h id command =>
    exact sound.map _ (fun s => by split <;> simp [Session.id_run])
      fun s neat => by split; exacts [neat.run command, neat]
  | tell h ids => exact sound.tell ids
  | drainAll h => exact sound.map _ (fun _ => rfl) fun _ neat => neat.told
  | shutDown h => exact sound.of_roll rfl

end Sound
end Front

/-- A server stays sound whatever happens to it. -/
theorem next_sound (sound : h.front.Sound) (happening : Happening) :
    (h.next happening).front.Sound :=
  (next_moves happening h).keep (fun _ _ _ _ move s => s.move move) sound

/-- So it does during any run. -/
theorem after_sound (sound : h.front.Sound) (run : List Happening) : (h.after run).front.Sound :=
  after_of_next (P := fun g => g.front.Sound) (fun happening _ _ s => next_sound s happening) sound

end Home
end HomeMedia
