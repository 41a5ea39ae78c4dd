import HomeMedia.Proofs.Session.Roll
/-!
# What a session owes to its client

A session *owes* a container to its client if the next answer would report it, by its number or by
saying that everything may have changed. It owes what it is told of (`owes_changedAll`), and only
being told and forgetting take something away.

Turns leave every session that stays as it was, or tell it something (`Front.Continues`), and the
sessions that are logged in owe whatever tasks tell about (`Front.Announces`). Questions to one
session, and a session that is created, leave all others alone.
-/

namespace HomeMedia

namespace Session

/-! ## What a session owes -/

/-- Whether an answer reports a container. -/
def Updates.Reports (c : ObjectId) : Updates → Prop
  | none => False
  | all => True
  | ids list => c ∈ list

/-- Whether the next answer would report a container. -/
def Owes (c : ObjectId) (s : Session) : Prop := s.updates.Reports c

variable {c : ObjectId} {s : Session}

/-- A session owes a container if it has too much to list, or lists it. -/
theorem owes_iff : s.Owes c ↔ s.pending.isFull = true ∨ c ∈ s.pending.listed := by
  unfold Owes updates Pending.take
  split_ifs with full empty
  · simp [full, Updates.Reports]
  · simp [full, empty, Updates.Reports]
  · simp [full, Updates.Reports]

/-- A session that was told what it was owed owes nothing. -/
theorem not_owes_told (neat : s.Neat) : ¬s.told.Owes c := by
  rw [owes_iff, told, Pending.take]
  split_ifs with full empty
  · simp [neat full]
  · simp [full, empty]
  · simp [full]

/-- Containers inserted into a list are in it besides those that were. -/
theorem mem_foldl_insertAscending {ids list : List ObjectId} :
    c ∈ ids.foldl (fun list id => insertAscending id list) list ↔ c ∈ ids ∨ c ∈ list := by
  induction ids generalizing list with
  | nil => simp
  | cons id more ih =>
    rw [List.foldl_cons, ih, mem_insertAscending, List.mem_cons]
    tauto

/-- A list in ascending order has the same containers. -/
theorem mem_ascending {ids : List ObjectId} : c ∈ ascending ids ↔ c ∈ ids := by
  rw [ascending, mem_foldl_insertAscending]
  simp

/-- **A notice takes nothing away.** -/
theorem Owes.changedAll (owes : s.Owes c) (ids : List ObjectId) : (s.changedAll ids).Owes c := by
  rw [owes_iff] at owes ⊢
  unfold Session.changedAll Pending.noteAll
  dsimp only
  split_ifs
  · exact owes
  · exact owes
  · exact .inl rfl
  · exact owes.imp_right fun listed => mem_foldl_insertAscending.2 (.inr listed)

/-- **A session owes what it is told of.** -/
theorem owes_changedAll {ids : List ObjectId} (named : c ∈ ids) (valid : c ≠ ObjectId.invalid) :
    (s.changedAll ids).Owes c := by
  have fresh : c ∉ s.pending.listed → c ∈ Pending.fresh s.pending.listed ids := fun new =>
    mem_ascending.2 (List.mem_filter.2 ⟨named, by simp [valid, new]⟩)
  rw [owes_iff]
  unfold Session.changedAll Pending.noteAll
  dsimp only
  split_ifs with full nothing
  · exact .inl full
  · refine .inr (Classical.byContradiction fun new => ?_)
    have mem := fresh new
    rw [nothing] at mem
    cases mem
  · exact .inl rfl
  · refine .inr (mem_foldl_insertAscending.2 ?_)
    by_cases old : c ∈ s.pending.listed
    · exact .inr old
    · exact .inl (fresh old)

/-- Only being told and forgetting take something away. -/
theorem Owes.run (owes : s.Owes c) {command : Command} (keeps : command.drains = false) :
    (s.run command).2.Owes c := by
  cases command with
  | changed id =>
    have batch := owes.changedAll [id]
    unfold Session.changedAll at batch
    rwa [← Pending.note_eq_noteAll] at batch
  | changedAll ids => exact owes.changedAll ids
  | take => cases keeps
  | clear => cases keeps
  | _ => exact owes

end Session

namespace Home
namespace Front

variable {f g k : Front} {h : Home}

/-! ## What turns take away -/

/-- Every session was there before, as one that was logged in or not, and owes what it owed. -/
def Continues (f g : Front) : Prop :=
  ∀ id t, g.session? id = some t →
    ∃ s, f.session? id = some s ∧ t.loggedIn = s.loggedIn ∧ ∀ c, s.Owes c → t.Owes c

/-- Sessions go on as long as the roll stays. -/
theorem Continues.of_roll (same : g.roll = f.roll) : Continues f g := fun id t found =>
  ⟨t, (session?_of_roll same id).symm.trans found, rfl, fun _ owes => owes⟩

/-- What goes on twice goes on. -/
theorem Continues.trans (fg : Continues f g) (gk : Continues g k) : Continues f k := by
  intro id u found
  obtain ⟨t, found, sameLogin, owesMore⟩ := gk id u found
  obtain ⟨s, found, same, owes⟩ := fg id t found
  exact ⟨s, found, sameLogin.trans same, fun c h => owesMore c (owes c h)⟩

/-- Looking up a session that has changed. -/
theorem session?_map (f : Front) (change : Session → Session)
    (keepsId : ∀ s, (change s).id = s.id) (id : String) :
    ({ f with registry := f.registry.map fun r =>
      { r with sessions := r.sessions.map change } } : Front).session? id =
      (f.session? id).map change := by
  unfold session?
  cases f.registry with
  | none => rfl
  | some r =>
    refine List.find?_map.trans ?_
    congr 2
    funext s
    rw [Function.comp_apply, keepsId]

/-- Sessions may leave. -/
theorem continues_withSublist (sound : Sound f) {r : Session.Registry} (found : f.registry = some r)
    {sessions : List Session} (sub : sessions.Sublist r.sessions) :
    Continues f { f with registry := some (r.withSessions sessions) } := by
  intro id t ht
  have tidy := sound.tidy r found
  obtain ⟨mem, hid⟩ := (tidy.withSublist sub).find?_eq_some.1 ht
  refine ⟨t, ?_, rfl, fun _ owes => owes⟩
  unfold session?
  rw [found]
  exact tidy.find?_eq_some.2 ⟨sub.subset mem, hid⟩

/-- Looking up a session after all were told. -/
theorem session?_tell (sound : Sound h.front) (ids : List ObjectId) (id : String) :
    (h.onRegistry (Session.Registry.changedAll ids)).front.session? id =
      (h.front.session? id).map fun s => if s.loggedIn then s.changedAll ids else s := by
  rw [← session?_map _ _ fun s => by split <;> rfl]
  exact congrArg (fun registry => ({ h.front with registry } : Front).session? id)
    (Session.Registry.map_changedAll (fun r found => (sound.tidy r found).counted) ids)

/-- Telling a session about changes takes nothing of what it owes. -/
theorem owes_tell {s : Session} {c : ObjectId} (owes : s.Owes c) (ids : List ObjectId) :
    (if s.loggedIn then s.changedAll ids else s).Owes c := by
  split
  · exact owes.changedAll ids
  · exact owes

/-- So sessions go on when changes are announced. -/
theorem continues_tell (sound : Sound h.front) (ids : List ObjectId) :
    Continues h.front (h.onRegistry (Session.Registry.changedAll ids)).front := by
  intro id t ht
  rw [session?_tell sound] at ht
  obtain ⟨s, hs, rfl⟩ := Option.map_eq_some_iff.1 ht
  exact ⟨s, hs, by split <;> rfl, fun c owes => owes_tell owes ids⟩

/-- Those that are left after a sweep go on. -/
theorem continues_sweep (sound : Sound h.front) (now : Int) :
    Continues h.front (h.sweep now).2.front := by
  unfold Home.sweep
  split
  · exact .of_roll rfl
  · rename_i r found
    exact (continues_withSublist sound found List.filter_sublist).trans
      (.of_roll (roll_checkTimer { h with registry := _, released := _ }))

/-- So do those that are left when one is removed. -/
theorem continues_removeSession (sound : Sound h.front) (id : String) :
    Continues h.front (h.removeSession id).2.front := by
  unfold Home.removeSession
  split
  · exact .of_roll rfl
  · rename_i s present
    obtain ⟨r, found, -⟩ := Option.bind_eq_some_iff.1 present
    refine Continues.trans ?_ (.of_roll (roll_checkTimer (onRegistry _ _)))
    change Continues h.front { h.front with registry := h.registry.map _ }
    rw [found]
    exact continues_withSublist sound found List.eraseP_sublist

/-- **Sessions go on over every step to the front.** -/
theorem continues_step (sound : Sound f) (step : Step f g) : Continues f g := by
  cases step with
  | beat h id => exact .of_roll rfl
  | sweep h now => exact continues_sweep sound now
  | checkTimer h => exact .of_roll (roll_checkTimer h)
  | arm h => exact .of_roll (roll_arm h)
  | disarm h => exact .of_roll (roll_disarm h)
  | setStopped h stopped => exact .of_roll rfl
  | dropSchedule h => exact .of_roll rfl
  | announce h ids =>
    have told := continues_tell sound ids
    rw [← Session.Registry.announce_eq] at told
    exact told
  | leave h trace quiet =>
    exact fun id t found => ⟨t, found, rfl, fun _ owes => owes⟩

/-! ## What tasks tell -/

/-- Whatever tasks told about on the way, the sessions that are logged in owe. -/
def Announces (f g : Front) : Prop :=
  ∃ new, g.traces = f.traces ++ new ∧
    ∀ c ∈ new.flatMap Trace.containers, c ≠ ObjectId.invalid →
      ∀ id s, g.session? id = some s → s.loggedIn = true → s.Owes c

/-- Where tasks told nothing, there is nothing to owe. -/
theorem Announces.of_traces (same : g.traces = f.traces) : Announces f g :=
  ⟨[], same.trans (List.append_nil _).symm, fun _ hc => by cases hc⟩

/-- Neither is there where the roll stays. -/
theorem Announces.of_roll (same : g.roll = f.roll) : Announces f g :=
  .of_traces (congrArg (fun roll => roll.2.1) same)

/-- What was told on the first way is still owed after a second on which sessions go on. -/
theorem Announces.trans (fg : Announces f g) (continues : Continues g k) (gk : Announces g k) :
    Announces f k := by
  obtain ⟨old, hold, owesOld⟩ := fg
  obtain ⟨new, hnew, owesNew⟩ := gk
  refine ⟨old ++ new, by rw [hnew, hold, List.append_assoc], fun c hc valid id t found login => ?_⟩
  rw [List.flatMap_append] at hc
  rcases List.mem_append.1 hc with hc | hc
  · obtain ⟨s, hs, same, owes⟩ := continues id t found
    exact owes c (owesOld c hc valid id s hs (same.symm.trans login))
  · exact owesNew c hc valid id t found login

/-- A sweep leaves no trace. -/
theorem traces_sweep (h : Home) (now : Int) : (h.sweep now).2.front.traces = h.front.traces := by
  unfold Home.sweep
  split
  · rfl
  · exact congrArg (fun roll => roll.2.1) (roll_checkTimer { h with registry := _, released := _ })

/-- A session that is logged in owes what all were told of. -/
theorem owes_of_tell (sound : Sound h.front) {ids : List ObjectId} {c : ObjectId} (named : c ∈ ids)
    (valid : c ≠ ObjectId.invalid) {id : String} {t : Session}
    (found : (h.onRegistry (Session.Registry.changedAll ids)).front.session? id = some t)
    (login : t.loggedIn = true) : t.Owes c := by
  rw [session?_tell sound] at found
  obtain ⟨s, -, rfl⟩ := Option.map_eq_some_iff.1 found
  split at login
  · rw [if_pos ‹_›]
    exact Session.owes_changedAll named valid
  · exact absurd login ‹_›

/-- **What tasks tell in a step to the front is owed after it.** -/
theorem announces_step (sound : Sound f) (step : Step f g) : Announces f g := by
  cases step with
  | beat h id => exact .of_traces rfl
  | sweep h now => exact .of_traces (traces_sweep h now)
  | checkTimer h => exact .of_roll (roll_checkTimer h)
  | arm h => exact .of_roll (roll_arm h)
  | disarm h => exact .of_roll (roll_disarm h)
  | setStopped h stopped => exact .of_traces rfl
  | dropSchedule h => exact .of_traces rfl
  | announce h ids =>
    refine ⟨[.announced ids], rfl, fun c hc valid id t found login => ?_⟩
    have named : c ∈ ids := by simpa [Trace.containers] using hc
    unfold Home.announce at found
    rw [Session.Registry.announce_eq] at found
    exact owes_of_tell sound named valid found login
  | leave h trace quiet =>
    refine ⟨[trace], rfl, fun c hc => ?_⟩
    rw [List.flatMap_singleton, quiet] at hc
    cases hc

/-! ## What questions to one session take away -/

/-- A question to a session changes this session and no other. -/
theorem session?_ask (h : Home) (id other : String) (command : Session.Command) :
    (h.ask id command).front.session? other =
      (h.front.session? other).map fun s => if s.id == id then (s.run command).2 else s :=
  session?_map h.front (fun s => if s.id == id then (s.run command).2 else s)
    (fun s => by split <;> simp [Session.id_run]) other

/-- A session owes what it owed, unless it was asked to hand it out or to forget it. -/
theorem owes_ask {s : Session} {c : ObjectId} {id : String} {command : Session.Command}
    (owes : s.Owes c) (keeps : command.drains = true → s.id ≠ id) :
    (if s.id == id then (s.run command).2 else s).Owes c := by
  split
  · rename_i same
    refine owes.run (Bool.eq_false_iff.2 fun drains => ?_)
    exact keeps drains (beq_iff_eq.1 same)
  · exact owes

/-- A new session takes nobody's place. -/
theorem session?_createSession {id : String} {s : Session} (found : h.front.session? id = some s)
    (timeout : Nat) : (h.createSession timeout).2.front.session? id = some s := by
  unfold Home.createSession
  split
  · exact found
  · rename_i r registry
    unfold session? at found
    change (h.registry.bind _) = _ at found
    rw [registry] at found
    rcases r.create_cases timeout h.now with
      ⟨cause, candidates, drawn⟩ | ⟨t, candidates, drawn, -, -⟩
    · rw [drawn]
      exact found
    · rw [drawn]
      refine (session?_of_roll
        (roll_checkTimer { h with registry := _, released := _ }) id).trans ?_
      change List.find? _ (r.sessions ++ [t]) = some s
      rw [List.find?_append, show r.sessions.find? _ = some s from found]
      rfl

end Front
end Home
end HomeMedia
