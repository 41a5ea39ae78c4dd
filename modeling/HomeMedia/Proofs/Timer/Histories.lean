import HomeMedia.Proofs.Timer.Runs
/-!
# Leases along a run

What an orderly run makes of a lease (`Lease.through`). It keeps the number, the subscriber and the
interval; only a tick settles anew when the next one is due; a lease that is over stays so; and it
was ended if and only if its number was given up in the run or the timer was shut down
(`ended_through`). Along the whole run it fits what the timer knows (`fits_through`).
-/

namespace HomeMedia
namespace Timer
namespace Bench

open Face (Stirs Stirring)

variable {b : Bench} {e : Episode}

/-! ## One episode -/

/-- An episode is the tick of a subscription if it sends one. -/
theorem stirring_eq_tick_iff {id : SubscriptionId} :
    b.stirring e = .tick id ↔ b.sends? e = some id := by
  cases e with
  | command command atOnce => exact ⟨nofun, nofun⟩
  | pass ms =>
    unfold stirring sends?
    dsimp only
    split <;> exact ⟨nofun, nofun⟩
  | turn place =>
    unfold stirring sends?
    dsimp only
    cases b.loop.ready[place]? with
    | none => exact ⟨nofun, nofun⟩
    | some other =>
      rw [Option.filter_some]
      dsimp only
      split
      · rw [Option.some.injEq, Stirring.tick.injEq]
      · exact ⟨nofun, nofun⟩

/-- Only the passing of time lets time pass. -/
theorem eq_pass_of_stirring {ms : Nat} (passes : b.stirring e = .pass ms) : e = .pass ms := by
  cases e with
  | command command atOnce => cases passes
  | turn place =>
    unfold stirring at passes
    dsimp only at passes
    split at passes
    · cases passes
    · split at passes <;> cases passes
  | pass other =>
    unfold stirring at passes
    dsimp only at passes
    split at passes
    · cases passes
      rfl
    · cases passes

/-- A tick is sent in the turn of a pulse. -/
theorem exists_of_sends {id : SubscriptionId} (sends : b.sends? e = some id) :
    ∃ (place : Nat) (receiver : Receiver),
      e = .turn place ∧ b.loop.ready[place]? = some id ∧ b.target? id = some receiver := by
  cases e with
  | command command atOnce => cases sends
  | pass ms => cases sends
  | turn place =>
    obtain ⟨here, sent⟩ := Option.filter_eq_some_iff.1 sends
    obtain ⟨receiver, target⟩ := Option.isSome_iff_exists.1 sent
    exact ⟨place, receiver, rfl, here, target⟩

/-- What happens before something is asked of the timer takes no time and leaves the numbers. -/
theorem origin_of_call? {call : Call} (asked : b.call? e = some call) {f : Face}
    (stirs : Stirs (b.stirring e) b.face f) :
    f.loop.now = b.loop.now ∧ f.timer.created = b.timer.created ∧
      f.timer.isTicking = b.timer.isTicking := by
  have turned (place : Nat) (id : SubscriptionId) : (b.face.turn place id).loop.now = b.loop.now ∧
      (b.face.turn place id).timer.created = b.timer.created ∧
        (b.face.turn place id).timer.isTicking = b.timer.isTicking := by
    have alike := Face.alike_turn place id b.face
    exact ⟨alike.now, alike.created, Face.isTicking_turn place id b.face⟩
  generalize label : b.stirring e = stirring at stirs
  cases stirs with
  | same | meet | drop => exact ⟨rfl, rfl, rfl⟩
  | pass ms still =>
    cases eq_pass_of_stirring label
    cases asked
  | turn _ place id => exact turned place id
  | tick _ place id => exact turned place id

/-- Who makes a subscription is there. -/
theorem isAlive_of_call? {receiver : Receiver} {nanos : Nat}
    (asked : b.call? e = some (.subscribe receiver nanos)) :
    (b.undergo e).isAlive receiver = true := by
  cases e with
  | command command atOnce =>
    cases command with
    | subscribe name nanos reactions =>
      cases asked
      change (b.counter name reactions).2.isAlive ⟨(b.counter name reactions).1, true⟩ = true
      unfold isAlive counter
      split
      · rename_i c found
        exact List.any_eq_true.2 ⟨c, List.mem_of_find?_eq_some found, beq_self_eq_true _⟩
      · exact List.any_eq_true.2
          ⟨_, List.mem_append_right _ (List.mem_singleton_self _), beq_self_eq_true _⟩
    | unsubscribe | shutDown => cases asked
    | _ => cases asked
  | pass ms => cases asked
  | turn place =>
    -- It is the counter that reacts.
    obtain ⟨target, ticked, inside⟩ := Option.bind_eq_some_iff.1 asked
    obtain ⟨reaction, reacting, called⟩ := Option.bind_eq_some_iff.1 inside
    obtain ⟨id, here, -⟩ := Option.bind_eq_some_iff.1 ticked
    have same : receiver.counter = target.counter := by
      cases reaction with
      | subscribe => cases called; rfl
      | _ => cases called
    have there : b.isAlive receiver = true := by
      unfold reaction? at reacting
      split at reacting
      · obtain ⟨reactions, known, -⟩ := Option.bind_eq_some_iff.1 reacting
        obtain ⟨c, found, -⟩ := Option.map_eq_some_iff.1 known
        refine List.any_eq_true.2 ⟨c, List.mem_of_find?_eq_some found, ?_⟩
        rw [same]
        exact List.find?_some (p := fun c : Counter => c.serial == target.counter) found
      · cases reacting
    unfold undergo
    dsimp only
    rw [here]
    dsimp only
    rw [← isAlive_face, face_poll, Face.isAlive_makes, (Face.alike_turn place id b.face).isAlive,
      isAlive_face]
    exact there

/-- Nobody who has gone comes back. -/
theorem isAlive_undergo (sound : b.face.Sound) (e : Episode) {receiver : Receiver}
    (met : receiver.counter < b.serials) (alive : (b.undergo e).isAlive receiver = true) :
    b.isAlive receiver = true := by
  obtain ⟨f, stirs, same⟩ := undergo_cases sound.keeps e
  rw [← isAlive_face, same, Face.isAlive_makes] at alive
  rw [← isAlive_face]
  exact stirs.isAlive_of met alive

namespace Lease

variable {l : Lease}

/-- The lease after an episode. -/
def next (b : Bench) (e : Episode) (l : Lease) : Lease :=
  (l.stirred b.face (b.stirring e)).called (b.call? e)

/-- **A lease that fits still fits after an episode**, in the state that its history gives it. -/
theorem fits_next (sound : b.face.Sound) (fits : l.Fits b.face) (e : Episode) :
    (l.next b e).Fits (b.undergo e).face := by
  obtain ⟨f, stirs, same⟩ := undergo_cases sound.keeps e
  rw [same]
  exact (fits.stirs stirs).called (sound.stirs stirs) (b.call? e)

/-- A new lease fits. -/
theorem fits_new (sound : b.face.Sound) {receiver : Receiver} {nanos : Nat}
    (asked : b.call? e = some (.subscribe receiver nanos)) :
    (Lease.new b.face receiver nanos).Fits (b.undergo e).face := by
  obtain ⟨f, stirs, same⟩ := undergo_cases sound.keeps e
  obtain ⟨now, created, ticking⟩ := origin_of_call? asked stirs
  have new : Lease.new b.face receiver nanos = Lease.new f receiver nanos := by
    unfold Lease.new Face.nanos
    rw [now, created, ticking]
    rfl
  have alive := isAlive_of_call? asked
  rw [← isAlive_face, same, asked] at alive
  have met : receiver.counter < f.serials :=
    (sound.stirs stirs).held _ (List.contains_iff_mem.1 alive)
  rw [same, asked, new]
  exact new_fits (sound.stirs stirs) met nanos

/-- What is settled when a lease is made. -/
def terms (l : Lease) : SubscriptionId × Receiver × Nat × Nat :=
  (l.id, l.receiver, l.interval, l.made)

/-- A call only ends a lease, if it does anything. -/
theorem exists_called (l : Lease) (call : Option Call) :
    ∃ ended, l.called call = { l with ended } := by
  unfold called
  split
  · split
    · exact ⟨true, rfl⟩
    · exact ⟨l.ended, rfl⟩
  · exact ⟨true, rfl⟩
  · exact ⟨l.ended, rfl⟩

/-- No episode changes the terms of a lease. -/
theorem terms_next (b : Bench) (e : Episode) (l : Lease) : (l.next b e).terms = l.terms := by
  obtain ⟨ended, same⟩ := exists_called (l.stirred b.face (b.stirring e)) (b.call? e)
  rw [next, same]
  unfold stirred
  split
  · split <;> rfl
  · split <;> rfl
  · rfl

/-- It keeps its number. -/
theorem id_next (b : Bench) (e : Episode) (l : Lease) : (l.next b e).id = l.id :=
  congrArg Prod.fst (terms_next b e l)

/-- It keeps its receiver. -/
theorem receiver_next (b : Bench) (e : Episode) (l : Lease) :
    (l.next b e).receiver = l.receiver :=
  congrArg (fun terms => terms.2.1) (terms_next b e l)

/-- What is asked of the timer does not change when a tick is due. -/
theorem due_called (l : Lease) (call : Option Call) : (l.called call).due = l.due := by
  obtain ⟨ended, same⟩ := l.exists_called call
  rw [same]

/-- What an episode does to a lease that gets no tick. -/
theorem stirred_of_not_sends (other : b.sends? e ≠ some l.id) :
    l.stirred b.face (b.stirring e) = l ∨ l.stirred b.face (b.stirring e) = l.turned b.face := by
  cases label : b.stirring e with
  | tick id =>
    left
    rw [stirred, if_neg]
    rintro rfl
    exact other (stirring_eq_tick_iff.1 label)
  | turn id =>
    rw [stirred]
    split
    · exact .inr rfl
    · exact .inl rfl
  | _ => exact .inl rfl

/-- The episode that sends a lease's tick is its tick. -/
theorem stirred_of_sends (sends : b.sends? e = some l.id) :
    l.stirred b.face (b.stirring e) = l.ticked b.face := by
  rw [stirring_eq_tick_iff.2 sends, stirred, if_pos rfl]

/-- Only a tick changes when the next one is due. -/
theorem due_next (other : b.sends? e ≠ some l.id) : (l.next b e).due = l.due := by
  rw [next, due_called]
  rcases stirred_of_not_sends other with same | turned
  · rw [same]
  · rw [turned]
    rfl

/-- A lease that does not stand does not rise again. -/
theorem stands_of_next (stands : (l.next b e).stands = true) : l.stands = true := by
  have called {l : Lease} {call : Option Call} (stands : (l.called call).stands = true) :
      l.stands = true := by
    unfold Lease.called at stands
    split at stands
    · split at stands
      · cases stands
      · exact stands
    · cases stands
    · exact stands
  have stirred := called stands
  unfold Lease.stirred at stirred
  split at stirred
  · split at stirred
    · rw [stands_turned] at stirred
      exact (Bool.and_eq_true_iff.1 stirred).1
    · exact stirred
  · split at stirred
    · exact stirred
    · exact stirred
  · exact stirred

/-- The lease after a run. -/
def through : Lease → Bench → List Episode → Lease
  | l, _, [] => l
  | l, b, e :: more => (l.next b e).through (b.undergo e) more

/-- No run changes the terms of a lease. -/
theorem terms_through (l : Lease) (b : Bench) (episodes : List Episode) :
    (l.through b episodes).terms = l.terms := by
  induction episodes generalizing l b with
  | nil => rfl
  | cons e more ih => rw [through, ih, terms_next]

/-- Over a run it keeps its number. -/
theorem id_through (l : Lease) (b : Bench) (episodes : List Episode) :
    (l.through b episodes).id = l.id :=
  congrArg Prod.fst (terms_through l b episodes)

/-- It keeps its receiver. -/
theorem receiver_through (l : Lease) (b : Bench) (episodes : List Episode) :
    (l.through b episodes).receiver = l.receiver :=
  congrArg (fun terms => terms.2.1) (terms_through l b episodes)

/-- It keeps its interval. -/
theorem interval_through (l : Lease) (b : Bench) (episodes : List Episode) :
    (l.through b episodes).interval = l.interval :=
  congrArg (fun terms => terms.2.2.1) (terms_through l b episodes)

/-- It keeps the time at which it was made. -/
theorem made_through (l : Lease) (b : Bench) (episodes : List Episode) :
    (l.through b episodes).made = l.made :=
  congrArg (fun terms => terms.2.2.2) (terms_through l b episodes)

/-- A lease that fits still fits after a run. -/
theorem fits_through (sound : b.face.Sound) (fits : l.Fits b.face) (episodes : List Episode) :
    (l.through b episodes).Fits (b.through episodes).face := by
  induction episodes generalizing l b with
  | nil => exact fits
  | cons e more ih => exact ih (sound_undergo sound e) (fits_next sound fits e)

/-- A lease that stands after a run stood before it. -/
theorem stands_of_through {episodes : List Episode}
    (stands : (l.through b episodes).stands = true) : l.stands = true := by
  induction episodes generalizing l b with
  | nil => exact stands
  | cons e more ih => exact stands_of_next (ih stands)

end Lease

/-! ## What was asked for -/

/-- What is asked in a run is asked in its first episode or later. -/
theorem mem_calls_cons {call : Call} {more : List Episode} :
    call ∈ b.calls (e :: more) ↔ b.call? e = some call ∨ call ∈ (b.undergo e).calls more := by
  rw [calls, List.mem_append, Option.mem_toList]

/-- What is asked in two runs is asked in one of them. -/
theorem mem_calls_append {call : Call} {episodes more : List Episode} :
    call ∈ b.calls (episodes ++ more) ↔
      call ∈ b.calls episodes ∨ call ∈ (b.through episodes).calls more := by
  induction episodes generalizing b with
  | nil => exact (or_iff_right List.not_mem_nil).symm
  | cons first rest ih =>
    rw [List.cons_append, mem_calls_cons, mem_calls_cons, ih, or_assoc]
    rfl

/-- The timer ticks until it is shut down. -/
theorem isTicking_undergo (sound : b.face.Sound) (e : Episode) :
    (b.undergo e).timer.isTicking = true ↔
      b.timer.isTicking = true ∧ b.call? e ≠ some .shutDown := by
  obtain ⟨f, stirs, same⟩ := undergo_cases sound.keeps e
  have kept : f.timer.isTicking = b.timer.isTicking := by
    generalize b.stirring e = stirring at stirs
    cases stirs with
    | turn _ place id => exact Face.isTicking_turn place id b.face
    | tick _ place id => exact Face.isTicking_turn place id b.face
    | _ => rfl
  rw [show (b.undergo e).timer = (f.makes (b.call? e)).timer from congrArg Face.timer same, ← kept]
  cases b.call? e with
  | none => exact (and_iff_left nofun).symm
  | some call =>
    cases call with
    | subscribe receiver nanos =>
      refine Iff.trans ?_ (and_iff_left nofun).symm
      exact Eq.congr_left (Source.isTicking_subscribe receiver nanos)
    | unsubscribe id =>
      refine Iff.trans ?_ (and_iff_left nofun).symm
      exact Eq.congr_left (Source.isTicking_unsubscribe id)
    | shutDown =>
      have dead : (f.makes (some .shutDown)).timer.isTicking = false :=
        Source.isTicking_shutDown f.timer
      rw [dead]
      exact ⟨nofun, fun both => absurd rfl both.2⟩

/-- **A timer gives its subscriptions a pulse until it is shut down.** -/
theorem isTicking_through (sound : b.face.Sound) (episodes : List Episode) :
    (b.through episodes).timer.isTicking = true ↔
      b.timer.isTicking = true ∧ .shutDown ∉ b.calls episodes := by
  induction episodes generalizing b with
  | nil => exact (and_iff_left List.not_mem_nil).symm
  | cons e more ih =>
    refine (ih (sound_undergo sound e)).trans ?_
    rw [isTicking_undergo sound e, mem_calls_cons, not_or, and_assoc]

namespace Lease

variable {l : Lease}

/-- A lease is ended by its own end or by that of the timer. -/
theorem ended_next (b : Bench) (e : Episode) (l : Lease) : (l.next b e).ended = true ↔
    l.ended = true ∨ b.call? e = some (.unsubscribe l.id) ∨ b.call? e = some .shutDown := by
  have stirred : (l.stirred b.face (b.stirring e)).ended = l.ended ∧
      (l.stirred b.face (b.stirring e)).id = l.id := by
    unfold Lease.stirred
    split
    · split <;> exact ⟨rfl, rfl⟩
    · split <;> exact ⟨rfl, rfl⟩
    · exact ⟨rfl, rfl⟩
  rw [Lease.next, ← stirred.1, ← stirred.2]
  generalize l.stirred b.face (b.stirring e) = m
  cases b.call? e with
  | none => simp [called]
  | some call =>
    cases call with
    | subscribe receiver nanos => simp [called]
    | unsubscribe id =>
      if same : id = m.id then simp [called, same]
      else simp [called, same]
    | shutDown => simp [called]

/-- **A lease is ended by its number, or with all others.** -/
theorem ended_through (l : Lease) (b : Bench) (episodes : List Episode) :
    (l.through b episodes).ended = true ↔ l.ended = true ∨
      .unsubscribe l.id ∈ b.calls episodes ∨ .shutDown ∈ b.calls episodes := by
  induction episodes generalizing l b with
  | nil => simp [through, calls]
  | cons e more ih =>
    rw [through, ih, ended_next, id_next, mem_calls_cons, mem_calls_cons]
    tauto

end Lease

end Bench
end Timer
end HomeMedia
