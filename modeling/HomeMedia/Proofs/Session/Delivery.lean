import HomeMedia.Proofs.Session.Owing
/-!
# What becomes of a change that a session was told of

A session that is logged in owes every container that it is told of (`owes_of_mem_notices`), and as
long as it stays registered it goes on owing it through everything but two requests of its own: a
question for the pending changes, and the request to forget them (`owes_next`).

The question is asked with `GET`. Its route takes `HEAD` as well, runs the same handler, and sends
an empty body: then the changes are forgotten and nobody was told (`not_delivered_of_head`). So a
change is delivered at every later moment precisely if the first of the two requests after it is no
question that is asked with `HEAD` (`delivered_iff`).
-/

namespace HomeMedia
namespace Home

open Front (Move Moves Sound)
open Web (Request Response)

/-! ## Notices -/

/-- The containers that a happening tells the registry about from outside. -/
def Happening.names : Happening → List ObjectId
  | .command (.changed id) => [id]
  | .command (.changedAll ids) => ids
  | .command (.announce ids) => ids
  | _ => []

/-- The containers that sessions are told about while something happens, from outside or by
tasks. -/
def notices (happening : Happening) (h : Home) : List ObjectId :=
  happening.names ++
    ((h.next happening).traces.drop h.traces.length).flatMap Trace.containers

variable {h : Home} {c : ObjectId} {id : String}

/-- Only turns leave traces. -/
theorem traces_move {label : Front.Label} {f g : Front} (move : Move label f g)
    (other : label ≠ .turn) : g.traces = f.traces := by
  cases move with
  | turn step => exact absurd rfl other
  | create h timeout =>
    unfold createSession
    split
    · rfl
    · split
      · rfl
      · exact congrArg (fun roll => roll.2.1)
          (roll_checkTimer { h with registry := _, released := _ })
  | remove h id =>
    unfold removeSession
    split
    · rfl
    · exact congrArg (fun roll => roll.2.1) (roll_checkTimer (onRegistry _ _))
  | dropRegistry h => rfl
  | ask h id command => rfl
  | tell h ids => rfl
  | drainAll h => rfl
  | shutDown h => rfl

/-- What a happening that tells the registry does. -/
theorem front_next_of_names {happening : Happening} (named : c ∈ happening.names) (h : Home) :
    (h.next happening).front =
      (h.onRegistry (Session.Registry.changedAll happening.names)).front := by
  have direct : ∀ f : Session.Registry → Session.Registry,
      (h.ofRegistry fun _ => (.nothing, h.onRegistry f)).2 = h.onRegistry f := by
    intro f
    unfold ofRegistry
    split
    · rename_i none
      unfold onRegistry
      rw [none, Option.map_none, ← none]
    · rfl
  cases happening with
  | command command =>
    cases command with
    | changed id =>
      change (h.ofRegistry _).2.front = _
      rw [direct, Session.Registry.changed_eq]
      rfl
    | changedAll ids =>
      change (h.ofRegistry _).2.front = _
      rw [direct]
      rfl
    | announce ids =>
      change (h.ofRegistry _).2.front = _
      rw [direct, Session.Registry.announce_eq]
      rfl
    | _ => cases named
  | turn agent => cases named
  | reloop loop => cases named

/-- **A session that is logged in owes what it is told of.** -/
theorem owes_of_mem_notices (sound : h.front.Sound) {happening : Happening}
    (named : c ∈ h.notices happening) (valid : c ≠ ObjectId.invalid) {s : Session}
    (found : (h.next happening).session? id = some s) (login : s.loggedIn = true) : s.Owes c := by
  rcases List.mem_append.1 named with named | named
  · change (h.next happening).front.session? id = some s at found
    rw [front_next_of_names named] at found
    exact Front.owes_of_tell sound named valid found login
  · cases clients : happening.isForClients with
    | true =>
      have same : (h.next happening).front.traces = h.front.traces :=
        (next_moves happening h).keep (P := fun g => g.traces = h.front.traces)
          (fun label f g ok move kept => (traces_move move fun turn => by
            subst turn
            exact absurd (clients.symm.trans ok) (by decide)).trans kept) rfl
      rw [show (h.next happening).traces = h.traces from same, List.drop_length] at named
      cases named
    | false =>
      have told : Sound (h.next happening).front ∧
          Front.Announces h.front (h.next happening).front := by
        refine (next_moves happening h).keep
          (P := fun g => Sound g ∧ Front.Announces h.front g) ?_ ⟨sound, .of_traces rfl⟩
        rintro label f g ok move ⟨sf, announced⟩
        cases Happening.eq_turn_of_allows clients ok
        cases move with
        | turn step =>
          exact ⟨sf.step step, announced.trans (Front.continues_step sf step)
            (Front.announces_step sf step)⟩
      obtain ⟨-, new, traces, owes⟩ := told
      rw [show (h.next happening).traces = h.traces ++ new from traces, List.drop_left' rfl]
        at named
      exact owes c named valid id s found login

/-! ## What stays pending -/

/-- **A session that stays goes on owing**, unless it asks for the pending changes or has them
forgotten. -/
theorem owes_next (sound : h.front.Sound) {happening : Happening}
    (keeps : happening.drains id = false) (calm : happening.drainsDirectly = false) {s t : Session}
    (before : h.session? id = some s) (owes : s.Owes c)
    (after : (h.next happening).session? id = some t) : t.Owes c := by
  have quiet : ∀ {other : String} {command : Session.Command} {u : Session},
      happening.Allows (.ask other command) → u.id = id → command.drains = true → u.id ≠ other := by
    rintro other command u ⟨-, ok⟩ rfl drains rfl
    rcases ok drains with own | direct
    · exact absurd (keeps.symm.trans own) (by decide)
    · exact absurd (calm.symm.trans direct) (by decide)
  cases creates : happening.creates with
  | true =>
    -- Nobody leaves while a session is created, so the session can be followed forward.
    have clients := Happening.isForClients_of_creates creates
    have kept : Sound (h.next happening).front ∧
        ∃ t, (h.next happening).front.session? id = some t ∧ t.Owes c := by
      refine (next_moves happening h).keep
        (P := fun g => Sound g ∧ ∃ t, g.session? id = some t ∧ t.Owes c) ?_
        ⟨sound, s, before, owes⟩
      rintro label f g ok move ⟨sf, u, found, owed⟩
      refine ⟨sf.move move, ?_⟩
      cases move with
      | turn step => exact absurd (clients.symm.trans ok) (by decide)
      | create h timeout => exact ⟨u, Front.session?_createSession found timeout, owed⟩
      | remove h other => exact absurd (creates.symm.trans ok.2) (by decide)
      | dropRegistry h => exact absurd (creates.symm.trans ok.2) (by decide)
      | ask h other command =>
        rw [Front.session?_ask, found]
        exact ⟨_, rfl, Front.owes_ask owed (quiet ok (id_of_session? found))⟩
      | tell h ids =>
        rw [Front.session?_tell sf, found]
        exact ⟨_, rfl, Front.owes_tell owed ids⟩
      | drainAll h => exact absurd (calm.symm.trans ok) (by decide)
      | shutDown h => exact ⟨u, found, owed⟩
    obtain ⟨-, u, found, owed⟩ := kept
    cases found.symm.trans after
    exact owed
  | false =>
    -- Nobody is created, so the session can be followed back.
    have kept : Sound (h.next happening).front ∧
        ∀ t, (h.next happening).front.session? id = some t → t.Owes c := by
      refine (next_moves happening h).keep
        (P := fun g => Sound g ∧ ∀ t, g.session? id = some t → t.Owes c) ?_
        ⟨sound, fun u found => by cases before.symm.trans found; exact owes⟩
      rintro label f g ok move ⟨sf, owed⟩
      have back : Front.Continues f g → ∀ t, g.session? id = some t → t.Owes c := by
        intro continues t found
        obtain ⟨u, hu, -, more⟩ := continues id t found
        exact more c (owed u hu)
      refine ⟨sf.move move, ?_⟩
      cases move with
      | turn step => exact back (Front.continues_step sf step)
      | create h timeout => exact absurd (creates.symm.trans ok) (by decide)
      | remove h other => exact back (Front.continues_removeSession sf other)
      | dropRegistry h =>
        intro t found
        cases found
      | ask h other command =>
        intro t found
        rw [Front.session?_ask] at found
        obtain ⟨u, hu, rfl⟩ := Option.map_eq_some_iff.1 found
        exact Front.owes_ask (owed u hu) (quiet ok (id_of_session? hu))
      | tell h ids => exact back (Front.continues_tell sf ids)
      | drainAll h => exact absurd (calm.symm.trans ok) (by decide)
      | shutDown h => exact owed
    exact kept.2 t after

/-! ## Delivery -/

/-- A session is registered and logged in. -/
def Serves (id : String) (h : Home) : Prop := ∃ s, h.session? id = some s ∧ s.loggedIn = true

/-- A session owes a container. -/
def Owed (id : String) (c : ObjectId) (h : Home) : Prop :=
  ∃ s, h.session? id = some s ∧ s.Owes c

/-- After a run a container is still pending for a session; or the body of an answer to a question
of the session reported it; or the session had its pending changes forgotten. -/
def Delivered (id : String) (c : ObjectId) (h : Home) (run : List Happening) : Prop :=
  Owed id c (h.after run) ∨
    (∃ before r later, ∃ updates : Session.Updates,
      run = before ++ .command (.request r) :: later ∧ r.wish? = some (id, .get) ∧
        ((h.after before).respond r).1 =
          .json 200 (.object [("updates", .text updates.text)]) ∧ updates.Reports c) ∨
    ∃ r, .command (.request r) ∈ run ∧ r.wish? = some (id, .clear)

/-- A change stays pending as long as its session does not ask. -/
theorem pending_after (sound : h.front.Sound) {run : List Happening}
    (calm : ∀ happening ∈ run, happening.drainsDirectly = false)
    (keeps : ∀ happening ∈ run, happening.drains id = false)
    (serves : ∀ part, part <+: run → Serves id (h.after part)) (pending : Owed id c h) :
    Owed id c (h.after run) := by
  induction run generalizing h with
  | nil => exact pending
  | cons first more ih =>
    obtain ⟨s, before, owes⟩ := pending
    obtain ⟨t, after, -⟩ := serves [first] (List.prefix_append [first] more)
    refine ih (next_sound sound first) (fun e he => calm e (List.mem_cons_of_mem _ he))
      (fun e he => keeps e (List.mem_cons_of_mem _ he)) (fun part hpart => ?_) ⟨t, after, ?_⟩
    · exact serves (first :: part) ((List.prefix_cons_inj first).2 hpart)
    · exact owes_next sound (keeps first (List.mem_cons_self ..))
        (calm first (List.mem_cons_self ..)) before owes after

/-- A session's pending changes are drained by its requests to get or to clear them. -/
theorem drains_iff {happening : Happening} : happening.drains id = true ↔
    ∃ r, happening = .command (.request r) ∧
      (r.wish? = some (id, .get) ∨ r.wish? = some (id, .clear)) := by
  constructor
  · intro drains
    unfold Happening.drains at drains
    split at drains
    · rename_i r
      exact ⟨r, rfl, by simpa using drains⟩
    · cases drains
  · rintro ⟨r, rfl, wish⟩
    simpa [Happening.drains] using wish

/-- After a question nothing is pending, whatever its method was. -/
theorem not_pending_of_get (sound : h.front.Sound) (serves : Serves id h) {r : Request}
    (wish : r.wish? = some (id, .get)) :
    ¬Owed id c (h.next (.command (.request r))) := by
  obtain ⟨s, found, login⟩ := serves
  have answered := respond_of_wish wish sound.serves found login
  have front : (h.next (.command (.request r))).front =
      ((h.ask id (.accessAt h.now)).ask id .take).front :=
    congrArg (fun answer => answer.2.front) answered
  rintro ⟨t, after, owes⟩
  have after : (h.next (.command (.request r))).front.session? id = some t := after
  rw [front, Front.session?_ask, Front.session?_ask,
    show h.front.session? id = some s from found] at after
  have same : s.id = id := id_of_session? found
  obtain ⟨registry, hregistry, hfound⟩ := Option.bind_eq_some_iff.1 found
  have neat : s.Neat := sound.neat registry hregistry s (List.mem_of_find?_eq_some hfound)
  simp only [Option.map_some, same, beq_self_eq_true, if_true, Option.some.injEq] at after
  have same : ((s.run (.accessAt h.now)).2).id = id := same
  rw [same, beq_self_eq_true, if_pos rfl] at after
  subst after
  exact Session.not_owes_told (neat.run (.accessAt h.now)) owes

/-- A first part of a run ends before some happening, or goes through it. -/
theorem prefix_cases {part front rest : List Happening} {middle : Happening}
    (hpart : part <+: front ++ middle :: rest) :
    part <+: front ∨ ∃ later, part = front ++ middle :: later := by
  rcases List.prefix_or_prefix_of_prefix hpart (List.prefix_append front _) with
    short | ⟨tail, rfl⟩
  · exact .inl short
  · rcases List.prefix_cons_iff.1 ((List.prefix_append_right_inj front).1 hpart) with
      rfl | ⟨later, rfl, -⟩
    · exact .inl (by rw [List.append_nil])
    · exact .inr ⟨later, rfl⟩

/-- **A change that is answered is delivered.**  It is pending up to the first of the two requests;
if that is a question with `GET`, it is answered, and if it is not a question it forgets. -/
theorem delivered_of_prefix (sound : h.front.Sound) {run part : List Happening}
    (calm : ∀ happening ∈ run, happening.drainsDirectly = false)
    (serves : ∀ part, part <+: run → Serves id (h.after part)) (pending : Owed id c h)
    (answered : ∀ r, run.find? (Happening.drains id) = some (.command (.request r)) →
      r.wish? = some (id, .get) → r.method ≠ "HEAD")
    (hpart : part <+: run) : Delivered id c h part := by
  have waits : ∀ {front : List Happening}, front <+: run →
      (∀ happening ∈ front, happening.drains id = false) → Owed id c (h.after front) :=
    fun hfront keeps => pending_after sound (fun e he => calm e (hfront.subset he)) keeps
      (fun q hq => serves q (hq.trans hfront)) pending
  cases found : run.find? (Happening.drains id) with
  | none =>
    refine .inl (waits hpart fun e he => Bool.eq_false_iff.2 ?_)
    exact List.find?_eq_none.1 found e (hpart.subset he)
  | some drain =>
    obtain ⟨hdrain, front, rest, rfl, keeps⟩ := List.find?_eq_some_iff_append.1 found
    have keeps : ∀ happening ∈ front, happening.drains id = false := fun e he => by
      simpa using keeps e he
    rcases prefix_cases hpart with short | ⟨later, rfl⟩
    · exact .inl (waits hpart fun e he => keeps e (short.subset he))
    · obtain ⟨r, rfl, wish | wish⟩ := drains_iff.1 hdrain
      · have hfront : front <+: front ++ Happening.command (.request r) :: rest :=
          List.prefix_append ..
        obtain ⟨s, hs, owes⟩ := waits hfront keeps
        obtain ⟨t, ht, login⟩ := serves front hfront
        cases hs.symm.trans ht
        have response := congrArg Prod.fst
          (respond_of_wish wish (after_sound sound front).serves hs login)
        rw [if_neg (answered r found wish)] at response
        exact .inr (.inl ⟨front, r, later, s.updates, rfl, wish, response, owes⟩)
      · exact .inr (.inr ⟨r, by simp, wish⟩)

/-- **A question that is asked with `HEAD` loses every change.**  Right after it nothing is pending,
and its answer has no body. -/
theorem not_delivered_of_head (sound : h.front.Sound) (front : List Happening) {r : Request}
    (keeps : ∀ happening ∈ front, happening.drains id = false)
    (serves : Serves id (h.after front)) (wish : r.wish? = some (id, .get))
    (head : r.method = "HEAD") :
    ¬Delivered id c h (front ++ [.command (.request r)]) := by
  have sound := after_sound sound front
  rintro (pending | ⟨before, other, later, updates, split, asked, response, -⟩ |
    ⟨other, mem, asked⟩)
  · rw [after_concat] at pending
    exact not_pending_of_get sound serves wish pending
  · rcases List.eq_nil_or_concat' later with rfl | ⟨init, last, rfl⟩
    · -- The answered question would be the last request, whose body was left away.
      obtain ⟨rfl, same⟩ := List.append_inj' split rfl
      cases same
      obtain ⟨s, found, login⟩ := serves
      have empty := congrArg Prod.fst (respond_of_wish wish sound.serves found login)
      rw [if_pos head, response] at empty
      cases empty
    · -- The answered question would be earlier.
      rw [← List.cons_append, ← List.append_assoc] at split
      have mem : Happening.command (.request other) ∈ front := by
        rw [(List.append_inj' split rfl).1]
        simp
      have drains := drains_iff.2 ⟨other, rfl, .inl asked⟩
      exact absurd (drains.symm.trans (keeps _ mem)) (by decide)
  · rcases List.mem_append.1 mem with mem | mem
    · have drains := drains_iff.2 ⟨other, rfl, .inr asked⟩
      exact absurd (drains.symm.trans (keeps _ mem)) (by decide)
    · cases List.mem_singleton.1 mem
      cases wish.symm.trans asked

/-- A server with a new registry is sound, if it looks sessions up. -/
theorem openRegistry_sound (h : Home) (ui : Settings.Ui) (ids : Session.Candidates) :
    (openRegistry ui ids { h with servesSessions := true }).front.Sound where
  serves := rfl
  tidy r hr := by
    cases hr
    exact .ofSettings ui ids
  neat r hr := by
    cases hr
    exact fun s hs => by cases hs

/-- **Which changes are delivered.**  Let a session be told of a container while something happens,
and let it stay registered and logged in from then on. What happens later is anything but a direct
access to the pending changes, past the web interface. Then the change is delivered at every later
moment iff the first request of the session for its pending changes, or to forget them, is no
question that is asked with `HEAD`. -/
theorem delivered_iff (h₀ : Home) (ui : Settings.Ui) (ids : Session.Candidates)
    (before : List Happening) (happening : Happening) (later : List Happening) (id : String)
    (c : ObjectId) (valid : c ≠ ObjectId.invalid) :
    let h := (openRegistry ui ids { h₀ with servesSessions := true }).after before
    c ∈ h.notices happening →
    (∀ e ∈ later, e.drainsDirectly = false) →
    (∀ part, part <+: later → Serves id ((h.next happening).after part)) →
    ((∀ part, part <+: later → Delivered id c (h.next happening) part) ↔
      ∀ r, later.find? (Happening.drains id) = some (.command (.request r)) →
        r.wish? = some (id, .get) → r.method ≠ "HEAD") := by
  intro h named calm serves
  have sound : h.front.Sound := after_sound (openRegistry_sound h₀ ui ids) before
  have soundNext := next_sound sound happening
  constructor
  · intro delivered r found wish head
    obtain ⟨-, front, rest, rfl, keeps⟩ := List.find?_eq_some_iff_append.1 found
    refine not_delivered_of_head soundNext front (fun e he => by simpa using keeps e he)
      (serves front (List.prefix_append ..)) wish head (delivered _ ⟨rest, ?_⟩)
    exact (List.append_cons ..).symm
  · intro answered part hpart
    obtain ⟨s, found, login⟩ := serves [] List.nil_prefix
    exact delivered_of_prefix soundNext calm serves
      ⟨s, found, owes_of_mem_notices sound named valid found login⟩ answered hpart

/-- The session `a` asks for its pending changes. -/
def question (method : String) : Request :=
  { method, target := Text.Utf8.ofString "/ui/updates?updates=get",
    sessions := [Text.Utf8.ofString "a"] }

/-- A server with one session, `a`, that is logged in. -/
def serverOfOne : Home :=
  (openRegistry {} (.scripted ["a"]) { ({} : Home) with servesSessions := true }).after
    [.command (.createSession none), .command (.onSession "a" (.logIn true))]

/-- The session stays logged in, whichever way it asks. -/
theorem serves_question {method : String} (known : method = "GET" ∨ method = "HEAD") :
    ∀ part, part <+: [.command (.request (question method))] →
      Serves "a" ((serverOfOne.next (.command (.announce [3]))).after part) := by
  intro part hpart
  rcases List.prefix_cons_iff.1 hpart with rfl | ⟨more, rfl, hmore⟩
  · exact ⟨_, rfl, rfl⟩
  · cases List.prefix_nil.1 hmore
    rcases known with rfl | rfl <;> exact ⟨_, rfl, rfl⟩

/-- A change that is asked for with `GET` is delivered. -/
theorem delivered_iff_get : 3 ∈ serverOfOne.notices (.command (.announce [3])) ∧
    Delivered "a" 3 (serverOfOne.next (.command (.announce [3])))
      [.command (.request (question "GET"))] := by
  have named : 3 ∈ serverOfOne.notices (.command (.announce [3])) := by decide
  have condition := delivered_iff {} {} (.scripted ["a"])
    [.command (.createSession none), .command (.onSession "a" (.logIn true))]
    (.command (.announce [3])) [.command (.request (question "GET"))] "a" 3 (by decide)
    named (by simp [Happening.drainsDirectly]) (serves_question (.inl rfl))
  refine ⟨named, condition.2 (fun r found => ?_) _ List.prefix_rfl⟩
  cases found
  exact fun _ => by decide

/-- A change that is asked for with `HEAD` is lost, though the session was told of it and stays
logged in. -/
theorem head_loses_change :
    (3 : ObjectId) ≠ ObjectId.invalid ∧ 3 ∈ serverOfOne.notices (.command (.announce [3])) ∧
      (∀ part, part <+: [.command (.request (question "HEAD"))] →
        Serves "a" ((serverOfOne.next (.command (.announce [3]))).after part)) ∧
      ¬Delivered "a" 3 (serverOfOne.next (.command (.announce [3])))
        [.command (.request (question "HEAD"))] := by
  refine ⟨by decide, by decide, serves_question (.inr rfl), ?_⟩
  have sound : serverOfOne.front.Sound := after_sound (openRegistry_sound {} {} _) _
  exact not_delivered_of_head (r := question "HEAD")
    (next_sound sound (.command (.announce [3]))) [] (fun e he => by cases he)
    (serves_question (.inr rfl) [] List.nil_prefix) (by decide) rfl

end Home
end HomeMedia
