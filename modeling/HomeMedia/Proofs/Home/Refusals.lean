import HomeMedia.Proofs.Session.Delivery
import HomeMedia.Proofs.Session.Issuing
/-!
# Requests that fail change nothing

A request fails if its response has no status of success. Whatever it was and wherever it failed,
the server is then what it was before, but for what it reported and one of two things: ids may have
been drawn, all of them taken, for a login that found none; or the caller may have been recorded as
active, if the request came from a session that is let in (`Spared`,
`failed_request_changes_nothing`).

Each part of an answer is *careful*: it has a status of success, or it spares the server
(`Careful`). Refusals are careful as long as nothing was done before them, so what has to be seen is
that nothing is done before the last check of each handler.
-/

namespace HomeMedia

/-- A response tells of success. -/
def Web.Response.Succeeds (response : Web.Response) : Prop :=
  200 ≤ response.status ∧ response.status < 300

namespace Home

open Web (Request Response Rejection Route)

/-- What may become of the server by a request that fails, apart from what is reported. -/
inductive Spared (r : Request) (h : Home) : Home → Prop where
  /-- It stays as it is. -/
  | untouched : Spared r h h
  /-- Ids have been drawn. -/
  | drawn (count : Nat) : Spared r h (h.onRegistry fun registry =>
      { registry with candidates := registry.candidates.skip count })
  /-- The caller, a session that is registered and logged in, has been active. -/
  | touched (id : String) (shown : r.sessionId? = some id) (serves : Serves id h) :
    Spared r h (h.touch id)

/-- An answer of success, or one that spares the server. -/
def Careful (r : Request) (h : Home) (answer : Response × Home) : Prop :=
  answer.1.Succeeds ∨ ∃ g events, Spared r h g ∧ answer.2 = g.report events

variable {r : Request} {h g : Home}

/-- Two reports are one. -/
theorem report_report (first later : List Event) (h : Home) :
    (h.report first).report later = h.report (first ++ later) := by
  simp [report]

/-- An answer with a status of success is careful. -/
theorem Careful.of_status {answer : Response × Home} (status : Nat)
    (same : answer.1.status = status) (success : 200 ≤ status ∧ status < 300) :
    Careful r h answer := by
  subst same
  exact .inl success

/-- A refusal spares the server. -/
theorem Spared.refuse (spared : Spared r h g) (e : Web.Error) : Careful r h (g.refuse e) :=
  .inr ⟨g, [.refused e], spared, rfl⟩

/-- It does so after a report, too. -/
theorem Spared.refuse_report (spared : Spared r h g) (events : List Event) (e : Web.Error) :
    Careful r h ((g.report events).refuse e) :=
  .inr ⟨g, _, spared, report_report ..⟩

/-- So does a rejection before the request is read. -/
theorem Spared.reject (spared : Spared r h g) (rejection : Rejection) :
    Careful r h (g.reject rejection) := .inr ⟨g, [], spared, (report_nil g).symm⟩

/-- A session that cannot be created costs ids. -/
theorem spared_of_createSession {timeout : Nat} {cause : Session.IdsExhausted}
    (failed : h.createSession timeout = (some (.error cause), g)) :
    ∃ k events, Spared r h k ∧ g = k.report events := by
  rcases createSession_cases timeout h with
    ⟨-, none⟩ | ⟨registry, -, ⟨n, -, s, released, -, created⟩ | ⟨-, cause', -, exhausted⟩⟩
  · cases failed.symm.trans none
  · cases failed.symm.trans created
  · cases failed.symm.trans exhausted
    exact ⟨_, _, .drawn Session.maxIdAttempts, rfl⟩

/-- A login that fails has drawn ids at most. -/
theorem logIn_careful (r : Request) (h : Home) : Careful r h (h.logIn r) := by
  unfold logIn
  split
  · exact Spared.untouched.reject _
  · dsimp only
    split
    · exact Spared.untouched.refuse _
    · split
      · exact Spared.untouched.refuse _
      · split
        · exact Spared.untouched.refuse_report _ _
        · split
          · exact .of_status 200 rfl (by decide)
          · rename_i cause g failed
            obtain ⟨k, events, spared, rfl⟩ := spared_of_createSession failed
            exact spared.refuse_report _ _
          · rename_i g absent
            rcases createSession_cases _ h with
              ⟨-, none⟩ | ⟨_, -, ⟨_, -, _, _, -, created⟩ | ⟨-, _, -, exhausted⟩⟩
            · cases absent.symm.trans none
              exact Spared.untouched.refuse _
            · cases absent.symm.trans created
            · cases absent.symm.trans exhausted

/-- Asking for changes is refused before any are handed out. -/
theorem pollUpdates_careful (spared : Spared r h g) (s : Session) :
    Careful r h (g.pollUpdates s r) := by
  unfold pollUpdates
  split
  · exact spared.reject _
  · split
    · exact spared.refuse _
    all_goals exact .of_status 200 rfl (by decide)

/-- Asking for a scan is refused before it is queued. -/
theorem requestScan_careful (spared : Spared r h g) (s : Session) :
    Careful r h (g.requestScan s r) := by
  unfold requestScan
  split
  · exact spared.reject _
  · split
    · exact spared.refuse _
    · exact .of_status 202 rfl (by decide)

/-- Cancelling is refused before any task is cancelled. -/
theorem cancelTask_careful (spared : Spared r h g) (written : Text.Bytes) :
    Careful r h (g.cancelTask written) := by
  unfold cancelTask
  split
  · exact spared.reject _
  · exact .of_status 204 rfl (by decide)

/-- Whatever a session asks for succeeds, or spares the server. -/
theorem answerSession_careful (spared : Spared r h g) (s : Session) (route : Route) :
    Careful r h (g.answerSession s r route) := by
  unfold answerSession
  split
  · exact .of_status 204 rfl (by decide)
  · exact .of_status 200 rfl (by decide)
  · exact pollUpdates_careful spared s
  · exact .of_status 200 rfl (by decide)
  · exact requestScan_careful spared s
  · exact cancelTask_careful spared _
  · exact spared.reject _

/-- **Whatever a request asks for** succeeds, or spares the server. -/
theorem answer_careful (r : Request) (route : Route) (h : Home) :
    Careful r h (h.answer r route) := by
  obtain ⟨response, quiet⟩ | ⟨rfl, login⟩ | ⟨stranger, caller⟩ := answer_cases r route h
  · exact .inr ⟨h, [], .untouched, by rw [quiet, report_nil]⟩
  · rw [login]
    exact logIn_careful r h
  · rcases authenticate_cases r h with ⟨e, events, refused⟩ | ⟨id, s, shown, found, login, accepted⟩
    · rw [stranger _ _ refused]
      exact Spared.untouched.refuse_report events e
    · rw [caller _ _ accepted]
      exact answerSession_careful (.touched id shown ⟨s, found, login⟩) _ route

/-- **A request that fails changes nothing**, apart from what is reported: the server is what it was
before, or ids have been drawn, or the caller has been active. -/
theorem failed_request_changes_nothing (r : Request) (h : Home)
    (failed : ¬(h.respond r).1.Succeeds) :
    ∃ g events, Spared r h g ∧ (h.respond r).2 = g.report events := by
  cases wanted : Route.ofRequest r with
  | error rejection =>
    have rejected : h.respond r = h.reject rejection := by rw [respond, wanted]
    exact ⟨h, [], .untouched, by rw [rejected, report_nil]; rfl⟩
  | ok route =>
    rw [respond_of_route wanted, Response.Succeeds, status_bodyFor] at failed
    rw [respond_of_route wanted]
    exact (answer_careful r route h).resolve_left failed

/-- A session asks for its pending changes in a way that makes no sense, and keeps them. -/
theorem failed_request_changes_nothing_asking :
    let r := { question "GET" with target := Text.Utf8.ofString "/ui/updates?updates=never" }
    ((serverOfOne.next (.command (.announce [3]))).respond r).1.status = 400 ∧
      ∃ g events, Spared r (serverOfOne.next (.command (.announce [3]))) g ∧
        ((serverOfOne.next (.command (.announce [3]))).respond r).2 = g.report events := by
  intro r
  have status : ((serverOfOne.next (.command (.announce [3]))).respond r).1.status = 400 := by
    decide
  refine ⟨status, failed_request_changes_nothing r _ fun success => ?_⟩
  rw [Response.Succeeds, status] at success
  exact absurd success.2 (by decide)

end Home
end HomeMedia
