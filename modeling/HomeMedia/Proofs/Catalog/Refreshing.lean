import HomeMedia.Catalog
import HomeMedia.Proofs.Catalog.Listing
import HomeMedia.Proofs.Library
import HomeMedia.Proofs.Rescan.Reporting
/-!
# What a refresh adds to the library

A refresh that fails leaves the library as it is. One that gets a listing handles its items in their
order up to the first look that finds the token set, and of these the library gains those that it
did not know, behind what it has. If there are any, the container of the catalog is named, and it is
the same one for good: places keep their numbers through all additions, and a refresh comes to
additions only. Around a refresh it is announced once what was named.
-/

namespace HomeMedia

namespace Library

variable {l : Library}

/-- The items of a service at some addresses that a library does not know, each once. -/
def news (l : Library) (service : String) (urls : List String) : List (String × String) :=
  ((urls.map fun url => (service, url)).filter fun item => !l.items.contains item).eraseDups

/-- An item that is known is no news. -/
theorem news_cons_of_known {service url : String} (known : (service, url) ∈ l.items)
    (urls : List String) : l.news service (url :: urls) = l.news service urls := by
  simp [news, known]

/-- What is new is known from then on. -/
theorem news_cons_of_new {service url : String} (new : (service, url) ∉ l.items)
    (urls : List String) {next : Library} (items : next.items = l.items ++ [(service, url)]) :
    l.news service (url :: urls) = (service, url) :: next.news service urls := by
  simp only [news, List.map_cons]
  rw [List.filter_cons_of_pos (by simpa using new), List.eraseDups_cons, List.filter_filter, items]
  refine congrArg ((service, url) :: List.eraseDups ·) (List.filter_congr fun item _ => ?_)
  rw [Bool.eq_iff_iff]
  simp [and_comm]

/-- What is added of a service. -/
def ofService (service : String) (urls : List String) : List Addition := urls.map (.item service)

/-- **One item more.** -/
theorem add_item_cases (service url : String) (l : Library) :
    (service, url) ∈ l.items ∧ l.addItem service url = (none, l) ∨
    (service, url) ∉ l.items ∧ ∃ id next, l.addItem service url = (some id, next) ∧
      next.items = l.items ++ [(service, url)] ∧ next.files = l.files ∧
      next.serviceId? service = some id := by
  rcases add_cases (.item service url) l with ⟨known, same⟩ | ⟨new, id, places, added, grown⟩
  · exact .inl ⟨known, same⟩
  · rcases grown with ⟨lacks, -⟩ | ⟨place, has, -, found⟩
    · cases lacks
    · cases has
      exact .inr ⟨new, id, _, added, rfl, List.append_nil _, found _ _⟩

/-- **Several items of a service**: those that are new are added behind the others. -/
theorem after_ofService (service : String) (urls : List String) (l : Library) :
    (l.after (ofService service urls)).items = l.items ++ l.news service urls ∧
      (l.after (ofService service urls)).files = l.files := by
  induction urls generalizing l with
  | nil => exact ⟨(List.append_nil _).symm, rfl⟩
  | cons url urls ih =>
    change ((l.addItem service url).2.after (ofService service urls)).items = _ ∧
      ((l.addItem service url).2.after (ofService service urls)).files = _
    obtain ⟨items, files⟩ := ih (l.addItem service url).2
    rw [items, files]
    rcases add_item_cases service url l with ⟨known, same⟩ | ⟨new, id, next, added, grown, kept, -⟩
    · rw [same, news_cons_of_known known]
      exact ⟨rfl, rfl⟩
    · rw [added, news_cons_of_new new urls grown]
      dsimp only
      rw [grown, List.append_assoc]
      exact ⟨rfl, kept⟩

/-- Without anything new nothing changes. -/
theorem after_ofService_of_known {service : String} {urls : List String}
    (known : l.news service urls = []) : l.after (ofService service urls) = l := by
  refine after_of_known fun a mem => ?_
  obtain ⟨url, listed, rfl⟩ := List.mem_map.1 mem
  change (service, url) ∈ l.items
  by_contra new
  have kept : (service, url) ∈ l.news service urls :=
    List.mem_eraseDups.2 (List.mem_filter.2 ⟨List.mem_map_of_mem listed, by simpa using new⟩)
  rw [known] at kept
  cases kept

end Library

namespace Catalog

/-- The items that come before the first look that finds the token set, if looks are counted from
some number. -/
def handled (isCancelled : Nat → Bool) (looks : Nat) (items : List Item) : List Item :=
  ((items.zipIdx looks).takeWhile fun look => !isCancelled look.2).map Prod.fst

/-- An item is handled if the look before it finds the token unset, and only then those behind it
can be. -/
theorem handled_cons (isCancelled : Nat → Bool) (looks : Nat) (item : Item) (more : List Item) :
    handled isCancelled looks (item :: more) =
      if isCancelled looks then [] else item :: handled isCancelled (looks + 1) more := by
  rw [handled, List.zipIdx_cons, List.takeWhile_cons]
  cases isCancelled looks <;> rfl

variable (c : Catalog) (isCancelled : Nat → Bool)

/-- **What the loop over the items does**, from any look on: it adds the items that it handles, and
if one of them was new, the container of the catalog is among those that changed, once. -/
theorem addItems_cases (items : List Item) (looks : Nat) (changed : List ObjectId) (l : Library) :
    let urls := (handled isCancelled looks items).map Item.url
    let next := l.after (Library.ofService c.name urls)
    l.news c.name urls = [] ∧ c.addItems isCancelled items looks changed l = (changed, next) ∨
    l.news c.name urls ≠ [] ∧ ∃ id, next.serviceId? c.name = some id ∧
      c.addItems isCancelled items looks changed l =
        (if id ∈ changed then changed else changed ++ [id], next) := by
  induction items generalizing looks changed l with
  | nil => exact .inl ⟨rfl, rfl⟩
  | cons item more ih =>
    rw [handled_cons]
    unfold addItems
    split
    · exact .inl ⟨rfl, rfl⟩
    · simp only [List.map_cons]
      have step : l.after (Library.ofService c.name
          (item.url :: (handled isCancelled (looks + 1) more).map Item.url)) =
        (l.addItem c.name item.url).2.after (Library.ofService c.name
          ((handled isCancelled (looks + 1) more).map Item.url)) := rfl
      rw [step]
      rcases Library.add_item_cases c.name item.url l with
        ⟨known, same⟩ | ⟨new, id, next, added, grown, -, found⟩
      · rw [same, Library.news_cons_of_known known]
        exact ih ..
      · rw [added, Library.news_cons_of_new new _ grown]
        refine .inr ⟨List.cons_ne_nil _ _, id, Library.placeId?_after found _, ?_⟩
        dsimp only
        rcases ih (looks + 1) (if id ∈ changed then changed else changed ++ [id]) next with
          ⟨-, done⟩ | ⟨-, other, same, done⟩
        · exact done
        · cases (Library.placeId?_after found _).symm.trans same
          rw [done, if_pos]
          split
          · assumption
          · simp

/-! ## One refresh -/

variable {c} {answer : Answer} {l : Library}

/-- An answer that gives a listing has a status of success and a body that can be read. -/
theorem fetch_eq_ok_iff {items : List Item} : c.fetch answer = .ok items ↔
    ∃ status body complaint, answer = .response status body complaint ∧
      200 ≤ status ∧ status ≤ 299 ∧ listing? body = some items := by
  cases answer with
  | lost reason => simp [fetch]
  | late => simp [fetch]
  | response status body complaint =>
    have range : Web.Status.isSuccess status = true ↔ 200 ≤ status ∧ status ≤ 299 := by
      simp [Web.Status.isSuccess]
    simp only [fetch, Answer.response.injEq]
    cases met : Web.Status.isSuccess status <;> cases read : listing? body <;>
      simp_all

/-- A refresh whose answer gives no listing fails, and leaves the library as it is. -/
theorem refresh_of_refused (refused : ∀ items, c.fetch answer ≠ .ok items)
    (isCancelled : Nat → Bool) (l : Library) :
    ∃ e, c.refresh isCancelled answer l = (.error e, l) := by
  unfold refresh
  cases fetched : c.fetch answer with
  | error e => exact ⟨e, rfl⟩
  | ok items => exact absurd fetched (refused items)

/-- **What a refresh comes to** if the answer gives a listing: the items that were handled are
added, and the container of the catalog is named if one of them was new. -/
theorem refresh_of_listing {items : List Item} (fetched : c.fetch answer = .ok items)
    (isCancelled : Nat → Bool) (l : Library) :
    let urls := (handled isCancelled 0 items).map Item.url
    let next := l.after (Library.ofService c.name urls)
    l.news c.name urls = [] ∧ c.refresh isCancelled answer l = (.ok [], next) ∨
    l.news c.name urls ≠ [] ∧ ∃ id, next.serviceId? c.name = some id ∧
      c.refresh isCancelled answer l = (.ok [id], next) := by
  intro urls next
  unfold refresh
  rw [fetched]
  dsimp only
  rcases addItems_cases c isCancelled items 0 [] l with ⟨old, done⟩ | ⟨gained, id, found, done⟩
  · exact .inl ⟨old, by rw [done]⟩
  · exact .inr ⟨gained, id, found, by rw [done, if_neg List.not_mem_nil, List.nil_append]⟩

/-- **What any refresh comes to**: the library and the containers that are named are as before and
none, or it has gained items of the catalog, whose container is named. -/
theorem refresh_cases (c : Catalog) (isCancelled : Nat → Bool) (answer : Answer) (l : Library) :
    (∃ result, c.refresh isCancelled answer l = (result, l) ∧ ∀ ids, result = .ok ids → ids = []) ∨
    ∃ urls id, l.news c.name urls ≠ [] ∧
      (l.after (Library.ofService c.name urls)).serviceId? c.name = some id ∧
      c.refresh isCancelled answer l = (.ok [id], l.after (Library.ofService c.name urls)) := by
  by_cases listed : ∃ items, c.fetch answer = .ok items
  · obtain ⟨items, fetched⟩ := listed
    rcases refresh_of_listing fetched isCancelled l with
      ⟨old, done⟩ | ⟨gained, id, found, done⟩
    · rw [Library.after_ofService_of_known old] at done
      exact .inl ⟨_, done, fun ids same => by cases same; rfl⟩
    · exact .inr ⟨_, id, gained, found, done⟩
  · obtain ⟨e, failed⟩ := refresh_of_refused
      (fun items fetched => listed ⟨items, fetched⟩) isCancelled l
    exact .inl ⟨_, failed, fun ids same => by cases same⟩

end Catalog

/-! ## Runs -/

namespace Library

/-- What can be done to a library. -/
inductive Change where
  /-- A scan or somebody else adds something. -/
  | addition (a : Addition)
  /-- A catalog is refreshed. -/
  | refresh (c : Catalog) (isCancelled : Nat → Bool) (answer : Catalog.Answer)

/-- The library after a change. -/
def change (l : Library) : Change → Library
  | .addition a => (l.add a).2
  | .refresh c isCancelled answer => (c.refresh isCancelled answer l).2

/-- The library after several changes. -/
def changed (l : Library) (changes : List Change) : Library := changes.foldl change l

/-- A change comes to some additions. -/
theorem exists_additions_of_change (change : Change) (l : Library) :
    ∃ additions, l.change change = l.after additions := by
  cases change with
  | addition a => exact ⟨[a], rfl⟩
  | refresh c isCancelled answer =>
    rcases c.refresh_cases isCancelled answer l with ⟨_, done, -⟩ | ⟨urls, id, -, -, done⟩
    · exact ⟨[], congrArg Prod.snd done⟩
    · exact ⟨_, congrArg Prod.snd done⟩

/-- So do several changes. -/
theorem exists_additions_of_changed (changes : List Change) (l : Library) :
    ∃ additions, l.changed changes = l.after additions := by
  induction changes generalizing l with
  | nil => exact ⟨[], rfl⟩
  | cons change changes ih =>
    obtain ⟨first, same⟩ := exists_additions_of_change change l
    obtain ⟨more, rest⟩ := ih (l.change change)
    refine ⟨first ++ more, rest.trans ?_⟩
    rw [same, after_append]

/-- A place keeps its number through all changes. -/
theorem placeId?_of_changed {l : Library} {place : Place} {id : ObjectId}
    (found : l.placeId? place = some id) (changes : List Change) :
    (l.changed changes).placeId? place = some id := by
  obtain ⟨additions, same⟩ := exists_additions_of_changed changes l
  rw [same]
  exact placeId?_after found additions

end Library

/-! ## A fetch around a refresh -/

namespace Catalog

/-- A whole fetch from a catalog: whether the token is valid at its start and at its end, and which
of the looks in between find it set. -/
def update (c : Catalog) (scheduled valid : Bool) (isCancelled : Nat → Bool) (stillValid : Bool)
    (answer : Answer) (l : Library) : Refresh.Conclusion × Library :=
  if valid then
    let (result, next) := c.refresh isCancelled answer l
    (Refresh.fetch c.name scheduled valid result stillValid, next)
  else (Refresh.fetch c.name scheduled valid (.ok []) stillValid, l)

variable {c : Catalog} {isCancelled : Nat → Bool} {answer : Answer} {l : Library}

/-- Whatever has become of the token, it is announced that the catalog gained something. -/
theorem announced_refresh (c : Catalog) (isCancelled : Nat → Bool) (answer : Answer)
    (l : Library) (service : String) (valid : Bool) :
    let run := c.refresh isCancelled answer l
    let announced := (Refresh.conclude service valid run.1).announced
    run.2 = l ∧ announced = none ∨
      run.2.items ≠ l.items ∧ ∃ id, run.2.serviceId? c.name = some id ∧ announced = some [id] := by
  rcases c.refresh_cases isCancelled answer l with
    ⟨result, done, nothing⟩ | ⟨urls, id, gained, found, done⟩
  · rw [done]
    refine .inl ⟨rfl, ?_⟩
    cases result with
    | error e => rfl
    | ok ids =>
      cases nothing ids rfl
      rfl
  · rw [done]
    refine .inr ⟨?_, id, found, rfl⟩
    rw [(Library.after_ofService ..).1]
    exact fun same => gained (List.append_right_eq_self.1 same)

/-- A home server leaves a trace of what is announced, once. -/
theorem traces_conclude (answer : Except Task.Error (List ObjectId)) (h : Home) :
    (h.conclude answer).traces = h.traces ++
      ((Refresh.conclude h.service.name h.work.isValid answer).announced.map
        Home.Trace.announced).toList := by
  unfold Home.conclude
  generalize Refresh.conclude h.service.name h.work.isValid answer = conclusion
  dsimp only
  rw [Rescan.traces_finish]
  cases conclusion.announced with
  | none => exact (List.append_nil _).symm
  | some ids => rfl

/-- What was added is not new. -/
theorem news_after (urls : List String) :
    (l.after (Library.ofService c.name urls)).news c.name urls = [] := by
  refine List.eq_nil_iff_forall_not_mem.2 fun item mem => ?_
  obtain ⟨mem, new⟩ := List.mem_filter.1 (List.mem_eraseDups.1 mem)
  rw [(Library.after_ofService ..).1] at new
  simp only [List.contains_append, Bool.not_or, Bool.and_eq_true] at new
  obtain ⟨unknown, fresh⟩ := new
  have added : item ∈ l.news c.name urls :=
    List.mem_eraseDups.2 (List.mem_filter.2 ⟨mem, unknown⟩)
  simp [added] at fresh

/-- All refreshes of a run that name a container of a catalog name the same one. -/
theorem exists_id_of_run (c : Catalog) (l : Library) (changes : List Library.Change) :
    ∃ id, ∀ before looks again later, changes = before ++ .refresh c looks again :: later →
      ∀ ids, (c.refresh looks again (l.changed before)).1 = .ok ids → ids = [] ∨ ids = [id] := by
  -- It is the one that is known at the end.
  refine ⟨((l.changed changes).serviceId? c.name).getD 0, ?_⟩
  rintro before looks again later rfl ids named
  rcases c.refresh_cases looks again (l.changed before) with
    ⟨result, done, nothing⟩ | ⟨urls, id, -, found, done⟩
  · rw [done] at named
    exact .inl (nothing ids named)
  · rw [done] at named
    cases named
    have split : l.changed (before ++ .refresh c looks again :: later) =
        (c.refresh looks again (l.changed before)).2.changed later := List.foldl_append
    have kept : (l.changed (before ++ .refresh c looks again :: later)).serviceId? c.name =
        some id := by
      rw [split, done]
      exact Library.placeId?_of_changed found later
    rw [kept]
    exact .inr rfl

/-- A fetch that finds its token set does nothing, and any other refreshes the library and announces
what was gained. -/
theorem announced_update (c : Catalog) (isCancelled : Nat → Bool) (answer : Answer)
    (l : Library) (scheduled valid stillValid : Bool) :
    let run := c.update scheduled valid isCancelled stillValid answer l
    run.2 = (if valid then (c.refresh isCancelled answer l).2 else l) ∧
      (run.2 = l ∧ run.1.announced = none ∨ valid = true ∧ run.2.items ≠ l.items ∧
        ∃ id, run.2.serviceId? c.name = some id ∧ run.1.announced = some [id]) := by
  cases valid with
  | false => exact ⟨rfl, .inl ⟨rfl, rfl⟩⟩
  | true =>
    refine ⟨rfl, ?_⟩
    rcases announced_refresh c isCancelled answer l c.name stillValid with same | gained
    · exact .inl same
    · exact .inr ⟨rfl, gained⟩

/-- A listing that is refreshed from twice adds its items the first time only. -/
theorem refresh_twice {items : List Item} (fetched : c.fetch answer = .ok items)
    (isCancelled : Nat → Bool) (l : Library) :
    let new := l.news c.name ((handled isCancelled 0 items).map Item.url)
    ∃ changed next, c.refresh isCancelled answer l = (.ok changed, next) ∧
      next.items = l.items ++ new ∧ next.files = l.files ∧
      (new = [] → changed = [] ∧ next = l) ∧
      (new ≠ [] → ∃ id, changed = [id] ∧ next.serviceId? c.name = some id) ∧
      c.refresh isCancelled answer next = (.ok [], next) := by
  intro new
  let next := l.after (Library.ofService c.name ((handled isCancelled 0 items).map Item.url))
  obtain ⟨grown, files⟩ := Library.after_ofService c.name
    ((handled isCancelled 0 items).map Item.url) l
  have again : c.refresh isCancelled answer next = (.ok [], next) := by
    rcases refresh_of_listing fetched isCancelled next with
      ⟨old, done⟩ | ⟨gained, -⟩
    · rw [Library.after_ofService_of_known old] at done
      exact done
    · exact absurd (news_after _) gained
  rcases refresh_of_listing fetched isCancelled l with
    ⟨old, done⟩ | ⟨gained, id, found, done⟩
  · refine ⟨[], next, done, grown, files, fun _ => ⟨rfl, ?_⟩, fun gained => absurd old gained,
      again⟩
    exact Library.after_ofService_of_known old
  · exact ⟨[id], next, done, grown, files, fun old => absurd old gained,
      fun _ => ⟨id, rfl, found⟩, again⟩

/-- One item that cannot be read refuses a whole answer. -/
theorem refresh_of_bad_item {ms : List (String × Json)} {vs : List Json} {bad : Json}
    (items : Json.given "items" ms = [.list vs]) (mem : bad ∈ vs)
    (refused : Item.ofJson? bad = none) (c : Catalog) (isCancelled : Nat → Bool) (status : Nat)
    (complaint : String) (l : Library) : ∃ e, c.refresh isCancelled
      (.response status (Text.Utf8.ofString (Json.object ms).render) complaint) l =
        (.error e, l) := by
  refine refresh_of_refused (fun accepted fetched => ?_) isCancelled l
  obtain ⟨_, _, _, same, -, -, read⟩ := fetch_eq_ok_iff.1 fetched
  cases same
  rw [listing?_render, listed?, items] at read
  cases (mapM_ofJson?_of_bad mem refused).symm.trans read

/-- **What a refresh adds to the library, and what is told of it**, whatever the library holds, the
service answers and the looks at the token find. Without an answer of a status of success that gives
a listing, the refresh fails and the library is as before. A body that is the text of a JSON value
gives what the value lists, and nothing if one of its items cannot be read. Otherwise the items of
the library are the old ones and those that were handled before a look found the token set, under
the name of the catalog, each of them once; the container of the catalog is named if one of them was
new; and doing it again adds nothing. In a run of additions and refreshes of any catalogs, the
refreshes of one catalog name the same container, if any. A fetch whose token is set at its start
leaves the library as it is. Any other turns to the service and leaves what the refresh makes of the
library, and it announces once that this container gained something, if it did, also if its token
was set meanwhile, and nothing else; and so the home server does. -/
theorem library_gains_handled (c : Catalog) (isCancelled : Nat → Bool) (answer : Answer)
    (l : Library) :
    ((¬∃ status body complaint items, answer = .response status body complaint ∧
        200 ≤ status ∧ status ≤ 299 ∧ listing? body = some items) →
      ∃ e, c.refresh isCancelled answer l = (.error e, l)) ∧
    (∀ v : Json, listing? (Text.Utf8.ofString v.render) = listed? v) ∧
    (∀ status complaint ms vs bad, Json.given "items" ms = [.list vs] → bad ∈ vs →
      Item.ofJson? bad = none → ∃ e, c.refresh isCancelled
        (.response status (Text.Utf8.ofString (Json.object ms).render) complaint) l =
          (.error e, l)) ∧
    (∀ status body complaint items, answer = .response status body complaint →
      200 ≤ status → status ≤ 299 → listing? body = some items →
      let new := l.news c.name ((handled isCancelled 0 items).map Item.url)
      ∃ changed next, c.refresh isCancelled answer l = (.ok changed, next) ∧
        next.items = l.items ++ new ∧ next.files = l.files ∧
        (new = [] → changed = [] ∧ next = l) ∧
        (new ≠ [] → ∃ id, changed = [id] ∧ next.serviceId? c.name = some id) ∧
        c.refresh isCancelled answer next = (.ok [], next)) ∧
    (∀ changes : List Library.Change, ∃ id, ∀ before looks again later,
      changes = before ++ .refresh c looks again :: later →
        ∀ ids, (c.refresh looks again (l.changed before)).1 = .ok ids → ids = [] ∨ ids = [id]) ∧
    (∀ scheduled valid stillValid,
      let run := c.update scheduled valid isCancelled stillValid answer l
      run.2 = (if valid then (c.refresh isCancelled answer l).2 else l) ∧
        (run.2 = l ∧ run.1.announced = none ∨ valid = true ∧ run.2.items ≠ l.items ∧
          ∃ id, run.2.serviceId? c.name = some id ∧ run.1.announced = some [id])) ∧
    ∀ h : Home,
      let run := c.refresh isCancelled answer l
      let told := (h.conclude run.1).traces
      run.2 = l ∧ told = h.traces ∨ run.2.items ≠ l.items ∧
        ∃ id, run.2.serviceId? c.name = some id ∧ told = h.traces ++ [.announced [id]] := by
  refine ⟨fun refused => ?_, listing?_render, fun status complaint ms vs bad items mem refused =>
    refresh_of_bad_item items mem refused c isCancelled status complaint l, ?_,
    exists_id_of_run c l, announced_update c isCancelled answer l, fun h => ?_⟩
  · refine refresh_of_refused (fun items fetched => refused ?_) isCancelled l
    obtain ⟨status, body, complaint, given⟩ := fetch_eq_ok_iff.1 fetched
    exact ⟨status, body, complaint, items, given⟩
  · intro status body complaint items given least most read new
    have fetched : c.fetch answer = .ok items :=
      fetch_eq_ok_iff.2 ⟨status, body, complaint, given, least, most, read⟩
    exact refresh_twice fetched isCancelled l
  · intro run told
    have traces : told = _ := traces_conclude run.1 h
    rcases announced_refresh c isCancelled answer l
      h.service.name h.work.isValid with ⟨same, nothing⟩ | ⟨gained, id, found, once⟩
    · rw [nothing] at traces
      exact .inl ⟨same, traces.trans (List.append_nil _)⟩
    · rw [once] at traces
      exact .inr ⟨gained, id, found, traces⟩

/-- Of four items, of which one repeats the address of another, the token is found set before the
last. -/
theorem library_gains_handled_before_last :
    let item (url : String) : Json := .object [("url", .text url), ("title", .text "A song")]
    let body := Text.Utf8.ofString
      (Json.object [("items", .list [item "a", item "b", item "a", item "c"])]).render
    let c : Catalog := { name := "Radio" }
    ∃ id next, c.refresh (3 ≤ ·) (.response 200 body "") {} = (.ok [id], next) ∧
      next.items = [("Radio", "a"), ("Radio", "b")] ∧ next.serviceId? "Radio" = some id ∧
      c.refresh (3 ≤ ·) (.response 200 body "") next = (.ok [], next) := by
  intro item body c
  have read : listing? body =
      some (["a", "b", "a", "c"].map fun url => { title := "A song", url := url }) :=
    (library_gains_handled c (3 ≤ ·) .late {}).2.1 _
  obtain ⟨changed, next, done, items, -, -, gained, again⟩ :=
    (library_gains_handled c (3 ≤ ·) (.response 200 body "") {}).2.2.2.1 200 body "" _ rfl
      (by decide) (by decide) read
  obtain ⟨id, rfl, found⟩ := gained (by decide)
  exact ⟨id, next, done, items.trans (by decide), found, again⟩

end Catalog
end HomeMedia
