import HomeMedia.Proofs.Home.Deeds
import HomeMedia.Proofs.Session.Pending
/-!
# What a scan reports

A scan handles the entries of a walk one after the other and stops early only if it finds the token
set. So there is a number of entries that it has handled; the store has been offered the media files
among them, in order, and nothing else (`scan_cases`). What was counted is told by the answers of
the store (`handleAll_eq`), and so is what the listener hears: the containers that some answer
named, in ascending order, if there is any, wherever the scan stopped (`run_reports`).

Nothing is said of the store. It may answer in any way, and the token may be set at any look, also
in answer to a file.
-/

namespace HomeMedia

/-- The media file that an entry is, if it is one. -/
def Files.Visit.media? : Files.Visit → Option Path
  | .file path => if Media.isMedia path then some path else none
  | _ => none

namespace Rescan

/-- The answer of a store to a file. -/
abbrev Answer : Type := Except Task.Error (Option ObjectId)

namespace Answer

/-- The container that gained a file. -/
def gained? : Answer → Option ObjectId
  | .ok gained => gained
  | .error _ => none

/-- Whether the file was known. -/
def isKnown : Answer → Bool
  | .ok none => true
  | _ => false

/-- Whether the file was refused. -/
def isRefusal : Answer → Bool
  | .error _ => true
  | .ok _ => false

/-- A container gained a file if the answer says so. -/
theorem gained?_eq_some_iff {a : Answer} {id : ObjectId} :
    a.gained? = some id ↔ a = .ok (some id) := by
  cases a with
  | ok gained => simp [gained?]
  | error e => simp [gained?]

end Answer

variable {S : Type}

/-- Offers files one after the other: the answers, and the store afterwards. -/
def Store.offerAll (store : Store S) : List Path → S → List Answer × S
  | [], s => ([], s)
  | path :: more, s =>
    let offered := store.offer path s
    let others := store.offerAll more offered.2
    (offered.1 :: others.1, others.2)

/-- What handling an entry comes to. -/
def Store.handle (store : Store S) (visit : Files.Visit) (p : Progress) (s : S) : Progress × S :=
  match visit with
  | .unreadable => ({ p with errors := p.errors + 1 }, s)
  | .other _ => (p, s)
  | .file path =>
    if Media.isMedia path then (p.count (store.offer path s).1, (store.offer path s).2) else (p, s)

/-- What handling several entries comes to. -/
def Store.handleAll (store : Store S) : List Files.Visit → Progress → S → Progress × S
  | [], p, s => (p, s)
  | visit :: more, p, s =>
    store.handleAll more (store.handle visit p s).1 (store.handle visit p s).2

/-- What has been done when some entries were handled, with these answers. -/
def Progress.tally (visits : List Files.Visit) (answers : List Answer) (p : Progress) : Progress where
  added := p.added + (answers.filterMap Answer.gained?).length
  skipped := p.skipped + answers.countP Answer.isKnown
  errors := p.errors + visits.count .unreadable + answers.countP Answer.isRefusal
  changed := (answers.filterMap Answer.gained?).foldl
    (fun list id => Session.insertAscending id list) p.changed

variable {store : Store S} {root : Path} {visits : List Files.Visit} {p : Progress} {s : S}

/-! ## What was counted -/

/-- An answer may be counted before the tally or in it. -/
theorem tally_count (answer : Answer) (visits : List Files.Visit) (answers : List Answer)
    (p : Progress) : (p.count answer).tally visits answers = p.tally visits (answer :: answers) := by
  rcases answer with e | _ | id <;>
    simp [Progress.count, Progress.tally, List.filterMap_cons, List.countP_cons, Answer.gained?,
      Answer.isKnown, Answer.isRefusal] <;> omega

/-- **What was counted is told by the answers of the store**, and by the entries that could not be
read. -/
theorem handleAll_eq (store : Store S) (visits : List Files.Visit) (p : Progress) (s : S) :
    let offered := store.offerAll (visits.filterMap Files.Visit.media?) s
    store.handleAll visits p s = (p.tally visits offered.1, offered.2) := by
  induction visits generalizing p s with
  | nil => rfl
  | cons visit more ih =>
    rw [Store.handleAll]
    cases visit with
    | unreadable =>
      rw [List.filterMap_cons_none rfl, ih]
      simp only [Store.handle, Progress.tally, List.count_cons_self, Prod.mk.injEq,
        Progress.mk.injEq, and_true, true_and]
      omega
    | other path =>
      rw [List.filterMap_cons_none rfl, ih]
      simp [Store.handle, Progress.tally]
    | file path =>
      rw [Store.handle]
      split_ifs with media
      · have offered : (Files.Visit.file path).media? = some path := if_pos media
        rw [List.filterMap_cons_some offered, ih, tally_count]
        simp [Store.offerAll, Progress.tally]
      · have passed : (Files.Visit.file path).media? = none := if_neg media
        rw [List.filterMap_cons_none passed, ih]
        simp [Progress.tally]

/-! ## Where a scan stops -/

/-- A scan that finds the token cancelled announces what there is and stops. -/
theorem scan_of_cancelled {looks : Nat} (set : store.isCancelled looks s = true)
    (visit : Files.Visit) (more : List Files.Visit) (events : List Event) :
    scan store root (visit :: more) looks p events s =
      ⟨.ok .cancelled, p.announced, events ++ [.rescanCancelled root p.added], s⟩ :=
  if_pos set

/-- While the token is unset, a scan handles the next entry and goes on. -/
theorem scan_of_free (root : Path) (p : Progress) {looks : Nat}
    (free : store.isCancelled looks s = false) (visit : Files.Visit) (more : List Files.Visit)
    (events : List Event) :
    ∃ details, scan store root (visit :: more) looks p events s =
      scan store root more (looks + 1) (store.handle visit p s).1 (events ++ details)
        (store.handle visit p s).2 := by
  have goesOn := Bool.eq_false_iff.1 free
  cases visit with
  | unreadable => exact ⟨[.entrySkipped], if_neg goesOn⟩
  | other path => exact ⟨[], (if_neg goesOn).trans (by rw [List.append_nil]; rfl)⟩
  | file path =>
    rw [Store.handle]
    split_ifs with media
    · exact ⟨_, (if_neg goesOn).trans (if_pos media)⟩
    · exact ⟨[], ((if_neg goesOn).trans (if_neg media)).trans (by rw [List.append_nil])⟩

/-- **Where a scan stops:** behind the last entry, or before one at which it finds the token set. -/
theorem scan_cases (store : Store S) (root : Path) (visits : List Files.Visit) (looks : Nat)
    (p : Progress) (events : List Event) (s : S) :
    ∃ n ≤ visits.length, ∃ details,
      (∀ m < n, store.isCancelled (looks + m) (store.handleAll (visits.take m) p s).2 = false) ∧
      let q := (store.handleAll (visits.take n) p s).1
      let t := (store.handleAll (visits.take n) p s).2
      (n < visits.length ∧ store.isCancelled (looks + n) t = true ∧
        scan store root visits looks p events s =
          ⟨.ok .cancelled, q.announced, events ++ details ++ [.rescanCancelled root q.added], t⟩ ∨
      n = visits.length ∧
        scan store root visits looks p events s = ⟨.ok .completed, q.announced,
          events ++ details ++
            [.rescanCompleted root q.added q.skipped q.errors q.changed.length], t⟩) := by
  induction visits generalizing looks p events s with
  | nil => exact ⟨0, Nat.le_refl 0, [], fun m no => absurd no (Nat.not_lt_zero m),
      .inr ⟨rfl, by rw [List.append_nil]; rfl⟩⟩
  | cons visit more ih =>
    cases set : store.isCancelled looks s with
    | true =>
      refine ⟨0, Nat.zero_le _, [], fun m no => absurd no (Nat.not_lt_zero m),
        .inl ⟨Nat.zero_lt_succ _, set, ?_⟩⟩
      rw [scan_of_cancelled set, List.append_nil]
      rfl
    | false =>
      obtain ⟨first, goesOn⟩ := scan_of_free root p set visit more events
      obtain ⟨n, within, details, free, ends⟩ := ih (looks + 1) (store.handle visit p s).1
        (events ++ first) (store.handle visit p s).2
      rw [← goesOn, List.append_assoc events] at ends
      refine ⟨n + 1, Nat.succ_le_succ within, first ++ details, fun m before => ?_, ?_⟩
      · cases m with
        | zero => exact set
        | succ m =>
          have free := free m (Nat.lt_of_succ_lt_succ before)
          rwa [Nat.add_right_comm] at free
      · rw [Nat.add_right_comm] at ends
        rw [List.length_cons, Nat.succ_lt_succ_iff, Nat.succ_inj]
        exact ends

/-! ## What is announced -/

/-- Nothing is announced when nothing changed. -/
theorem announced_eq_none_iff {p : Progress} : p.announced = none ↔ p.changed = [] := by
  unfold Progress.announced
  split_ifs with empty
  · simp [empty]
  · simp [empty]

/-- Otherwise what changed is announced. -/
theorem announced_eq_some_iff {p : Progress} {ids : List ObjectId} :
    p.announced = some ids ↔ ids ≠ [] ∧ p.changed = ids := by
  unfold Progress.announced
  split_ifs with empty
  · simp only [empty, false_iff, not_and]
    exact fun some none => some none.symm
  · simp only [Option.some.injEq]
    exact ⟨fun same => ⟨same ▸ empty, same⟩, And.right⟩

section Announced

variable (answers : List Answer) (visits : List Files.Visit)

/-- The containers that gained something, in ascending order. -/
theorem changed_tally :
    (Progress.tally visits answers {}).changed = (answers.filterMap Answer.gained?).toFinset.sort :=
  Session.ascending_eq_sort _

/-- **What changed are the containers that gained a file.** -/
theorem mem_changed_tally {id : ObjectId} :
    id ∈ (Progress.tally visits answers {}).changed ↔ .ok (some id) ∈ answers := by
  rw [changed_tally, Finset.mem_sort, List.mem_toFinset, List.mem_filterMap]
  simp only [Answer.gained?_eq_some_iff, exists_eq_right]

/-- Nothing is announced if no container gained anything. -/
theorem announced_tally_eq_none_iff :
    (Progress.tally visits answers {}).announced = none ↔ ∀ id, .ok (some id) ∉ answers := by
  rw [announced_eq_none_iff, List.eq_nil_iff_forall_not_mem]
  exact forall_congr' fun id => not_congr (mem_changed_tally answers visits)

/-- **What is announced** is the ascending list of the containers that gained something. -/
theorem announced_tally_eq_some_iff {ids : List ObjectId} :
    (Progress.tally visits answers {}).announced = some ids ↔
      ids ≠ [] ∧ ids.SortedLT ∧ ∀ id, id ∈ ids ↔ .ok (some id) ∈ answers := by
  have sorted : (Progress.tally visits answers {}).changed.SortedLT :=
    changed_tally answers visits ▸ Finset.sortedLT_sort _
  rw [announced_eq_some_iff]
  refine and_congr_right fun _ => ⟨?_, fun ⟨ascending, members⟩ => ?_⟩
  · rintro rfl
    exact ⟨sorted, fun id => mem_changed_tally answers visits⟩
  · refine sorted.eq_of_mem_iff ascending fun {id} => ?_
    rw [mem_changed_tally, members]

end Announced

/-! ## Runs -/

/-- A run finds the token set, or no directory, or scans. -/
theorem run_cases (store : Store S) (fs : Files) (follow : Bool) (root : Path) (s : S) :
    store.isCancelled 0 s = true ∧ run store fs follow root s = ⟨.ok .cancelled, none, [], s⟩ ∨
    store.isCancelled 0 s = false ∧ fs.isDirectory root = false ∧
      run store fs follow root s = ⟨.error (.directoryNotFound root), none, [], s⟩ ∨
    store.isCancelled 0 s = false ∧ fs.isDirectory root = true ∧ run store fs follow root s =
      scan store root (fs.walk follow root) 1 {} [.rescanStarted root] s := by
  unfold run
  cases store.isCancelled 0 s with
  | true => exact .inl ⟨rfl, rfl⟩
  | false =>
    cases fs.isDirectory root with
    | false => exact .inr (.inl ⟨rfl, rfl, rfl⟩)
    | true => exact .inr (.inr ⟨rfl, rfl, rfl⟩)

/-- **A run that nobody cancels** handles all entries. -/
theorem exists_run_of_free (free : ∀ looks s, store.isCancelled looks s = false) {fs : Files}
    (present : fs.isDirectory root = true) (follow : Bool) (s : S) :
    let entries := fs.walk follow root
    let offered := store.offerAll (entries.filterMap Files.Visit.media?) s
    let p := Progress.tally entries offered.1 {}
    ∃ details, run store fs follow root s = ⟨.ok .completed, p.announced, [.rescanStarted root] ++
      details ++ [.rescanCompleted root p.added p.skipped p.errors p.changed.length], offered.2⟩ := by
  intro entries offered p
  rcases run_cases store fs follow root s with ⟨set, -⟩ | ⟨-, absent, -⟩ | ⟨-, -, scans⟩
  · cases (free 0 s).symm.trans set
  · cases present.symm.trans absent
  · obtain ⟨n, -, details, -, ⟨-, set, -⟩ | ⟨all, ends⟩⟩ :=
      scan_cases store root entries 1 {} [.rescanStarted root] s
    · cases (free _ _).symm.trans set
    · rw [all, List.take_length, handleAll_eq] at ends
      exact ⟨details, scans.trans ends⟩

/-- Arming the schedule leaves no trace. -/
theorem traces_arm (h : Home) : h.arm.traces = h.traces := by
  rcases Home.arm_cases h with same | ⟨s, nanos, -, -, -, -, armed⟩
  · rw [same]
  · rw [armed]
    rfl

/-- Neither does the end of a task. -/
theorem traces_finish (outcome : Except Task.Error Task.Outcome) (h : Home) :
    (h.finish outcome).traces = h.traces := by
  rcases Home.Backstage.finish outcome h with ⟨_, _, _, _, ended⟩ | ⟨_, _, _, _, ended⟩
  · rw [ended]
  · rw [ended]
    exact traces_arm h

/-- A home server leaves a trace of what is announced, once. -/
theorem traces_scan (path : Path) (h : Home) : (h.scan path).traces = h.traces ++
    ((run (Home.libraryStore h.work.isValid) h.files true path h.library).announced.map
      Home.Trace.announced).toList := by
  unfold Home.scan
  dsimp only
  generalize run (Home.libraryStore h.work.isValid) h.files true path h.library = r
  rw [traces_finish]
  cases r.announced with
  | none => exact (List.append_nil _).symm
  | some ids => rfl

/-- **Where a run stops**, and that it announces what was counted until then. -/
theorem exists_handled (store : Store S) (fs : Files) (follow : Bool) (root : Path) (s : S) :
    let entries := fs.walk follow root
    let upTo (n : Nat) := store.offerAll ((entries.take n).filterMap Files.Visit.media?) s
    let report := run store fs follow root s
    ∃ handled ≤ entries.length,
      report.store = (upTo handled).2 ∧
      report.announced = (Progress.tally (entries.take handled) (upTo handled).1 {}).announced ∧
      (report.outcome = .ok .cancelled ↔ store.isCancelled 0 s = true ∨ fs.isDirectory root = true ∧
        ∃ n < entries.length, store.isCancelled (n + 1) (upTo n).2 = true) ∧
      (store.isCancelled 0 s = true →
        handled = 0 ∧ report.store = s ∧ report.announced = none) ∧
      (∀ e, report.outcome = .error e → e = .directoryNotFound root ∧
        handled = 0 ∧ report.store = s ∧ report.announced = none) ∧
      (handled < entries.length → store.isCancelled 0 s = true ∨ fs.isDirectory root = false ∨
        store.isCancelled (handled + 1) (upTo handled).2 = true) := by
  intro entries upTo report
  have answers : ∀ n, store.handleAll (entries.take n) {} s =
      (Progress.tally (entries.take n) (upTo n).1 {}, (upTo n).2) := fun n => handleAll_eq ..
  rcases run_cases store fs follow root s with
    ⟨set, stops⟩ | ⟨free, absent, stops⟩ | ⟨free, present, scans⟩
  · have untouched := And.intro (congrArg Report.store stops) (congrArg Report.announced stops)
    refine ⟨0, Nat.zero_le _, untouched.1, untouched.2, ?_, fun _ => ⟨rfl, untouched⟩,
      fun e failed => ?_, fun _ => .inl set⟩
    · exact iff_of_true (congrArg Report.outcome stops) (.inl set)
    · cases (congrArg Report.outcome stops).symm.trans failed
  · have untouched := And.intro (congrArg Report.store stops) (congrArg Report.announced stops)
    refine ⟨0, Nat.zero_le _, untouched.1, untouched.2, ?_, fun _ => ⟨rfl, untouched⟩,
      fun e failed => ?_, fun _ => .inr (.inl absent)⟩
    · refine iff_of_false (fun cancelled => ?_) ?_
      · cases (congrArg Report.outcome stops).symm.trans cancelled
      · simp [free, absent]
    · cases (congrArg Report.outcome stops).symm.trans failed
      exact ⟨rfl, rfl, untouched⟩
  · obtain ⟨n, within, details, before, ends⟩ :=
      scan_cases store root entries 1 {} [.rescanStarted root] s
    simp only [answers, Nat.add_comm 1] at before ends
    rcases ends with ⟨short, set, stops⟩ | ⟨all, stops⟩
    · replace stops := scans.trans stops
      refine ⟨n, within, congrArg Report.store stops, congrArg Report.announced stops, ?_,
        fun set => ?_, fun e failed => ?_, fun _ => .inr (.inr set)⟩
      · exact iff_of_true (congrArg Report.outcome stops) (.inr ⟨present, n, short, set⟩)
      · cases free.symm.trans set
      · cases (congrArg Report.outcome stops).symm.trans failed
    · replace stops := scans.trans stops
      refine ⟨n, within, congrArg Report.store stops, congrArg Report.announced stops, ?_,
        fun set => ?_, fun e failed => ?_, fun short => absurd all (Nat.ne_of_lt short)⟩
      · refine iff_of_false (fun cancelled => ?_) ?_
        · cases (congrArg Report.outcome stops).symm.trans cancelled
        · rintro (set | ⟨-, m, short, set⟩)
          · cases free.symm.trans set
          · cases (before m (all ▸ short)).symm.trans set
      · cases free.symm.trans set
      · cases (congrArg Report.outcome stops).symm.trans failed

/-- **What a run comes to**, whatever the store answers and whenever the token is set. Some first
entries of the walk are handled, and the store is offered the media files among them and nothing
else. The listener is told the ascending list of the containers that gained a file, and nothing if
there is none. The run is cancelled iff the token is set at the start, or when an entry is about to
be handled. Only that, or a start that is no directory, keeps entries from being handled; if the
token is set at the start, or the start is no directory, none is. A home server passes on what is
announced once. -/
theorem run_reports (store : Store S) (fs : Files) (follow : Bool) (root : Path) (s : S) :
    let entries := fs.walk follow root
    let upTo (n : Nat) := store.offerAll ((entries.take n).filterMap Files.Visit.media?) s
    let report := run store fs follow root s
    (∃ handled ≤ entries.length,
      report.store = (upTo handled).2 ∧
      (∀ ids, report.announced = some ids ↔
        ids ≠ [] ∧ ids.SortedLT ∧ ∀ id, id ∈ ids ↔ .ok (some id) ∈ (upTo handled).1) ∧
      (report.announced = none ↔ ∀ id, .ok (some id) ∉ (upTo handled).1) ∧
      (report.outcome = .ok .cancelled ↔ store.isCancelled 0 s = true ∨ fs.isDirectory root = true ∧
        ∃ n < entries.length, store.isCancelled (n + 1) (upTo n).2 = true) ∧
      (store.isCancelled 0 s = true →
        handled = 0 ∧ report.store = s ∧ report.announced = none) ∧
      (∀ e, report.outcome = .error e → e = .directoryNotFound root ∧
        handled = 0 ∧ report.store = s ∧ report.announced = none) ∧
      (handled < entries.length → store.isCancelled 0 s = true ∨ fs.isDirectory root = false ∨
        store.isCancelled (handled + 1) (upTo handled).2 = true)) ∧
    ∀ (h : Home) (path : Path), (h.scan path).traces = h.traces ++
      ((run (Home.libraryStore h.work.isValid) h.files true path h.library).announced.map
        Home.Trace.announced).toList := by
  intro entries upTo report
  obtain ⟨handled, within, stored, announced, others⟩ := exists_handled store fs follow root s
  refine ⟨⟨handled, within, stored, fun ids => ?_, ?_, others⟩, fun h path => traces_scan path h⟩
  · rw [announced, announced_tally_eq_some_iff]
  · rw [announced, announced_tally_eq_none_iff]

end Rescan
end HomeMedia
