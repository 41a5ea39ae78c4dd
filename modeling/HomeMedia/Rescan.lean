import HomeMedia.Files.Walk
import HomeMedia.Log
import HomeMedia.Media
import HomeMedia.Session.Updates
/-!
# Scanning a directory

A scan walks a directory and offers every media file to a store. For each file the store names the
container that gained it, says that it knew the file, or refuses it; neither a refusal nor an entry
that cannot be read keeps the remaining files from being offered. The containers that gained
something are reported at the end, once, in ascending order, and not at all if there is none.

The token is looked at before the scan and before every entry. A scan that finds it set stops, and
still reports what it has added so far.
-/

namespace HomeMedia
namespace Rescan

/-- What a scan hands files to. -/
structure Store (S : Type) where
  /-- Offers a file: the container that gained it, nothing if it was known, or a refusal. -/
  offer : Path → S → Except Task.Error (Option ObjectId) × S
  /-- Whether the token is set when it is looked at, after a number of earlier looks. -/
  isCancelled : Nat → S → Bool

/-- What a scan has done so far. -/
structure Progress where
  /-- Files that were new. -/
  added : Nat := 0
  /-- Files that were known. -/
  skipped : Nat := 0
  /-- Entries that could not be read, and files that were refused. -/
  errors : Nat := 0
  /-- The containers that gained a file, in ascending order. -/
  changed : List ObjectId := []
  deriving DecidableEq, Repr

/-- What a scan came to. -/
structure Report (S : Type) where
  /-- How it ended. -/
  outcome : Except Task.Error Task.Outcome
  /-- The containers that are reported, if any. -/
  announced : Option (List ObjectId)
  /-- What was logged. -/
  events : List Event
  /-- The store afterwards. -/
  store : S

/-- The containers to report. -/
def Progress.announced (p : Progress) : Option (List ObjectId) :=
  if p.changed = [] then none else some p.changed

/-- Counts the answer of the store to a file. -/
def Progress.count (p : Progress) : Except Task.Error (Option ObjectId) → Progress
  | .ok (some id) =>
    { p with added := p.added + 1, changed := Session.insertAscending id p.changed }
  | .ok none => { p with skipped := p.skipped + 1 }
  | .error _ => { p with errors := p.errors + 1 }

/-- What is logged about the answer of the store to a file. -/
def refusal (path : Path) : Except Task.Error (Option ObjectId) → List Event
  | .error e => [.fileRefused path e]
  | .ok _ => []

variable {S : Type}

/-- Goes through the entries of a walk. -/
def scan (store : Store S) (root : Path) :
    List Files.Visit → Nat → Progress → List Event → S → Report S
  | [], _, p, events, s =>
    { outcome := .ok .completed
      announced := p.announced
      events := events ++ [.rescanCompleted root p.added p.skipped p.errors p.changed.length]
      store := s }
  | visit :: more, looks, p, events, s =>
    if store.isCancelled looks s then
      { outcome := .ok .cancelled
        announced := p.announced
        events := events ++ [.rescanCancelled root p.added]
        store := s }
    else
      match visit with
      | .unreadable =>
        scan store root more (looks + 1) { p with errors := p.errors + 1 }
          (events ++ [.entrySkipped]) s
      | .other _ => scan store root more (looks + 1) p events s
      | .file path =>
        if Media.isMedia path then
          let (answer, s) := store.offer path s
          scan store root more (looks + 1) (p.count answer) (events ++ refusal path answer) s
        else scan store root more (looks + 1) p events s

/-- Scans a directory. -/
def run (store : Store S) (fs : Files) (follow : Bool) (root : Path) (s : S) : Report S :=
  if store.isCancelled 0 s then
    { outcome := .ok .cancelled, announced := none, events := [], store := s }
  else if !fs.isDirectory root then
    { outcome := .error (.directoryNotFound root), announced := none, events := [], store := s }
  else scan store root (fs.walk follow root) 1 {} [.rescanStarted root] s

/-- The description of a scan. -/
def description (root : Path) : String := "Scanning directory: " ++ root.shown

end Rescan
end HomeMedia
