import HomeMedia.Content
/-!
# Pending changes

A session collects the numbers of the containers that changed since its user interface last asked.
The collection is a set with a cap: as long as it holds fewer numbers than the cap they are listed,
in ascending order; once it would reach the cap the session keeps only the mark that everything may
have changed. The number that belongs to no container is never collected. Asking hands the
collection out and empties it.

A batch of numbers is treated like its numbers one after the other.
-/

namespace HomeMedia
namespace Session

/-- What changed since the last question. -/
structure Pending where
  /-- These containers, in ascending order. -/
  listed : List ObjectId := []
  /-- Whether there were too many to list; nothing is listed then. -/
  isFull : Bool := false
  deriving DecidableEq, Repr, Inhabited

/-- What a user interface is told. -/
inductive Updates where
  /-- Nothing changed. -/
  | none
  /-- Everything may have changed. -/
  | all
  /-- These containers changed. -/
  | ids (ids : List ObjectId)
  deriving DecidableEq, Repr

namespace Updates

/-- Whether nothing changed. -/
def isNone : Updates → Bool
  | none => true
  | _ => false

/-- The text of an answer: empty, the word `all`, or the numbers with commas between them. -/
def text : Updates → String
  | none => ""
  | all => "all"
  | ids list => ",".intercalate (list.map fun id => toString id)

end Updates

/-- Puts a number at its place in an ascending list that does not hold it yet. -/
def insertAscending (id : ObjectId) : List ObjectId → List ObjectId
  | [] => [id]
  | other :: more =>
    if id < other then id :: other :: more
    else if id = other then other :: more
    else other :: insertAscending id more

/-- The members of a list in ascending order, each once. -/
def ascending (ids : List ObjectId) : List ObjectId :=
  ids.foldl (fun list id => insertAscending id list) []

namespace Pending

/-- Nothing is pending. -/
def empty : Pending := {}

/-- Too much is pending to be listed. -/
def full : Pending := { isFull := true }

/-- Whether something is pending. -/
def isAny (p : Pending) : Bool := p.isFull || !p.listed.isEmpty

/-- Notes that a container changed. -/
def note (cap : Nat) (id : ObjectId) (p : Pending) : Pending :=
  if id = ObjectId.invalid then p
  else if p.isFull || p.listed.contains id then p
  else if cap ≤ p.listed.length + 1 then full
  else { p with listed := insertAscending id p.listed }

/-- The numbers of a batch that are not listed yet, in ascending order. -/
def fresh (listed batch : List ObjectId) : List ObjectId :=
  ascending (batch.filter fun id => id != ObjectId.invalid && !listed.contains id)

/-- Notes that the containers of a batch changed. -/
def noteAll (cap : Nat) (batch : List ObjectId) (p : Pending) : Pending :=
  if p.isFull then p
  else
    let more := fresh p.listed batch
    if more = [] then p
    else if cap ≤ p.listed.length + more.length then full
    else { p with listed := more.foldl (fun list id => insertAscending id list) p.listed }

/-- Hands the changes out. -/
def take (p : Pending) : Updates × Pending :=
  if p.isFull then (.all, { p with isFull := false })
  else if p.listed = [] then (.none, p)
  else (.ids p.listed, { p with listed := [] })

end Pending
end Session
end HomeMedia
