import HomeMedia.Content
import HomeMedia.Path
/-!
# The library

The library knows media files and items of online services. Every directory that holds a known file
and every service with a known item is a *place*; the places are numbered from one in the order in
which they were first met, directories and services in one sequence, and keep their numbers for
good. Files and directories are compared by the parts of their paths.

Adding something that is known already changes nothing and names no container.
-/

namespace HomeMedia

/-- What a container of the library stands for. -/
inductive Library.Place where
  /-- A directory, by the parts of its path. -/
  | directory (parts : List Part)
  /-- An online service. -/
  | service (name : String)
  deriving DecidableEq, Repr

/-- Known files and items, and the places they were met in. -/
structure Library where
  /-- The known files, by the parts of their paths. -/
  files : List (List Part) := []
  /-- The known items of online services: service and address. -/
  items : List (String × String) := []
  /-- The places in the order in which they were first met. -/
  places : List Library.Place := []
  deriving DecidableEq, Repr

namespace Library

/-- The number of a place, if it has been met. -/
def placeId? (l : Library) (place : Place) : Option ObjectId :=
  (l.places.idxOf? place).map fun index => ObjectId.root + 1 + Int.ofNat index

/-- The number of a place, which is met now if it has not been before. -/
def meet (place : Place) (l : Library) : ObjectId × Library :=
  match l.placeId? place with
  | some id => (id, l)
  | none =>
    (ObjectId.root + 1 + Int.ofNat l.places.length, { l with places := l.places ++ [place] })

/-- Adds a file; names the container that gained it, or nothing if the file was known. -/
def addFile (path : Path) (l : Library) : Option ObjectId × Library :=
  if path.parts ∈ l.files then (none, l)
  else
    let l := { l with files := l.files ++ [path.parts] }
    match path.parent? with
    | none => (some ObjectId.root, l)
    | some parent =>
      let (id, l) := l.meet (.directory parent)
      (some id, l)

/-- Adds an item of an online service; names its container, or nothing if the item was known. -/
def addItem (service url : String) (l : Library) : Option ObjectId × Library :=
  if (service, url) ∈ l.items then (none, l)
  else
    let (id, l) := { l with items := l.items ++ [(service, url)] }.meet (.service service)
    (some id, l)

/-- The container of a directory. -/
def directoryId? (l : Library) (dir : Path) : Option ObjectId := l.placeId? (.directory dir.parts)

/-- The container of an online service. -/
def serviceId? (l : Library) (service : String) : Option ObjectId := l.placeId? (.service service)

end Library
end HomeMedia
