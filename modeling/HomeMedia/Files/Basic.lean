import HomeMedia.Path
/-!
# Files on disk

A snapshot of a file system: plain files, directories and symbolic links, each under the names that
lead to it from the root. A path is resolved part by part. A link on the way is replaced by its
target, read from the directory the link lies in, at most forty times; a part behind a plain file
leads nowhere, and so does a slash at the end of a path to one.

A path that does not start at the root is read from the working directory, but an empty one leads
nowhere.
-/

namespace HomeMedia

open Text (Bytes)

/-- What stands under a name. -/
inductive Files.Node where
  /-- A plain file. -/
  | file
  /-- A directory. -/
  | directory
  /-- A symbolic link with the path it points to. -/
  | link (target : Bytes)
  deriving DecidableEq, Repr

/-- A snapshot of a file system: its nodes with the names that lead to them, besides the root. -/
structure Files where
  /-- The nodes, in the order in which directories list them. -/
  nodes : List (List Bytes × Files.Node) := []
  /-- The names that lead to the working directory. -/
  workingDirectory : List Bytes := []
  deriving DecidableEq, Repr

namespace Files

/-- What stands at the end of some names. -/
def node? (fs : Files) (names : List Bytes) : Option Node :=
  if names = [] then some .directory else fs.nodes.lookup names

/-- Adds a node unless there is one. -/
def insert (names : List Bytes) (node : Node) (fs : Files) : Files :=
  if (fs.node? names).isSome then fs else { fs with nodes := fs.nodes ++ [(names, node)] }

/-- Adds the directories that lead to some names. -/
def insertParents (names : List Bytes) (fs : Files) : Files :=
  (List.range names.length).foldl (fun fs n => fs.insert (names.take n) .directory) fs

/-- Adds a node and the directories that lead to it. -/
def put (names : List Bytes) (node : Node) (fs : Files) : Files :=
  (fs.insertParents names).insert names node

/-- The entries of a directory. -/
def children (fs : Files) (names : List Bytes) : List (Bytes × Node) :=
  fs.nodes.filterMap fun (other, node) =>
    match other.getLast? with
    | none => none
    | some name => if other.dropLast = names then some (name, node) else none

/-- The parts of a path as they are resolved: one that ends with a slash or a dot asks for a
directory. -/
def steps (p : Path) : List Part :=
  match p.bytes.reverse with
  | 47 :: _ => p.parts ++ [.here]
  | 46 :: 47 :: _ => p.parts ++ [.here]
  | _ => p.parts

/-- How far the parts of a path lead without following a link. -/
inductive Reach where
  /-- There is nothing. -/
  | nowhere
  /-- They lead to a node that is no link. -/
  | done (names : List Bytes)
  /-- They lead to a link in a directory, with parts left over. -/
  | link (directory : List Bytes) (target : Bytes) (rest : List Part)

/-- Follows the parts of a path from a directory up to the first link. -/
def advance (fs : Files) (directory : List Bytes) : List Part → Reach
  | [] => .done directory
  | .root :: rest => advance fs [] rest
  | .here :: rest => advance fs directory rest
  | .up :: rest => advance fs directory.dropLast rest
  | .name name :: rest =>
    match fs.node? (directory ++ [name]) with
    | none => .nowhere
    | some .directory => advance fs (directory ++ [name]) rest
    | some .file => if rest = [] then .done (directory ++ [name]) else .nowhere
    | some (.link target) => .link directory target rest

/-- Follows the parts of a path from a directory through at most `links` links. -/
def resolveFrom (fs : Files) : Nat → List Bytes → List Part → Option (List Bytes)
  | links, directory, parts =>
    match fs.advance directory parts with
    | .nowhere => none
    | .done names => some names
    | .link directory target rest =>
      match links with
      | 0 => none
      | links + 1 =>
        if target = [] then none else resolveFrom fs links directory (steps ⟨target⟩ ++ rest)

/-- How many links a path may lead through. -/
def maxLinks : Nat := 40

/-- The names that a path leads to. -/
def resolve (fs : Files) (p : Path) : Option (List Bytes) :=
  if p.bytes = [] then none else fs.resolveFrom maxLinks fs.workingDirectory (steps p)

/-- Whether a path leads to a directory. -/
def isDirectory (fs : Files) (p : Path) : Bool :=
  match fs.resolve p with
  | none => false
  | some names => fs.node? names == some .directory

end Files
end HomeMedia
