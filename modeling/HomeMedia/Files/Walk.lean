import HomeMedia.Files.Basic
/-!
# Walking a directory

A walk visits a directory and everything below it, each directory before its entries, in the order
in which directories list them. Links below the start are either passed by or followed; a followed
link that leads nowhere, or to a directory that the walk is inside of, is an entry that cannot be
read. The start is entered even if it is a link.

An entry is named by the path of the start with the names on the way behind it.
-/

namespace HomeMedia

open Text (Bytes)

namespace Files

/-- An entry of a walk. -/
inductive Visit where
  /-- A plain file, perhaps reached through a link. -/
  | file (path : Path)
  /-- A directory, or a link that is not followed. -/
  | other (path : Path)
  /-- An entry that cannot be read. -/
  | unreadable
  deriving DecidableEq, Repr

/-- Walks the directory that `names` lead to, to a depth of at most `depth`; `inside` are the
directories the walk is inside of. -/
def walkWithin (fs : Files) (follow : Bool) :
    Nat → Path → List Bytes → List (List Bytes) → List Visit
  | 0, _, _, _ => []
  | depth + 1, path, names, inside =>
    let inside := names :: inside
    .other path :: (fs.children names).flatMap fun (name, node) =>
      let path := path.join ⟨name⟩
      match node with
      | .file => [.file path]
      | .directory => walkWithin fs follow depth path (names ++ [name]) inside
      | .link _ =>
        if !follow then [.other path]
        else
          match fs.resolve path with
          | none => [.unreadable]
          | some found =>
            if fs.node? found = some .directory then
              if found ∈ inside then [.unreadable]
              else walkWithin fs follow depth path found inside
            else [.file path]

/-- How deep a walk can get: a directory is entered once through a link and otherwise from its own
parent, so it lies on the way at most as often as it has directories above it, and once more. -/
def maxDepth (fs : Files) : Nat := fs.nodes.foldl (fun depth node => depth + node.1.length + 2) 2

/-- The walk from a path. -/
def walk (fs : Files) (follow : Bool) (start : Path) : List Visit :=
  match fs.resolve start with
  | none => [.unreadable]
  | some names => fs.walkWithin follow fs.maxDepth start names []

end Files
end HomeMedia
