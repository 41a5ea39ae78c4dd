import HomeMedia.Text.Blank
import HomeMedia.Text.Utf8
/-!
# Paths

A path is the bytes it was written with. What it means are its *parts*: the slashes only separate
them, so repeated slashes and a slash at the end count for nothing, and neither does a single dot
inside; a dot that leads a relative path and every pair of dots are parts of their own. Two paths
are the same place when their parts agree.

A path is shown as text with the replacement character for every run of bytes that is no text.
-/

namespace HomeMedia

open Text (Bytes)

/-- One part of a path. -/
inductive Part where
  /-- The leading slash of an absolute path. -/
  | root
  /-- The single dot that leads a relative path. -/
  | here
  /-- A pair of dots. -/
  | up
  /-- A name. -/
  | name (bytes : Bytes)
  deriving DecidableEq, Repr

/-- A path as it was written. -/
structure Path where
  /-- The written bytes. -/
  bytes : Bytes
  deriving DecidableEq, Repr, Inhabited

namespace Path

/-- The byte between parts. -/
def slash : UInt8 := 47

/-- The byte before an extension. -/
def dot : UInt8 := 46

/-- The path written as a text. -/
def ofString (s : String) : Path := ⟨Text.Utf8.ofString s⟩

/-- Whether a path starts at the root. -/
def isAbsolute (p : Path) : Bool := p.bytes.head? == some slash

/-- The part that a piece between slashes stands for; an empty piece and an inner dot are none. -/
def part? (piece : Bytes) : Option Part :=
  if piece = [] ∨ piece = [dot] then none
  else if piece = [dot, dot] then some .up
  else some (.name piece)

/-- The part that leads a path, if it has a special one. -/
def lead (p : Path) : List Part :=
  if p.isAbsolute then [.root]
  else if (Text.split slash p.bytes).head? = some [dot] then [.here]
  else []

/-- The parts of a path. -/
def parts (p : Path) : List Part := p.lead ++ (Text.split slash p.bytes).filterMap part?

/-- The parts of the directory that a path lies in; the root and the empty path lie in none. -/
def parent? (p : Path) : Option (List Part) :=
  match p.parts.getLast? with
  | none => none
  | some .root => none
  | some _ => some p.parts.dropLast

/-- The name of the file that a path leads to. -/
def fileName? (p : Path) : Option Bytes :=
  match p.parts.getLast? with
  | some (.name bytes) => some bytes
  | _ => none

/-- The bytes of a name after its last dot, when there is something before that dot. -/
def extensionOf (file : Bytes) : Option Bytes :=
  match Text.splitOnce dot file.reverse with
  | none => none
  | some (_, []) => none
  | some (after, _ :: _) => some after.reverse

/-- The extension of a path. -/
def extension? (p : Path) : Option Bytes := p.fileName?.bind extensionOf

/-- A path read inside a directory; an absolute one stands for itself. -/
def join (base p : Path) : Path :=
  if p.isAbsolute then p
  else if base.bytes = [] ∨ base.bytes.getLast? = some slash then ⟨base.bytes ++ p.bytes⟩
  else ⟨base.bytes ++ slash :: p.bytes⟩

/-- A path as text. -/
def shown (p : Path) : String := Text.Utf8.toShown p.bytes

end Path
end HomeMedia
