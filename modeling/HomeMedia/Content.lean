/-!
# Numbers of containers

Directories with media and online services are containers of the library. A container is known by a
number; zero is the root of the library, and one negative number is kept for "no container".
-/

namespace HomeMedia

/-- The number of a container. -/
abbrev ObjectId := Int

namespace ObjectId

/-- The number that never belongs to a container. -/
def invalid : ObjectId := -333

/-- The root of the library. -/
def root : ObjectId := 0

end ObjectId

/-- Container numbers between brackets. -/
def ObjectId.listText (ids : List ObjectId) : String :=
  "[" ++ ", ".intercalate (ids.map fun id => toString id) ++ "]"

end HomeMedia
