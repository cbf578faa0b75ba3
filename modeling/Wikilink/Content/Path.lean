/-
# Content.Path -- following a field path

A path such as `person.name` names a field of an object, a field of the object
found there, and so on.  Where a name is missing the walk goes on with the absent
value, which has no names, so a path that breaks off leads to the absent value.
-/
import Wikilink.Content.Value

namespace Wikilink

set_option autoImplicit false

/-- The segments of a path; a path without a dot is one segment. -/
def pathSegments (path : String) : List String :=
  (Text.split '.' path.toList).map String.ofList

namespace Value

/-- The value under a name, absent if there is none. -/
def step (v : Value) (name : String) : Value :=
  (v.get? name).getD .null

/-- The value at the end of a walk along the segments. -/
def follow (v : Value) (segments : List String) : Value :=
  segments.foldl step v

end Value

/-- The value at the end of a field path. -/
def Item.valueAt (o : Item) (path : String) : Value :=
  (Value.item o).follow (pathSegments path)

end Wikilink
