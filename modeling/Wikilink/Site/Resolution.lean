/-
# Site.Resolution -- from a query to an object

With a type hint the query is looked for in the link type of that shortcut alone.
Without one the link types are tried in the order of their registration, and the
first that finds an object, or more than one, ends the search.  A link type that
looks in its index answers with an object only if the object still exists.
-/
import Wikilink.Index.Search
import Wikilink.Mention.Search
import Wikilink.Site.Basic

namespace Wikilink

set_option autoImplicit false

/-- What a query leads to. -/
inductive Resolution (ι : Type) where
  | found (linkType : ι) (object : Item)
  /-- No object; an untyped query stays with the first link type. -/
  | unresolved (linkType : ι)
  /-- Several objects. -/
  | ambiguous (linkType : ι)
  /-- The type hint is no shortcut. -/
  | unknownType

namespace Site

variable {ι : Type} [DecidableEq ι]

/-- The object that a link type finds through the index. -/
def findIndexed (s : Site ι) (i : ι) (query : String) : Lookup Item :=
  let key := searchKey query
  if key = "" then .notFound
  else
    match s.index.findObject key (s.types i).contentType with
    | .found id =>
        match (s.sources i).get? id with
        | some o => .found o
        | none => .notFound
    | .notFound => .notFound
    | .ambiguous => .ambiguous

/-- The object that a link type finds. -/
def find (s : Site ι) (i : ι) (query : String) : Except Error (Lookup Item) :=
  match (s.types i).finder with
  | .searchKeys => .ok (s.findIndexed i query)
  | .custom find => find s.index query

/-- The outcome of a search in one link type. -/
def resolveIn (s : Site ι) (i : ι) (query : String) : Except Error (Resolution ι) := do
  match ← s.find i query with
  | .found o => return .found i o
  | .notFound => return .unresolved i
  | .ambiguous => return .ambiguous i

/-- The first outcome in a list of link types other than that there is no object; otherwise the
query stays with `fallback`. -/
def resolveAmong (s : Site ι) (fallback : ι) (query : String) :
    List ι → Except Error (Resolution ι)
  | [] => .ok (.unresolved fallback)
  | i :: rest => do
      match ← s.resolveIn i query with
      | .unresolved _ => s.resolveAmong fallback query rest
      | outcome => return outcome

/-- What a query leads to. -/
def resolve (s : Site ι) (typeHint : Option String) (query : String) :
    Except Error (Resolution ι) :=
  match s.registry.first? with
  | none => .error .nothingRegistered
  | some first =>
      match typeHint with
      | none => s.resolveAmong first query s.registry.linkTypes
      | some shortcut =>
          match s.registry.find? shortcut with
          | none => .ok .unknownType
          | some i => s.resolveIn i query

/-- The object that a link at the start of a text leads to, blanks before it aside. -/
def objectFor (s : Site ι) (raw : String) : Except Error (Option (ι × Item)) :=
  match Mention.Form.link.parse? (String.ofList (Text.trimStart raw.toList)) with
  | none => .ok none
  | some m => do
      match ← s.resolve m.typeHint m.query with
      | .found i o => return some (i, o)
      | _ => return none

/-- The URL of the object that a link at the start of a text leads to. -/
def urlFor (s : Site ι) (raw : String) : Except Error (Option String) := do
  return (← s.objectFor raw).bind fun (i, o) => (s.types i).urlOf? o

end Site

end Wikilink
