/-
# Settings.Load -- from a settings file to a site

The content types are taken one after the other: the records of one are read and
its link type is registered before the next one is looked at.  So of several
faults the one of the earlier content type is told.
-/
import Wikilink.Disk.Basic
import Wikilink.Failure
import Wikilink.Json.Parser
import Wikilink.Settings.Data
import Wikilink.Site.Basic
import Wikilink.Toml.Parser

namespace Wikilink

set_option autoImplicit false

namespace Settings

variable {m : Type → Type} [Monad m] (disk : Disk m)

/-- The text of a file. -/
def readFile (path : String) : Attempt m String :=
  .within s!"Failed to read {path}" (ExceptT.mk (disk.readText path) |>.adapt fun reason =>
    ⟨[], .unreadable reason⟩)

/-- The settings of a text. -/
def ofText? (text : String) : Option Settings :=
  (Toml.parse? text).bind (ofJson? .ignored)

/-- The settings in a file. -/
def load (path : String) : Attempt m Settings := do
  let text ← readFile disk path
  match ofText? text with
  | some s => return { s with baseDirectory := (Disk.parent? path).getD "." }
  | none => .within s!"Failed to parse {path}" (throw ⟨[], .malformedSettings⟩)

/-! ## Records -/

/-- The link type and the objects of a content type. -/
def loadType (s : Settings) (t : TypeSettings) : Attempt m (LinkType × Source) :=
  .within s!"Failed to load records of type '{t.name}'" do
    let path := s.resolve t.records
    let text ← readFile disk path
    match (Json.parse? text).bind Json.array? with
    | none => .within s!"{path} is not a JSON array" (throw ⟨[], .malformedRecords⟩)
    | some values => .ofExcept .faultyRecords (t.read values)

/-- The site with the content type at a position. -/
def addType (s : Settings) (site : Site Nat) (t : TypeSettings) (position : Nat) :
    Attempt m (Site Nat) := do
  let (linkType, source) ← s.loadType disk t
  let site := site.withType position linkType source
  .within s!"Failed to register type '{t.name}'" do
    .ofExcept .failed (site.register t.shortcuts position)

/-- The site of the settings, with an empty index. -/
def loadSite (s : Settings) : Attempt m (Site Nat) :=
  s.types.zipIdx.foldlM (fun site (t, position) => s.addType disk site t position) Site.empty

/-! ## Faults that show without the records -/

/-- What is wrong with a content type after others of the given names. -/
def typeFaults (s : Settings) (earlier : List String) (t : TypeSettings) : m (List String) := do
  let path := s.resolve t.records
  let isThere ← disk.isThere path
  let named :=
    if t.name = "" then ["a [[types]] table has an empty name"]
    else if t.name ∈ earlier then [s!"type '{t.name}' is configured twice"]
    else []
  let bound := if t.shortcuts.isEmpty then [s!"type '{t.name}' has no shortcuts"] else []
  let found := if isThere then [] else [s!"records of type '{t.name}' not found at {path}"]
  let shadowed := (t.embeds.names.filter (· ∈ t.fields)).map fun attr =>
    s!"embed '{attr}' of type '{t.name}' shadows a field"
  return named ++ bound ++ found ++ shadowed

/-- What is wrong with the content types from one on. -/
def typesFaults (s : Settings) (earlier : List String) : List TypeSettings → m (List String)
  | [] => return []
  | t :: rest => do
      let here ← s.typeFaults disk earlier t
      return here ++ (← s.typesFaults (t.name :: earlier) rest)

/-- What is wrong with the settings. -/
def faults (s : Settings) : m (List String) := do
  let index := if s.indexPath = "" then ["index_path must not be empty"] else []
  return index ++ (← s.typesFaults disk [] s.types)

end Settings

end Wikilink
