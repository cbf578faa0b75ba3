/-
# Site.Maintenance -- keeping the index in step with the objects

An event says that an object was created, updated or deleted.  Its rows are made
from the object as the event shows it, but whether the object may be indexed is
decided by the objects as they are now.  A rebuild starts from an empty index and
indexes every object in scope as newly created; where it fails, the rows written
so far stay.
-/
import Wikilink.Site.Basic

namespace Wikilink

set_option autoImplicit false

/-- What happened to an object. -/
inductive Event where
  | created
  | updated
  | deleted
  deriving DecidableEq, Repr

/-! ## One object -/

/-- The index after an event on an object of a link type, and the number of rows written. -/
def Index.afterEvent (ix : Index) (t : LinkType) (source : Source) (o : Item) (event : Event) :
    Except Error (Index × Nat) :=
  let owner : Owner := ⟨t.contentType, o.id⟩
  let keys := t.searchKeys o
  match event, source.indexable? o.id with
  | .deleted, _ => .ok ((ix.deleteFor owner).1, 0)
  | .created, none => .ok (ix, 0)
  | .updated, none => .ok ((ix.deleteFor owner).1, 0)
  | .created, some _ => (ix.insertFor owner keys).map fun ix => (ix, keys.length)
  | .updated, some _ => (ix.replaceFor owner keys).map fun ix => (ix, keys.length)

/-! ## All objects -/

/-- What a rebuild has covered. -/
structure Tally where
  linkTypes : Nat := 0
  objects : Nat := 0
  entries : Nat := 0
  deriving DecidableEq, Repr

/-- A tally as it is shown. -/
def Tally.summary (n : Tally) : String :=
  s!"Rebuilt smartlink index: {n.linkTypes} configuration(s), {n.objects} object(s), " ++
    s!"{n.entries} entries"

/-- An index being built: the rows written so far, and the tally or the error that ended it. -/
structure Build where
  index : Index
  result : Except Error Tally

namespace Build

/-- One more object indexed, unless the build has ended. -/
def addItem (t : LinkType) (source : Source) (b : Build) (o : Item) : Build :=
  match b.result with
  | .error _ => b
  | .ok n =>
      match b.index.afterEvent t source o .created with
      | .error e => { b with result := .error e }
      | .ok (ix, written) =>
          ⟨ix, .ok { n with objects := n.objects + 1, entries := n.entries + written }⟩

/-- Every object in scope of one link type indexed. -/
def addType (b : Build) (t : LinkType) (source : Source) : Build :=
  let b := source.all.foldl (addItem t source) b
  { b with result := b.result.map fun n => { n with linkTypes := n.linkTypes + 1 } }

end Build

namespace Site

variable {ι : Type} [DecidableEq ι]

/-- The index after every object in scope of a link type was added to it. -/
def recreate (s : Site ι) (i : ι) : Build :=
  Build.addType ⟨s.index, .ok {}⟩ (s.types i) (s.sources i)

/-- A new index of every object in scope of the registered link types. -/
def rebuild (s : Site ι) : Build :=
  s.registry.linkTypes.foldl (fun b i => b.addType (s.types i) (s.sources i)) ⟨.empty, .ok {}⟩

/-- The site after an event on an object of a content type, and the number of rows written.
Content types without a link type are ignored. -/
def notify (s : Site ι) (contentType : String) (o : Item) (event : Event) :
    Except Error (Site ι × Nat) :=
  match s.registry.forContentType? s.types contentType with
  | none => .ok (s, 0)
  | some i =>
      (s.index.afterEvent (s.types i) (s.sources i) o event).map fun (ix, written) =>
        ({ s with index := ix }, written)

end Site

end Wikilink
