/-
# Index.Report -- what an index holds

The rows of one object in the order of their keys, and the numbers of rows and
objects.  The numbers are counted over the rows in the order of their keys.
-/
import Wikilink.Index.Basic
import Wikilink.Table

namespace Wikilink

set_option autoImplicit false

/-- The size of an index. -/
structure Index.Stats where
  /-- The number of rows. -/
  entries : Nat
  /-- The number of rows of each content type that has one. -/
  byType : Table Nat
  /-- The number of objects with a row. -/
  objects : Nat
  deriving DecidableEq, Repr

namespace Index

/-- The rows of an owner that lookups reach. -/
def entriesOf (ix : Index) (owner : Owner) : List Row :=
  ((ix.keysOf owner).map fun key => ⟨key, owner⟩).filter (· ∈ ix.byKey)

/-- A count with one more under a name. -/
def countMore (counts : Table Nat) (name : String) : Table Nat :=
  counts.insert name ((counts.find? name).getD 0 + 1)

/-- The size of the index. -/
def stats (ix : Index) : Stats where
  entries := ix.byKey.length
  byType := ix.byKey.foldl (fun counts r => countMore counts r.owner.contentType) []
  objects := (Ascending.ofList Owner.Before (ix.byKey.map Row.owner)).length

end Index

end Wikilink
