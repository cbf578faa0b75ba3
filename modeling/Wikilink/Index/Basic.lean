/-
# Index.Basic -- the rows of the search index

A row says that an object is found under a search key.  The rows are kept twice,
in the order of their keys for lookups and in the order of their owners for
maintenance; every operation updates both tables.  An operation either takes
effect as a whole or fails and leaves the index as it was.

The index makes search keys of the texts it is given, so callers may pass raw
text.  A text without a search key makes no row.
-/
import Wikilink.Ascending
import Wikilink.Error
import Wikilink.SearchKey

namespace Wikilink

set_option autoImplicit false

/-! ## Rows -/

/-- The object that a row leads to. -/
structure Owner where
  contentType : String
  id : Nat
  deriving DecidableEq, Repr

/-- An object found under a key. -/
structure Row where
  key : String
  owner : Owner
  deriving DecidableEq, Repr

/-- By content type, then by id. -/
def Owner.Before (a b : Owner) : Prop :=
  a.contentType < b.contentType ∨ a.contentType = b.contentType ∧ a.id < b.id

instance : DecidableRel Owner.Before :=
  fun _ _ => inferInstanceAs (Decidable (_ ∨ _))

namespace Row

/-- By key, then by owner. -/
def Before (a b : Row) : Prop :=
  a.key < b.key ∨ a.key = b.key ∧ a.owner.Before b.owner

/-- By owner, then by key. -/
def OwnerBefore (a b : Row) : Prop :=
  a.owner.Before b.owner ∨ a.owner = b.owner ∧ a.key < b.key

instance : DecidableRel Before :=
  fun _ _ => inferInstanceAs (Decidable (_ ∨ _))

instance : DecidableRel OwnerBefore :=
  fun _ _ => inferInstanceAs (Decidable (_ ∨ _))

/-- A row as it is shown. -/
def text (r : Row) : String :=
  s!"'{r.key}' for ({r.owner.contentType}-{r.owner.id})"

end Row

/-! ## The index -/

/-- Two tables of rows. -/
structure Index where
  /-- The rows in the order of their keys. -/
  byKey : List Row := []
  /-- The rows in the order of their owners. -/
  byOwner : List Row := []
  deriving DecidableEq, Repr

namespace Index

/-- The search keys of the texts, in ascending order and without the empty one. -/
def storedKeys (texts : List String) : List String :=
  Ascending.ofList (· < ·) ((texts.map searchKey).filter (· ≠ ""))

/-- The index with one more row; a row that is already there is refused. -/
def insertRow (ix : Index) (row : Row) : Except Error Index :=
  if row ∈ ix.byKey then
    .error (.duplicateRow row.key row.owner.contentType row.owner.id)
  else
    .ok ⟨Ascending.insert Row.Before row ix.byKey, Ascending.insert Row.OwnerBefore row ix.byOwner⟩

/-- The index with the owner's rows for keys that are search keys already. -/
def insertKeys (ix : Index) (owner : Owner) (keys : List String) : Except Error Index :=
  keys.foldlM (fun ix key => ix.insertRow ⟨key, owner⟩) ix

/-- The keys of an owner's rows. -/
def keysOf (ix : Index) (owner : Owner) : List String :=
  (ix.byOwner.filter (·.owner = owner)).map Row.key

/-- The index with one more key for an owner. -/
def put (ix : Index) (key : String) (owner : Owner) : Except Error Index :=
  ix.insertKeys owner (storedKeys [key])

/-- The index with more keys for an owner. -/
def insertFor (ix : Index) (owner : Owner) (keys : List String) : Except Error Index :=
  ix.insertKeys owner (storedKeys keys)

/-- The index without an owner's rows, and their number. -/
def deleteFor (ix : Index) (owner : Owner) : Index × Nat :=
  let keys := ix.keysOf owner
  (⟨keys.foldl (fun rows key => rows.erase ⟨key, owner⟩) ix.byKey,
    ix.byOwner.filter (·.owner ≠ owner)⟩, keys.length)

/-- The index with the given keys as all the keys of an owner. -/
def replaceFor (ix : Index) (owner : Owner) (keys : List String) : Except Error Index :=
  (ix.deleteFor owner).1.insertFor owner keys

/-- The index without rows. -/
def empty : Index := {}

end Index

end Wikilink
