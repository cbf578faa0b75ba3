/-
# Index.Search -- finding an object by a key

A lookup scans the rows in the order of their keys.  The rows of one key and
content type stand together, and so do the rows whose keys start alike; the scan
skips to the first of them and ends behind the last.  An exact match wins over
keys that go on, and several exact matches are not narrowed down.
-/
import Wikilink.Index.Basic
import Wikilink.Lookup

namespace Wikilink

set_option autoImplicit false

/-- Whether a text starts with another. -/
def startsWith (text start : String) : Bool :=
  start.toList.isPrefixOf text.toList

namespace Index

/-- The ids found under a search key. -/
def idsAt (ix : Index) (key contentType : String) : List Nat :=
  let first : Row := ⟨key, contentType, 0⟩
  let rows := ix.byKey.dropWhile fun r => decide (r.Before first)
  (rows.takeWhile fun r => r.key = key ∧ r.owner.contentType = contentType).map (·.owner.id)

/-- The ids found under the search keys that start with a search key, each once. -/
def idsFrom (ix : Index) (key contentType : String) : List Nat :=
  let first : Row := ⟨key, "", 0⟩
  let rows := ix.byKey.dropWhile fun r => decide (r.Before first)
  let rows := (rows.takeWhile fun r => startsWith r.key key).filter fun r =>
    r.owner.contentType = contentType
  Ascending.ofList (· < ·) (rows.map (·.owner.id))

/-- The object with exactly the search key of a text. -/
def lookup (ix : Index) (text contentType : String) : Lookup Nat :=
  let key := searchKey text
  if key = "" then .notFound else .ofCandidates (ix.idsAt key contentType)

/-- The object with a search key that starts with the one of a text. -/
def lookupPrefix (ix : Index) (text contentType : String) : Lookup Nat :=
  let key := searchKey text
  if key = "" then .notFound else .ofCandidates (ix.idsFrom key contentType)

/-- The object with the search key of a text, or else with one that starts with it. -/
def findObject (ix : Index) (text contentType : String) : Lookup Nat :=
  (ix.lookup text contentType).orElse (ix.lookupPrefix text contentType)

end Index

end Wikilink
