/-
# Index.Stored -- an index between two runs

A stored index carries the version of its layout as text.  It is opened only if
that is the current version; a text that is no version, or none at all, is taken
for the current one.
-/
import Wikilink.Index.Basic

namespace Wikilink

set_option autoImplicit false

/-- An index with the text that states its layout version. -/
structure StoredIndex where
  index : Index
  version : Option String
  deriving DecidableEq, Repr

namespace StoredIndex

/-- The version of the present layout. -/
def currentVersion : Nat := 1

/-- Versions stay below this number. -/
def versionLimit : Nat := Nat.pow 2 32

/-- The version of a text: decimal digits, with a plus sign allowed before them. -/
def version? (text : String) : Option Nat :=
  let digits := match text.toList with
    | '+' :: cs => cs
    | cs => cs
  if !digits.isEmpty && digits.all Char.isDigit then
    let n := digits.foldl (fun n c => n * 10 + (c.toNat - '0'.toNat)) 0
    if n < versionLimit then some n else none
  else none

/-- A new index without rows. -/
def new : StoredIndex :=
  ⟨.empty, some (toString currentVersion)⟩

/-- The index, if its version is the current one. -/
def open? (s : StoredIndex) : Except Error Index :=
  let version := (s.version.bind version?).getD currentVersion
  if version = currentVersion then .ok s.index
  else .error (.refused (.layoutVersion version currentVersion))

end StoredIndex

end Wikilink
