/-
# Table -- values under names

A table lists its entries in ascending order of their names, which is the order
of the UTF-8 bytes as well as of the code points.  A name occurs once.
-/
import Wikilink.Ascending

namespace Wikilink

set_option autoImplicit false

/-- Entries under distinct names, in ascending order of the names. -/
abbrev Table (α : Type) := List (String × α)

namespace Table

variable {α : Type}

/-- The value under `name`, if there is one. -/
def find? (t : Table α) (name : String) : Option α :=
  List.lookup name t

theorem find?_cons {name other : String} {value : α} {t : Table α} :
    find? ((name, value) :: t) other = if other = name then some value else find? t other := by
  rw [find?, List.lookup_cons]
  by_cases same : other = name
  · rw [if_pos same, beq_iff_eq.mpr same]
  · rw [if_neg same, beq_eq_false_iff_ne.mpr same, find?]

/-- The table with `value` under `name`, in place of what was there. -/
def insert (t : Table α) (name : String) (value : α) : Table α :=
  Ascending.insert (fun a b => a.1 < b.1) (name, value) t

/-- The names in ascending order. -/
def names (t : Table α) : List String :=
  t.map Prod.fst

/-- The table of a list of entries; of entries under one name, the last one counts. -/
def ofList (entries : List (String × α)) : Table α :=
  entries.foldl (fun t e => t.insert e.1 e.2) []

end Table

end Wikilink
