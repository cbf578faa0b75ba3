/-
# Toml.Tree -- the tables of a document while they are being filled

A document names its tables in headers and in dotted keys, and a table may be
filled from several places.  What may be added to a table depends on where the
table came from: one that a header opened is not opened again and not reached by
dotted keys, one that dotted keys made is filled by dotted keys alone, and a value
is never extended.
-/
import Wikilink.Json.Basic

namespace Wikilink.Toml

set_option autoImplicit false

/-- Where a table came from. -/
inductive Origin where
  /-- A header names it. -/
  | header
  /-- A header names a table inside it. -/
  | implied
  /-- A dotted key runs through it. -/
  | dotted
  deriving DecidableEq, Repr

/-- What stands under a name. -/
inductive Node where
  | value (v : Json)
  | table (origin : Origin) (entries : List (String × Node))
  /-- An array of tables, of which the last is open. -/
  | tables (closed : List (List (String × Node))) (last : List (String × Node))

/-- The entries of a table. -/
abbrev Entries := List (String × Node)

namespace Entries

/-- The entries with a node under a name. -/
def put (es : Entries) (name : String) (node : Node) : Entries :=
  Table.insert es name node

/-- The entries with a change in the table at the end of a path.  Missing tables are made, of an
array of tables the last one is meant, and a value is no table. -/
def update (dotted : Bool) (change : Origin → Entries → Option Entries) (origin : Origin) :
    List String → Entries → Option Entries
  | [], es => change origin es
  | name :: names, es =>
      match Table.find? es name with
      | none => do
          let origin := if dotted then Origin.dotted else Origin.implied
          return es.put name (.table origin (← update dotted change origin names []))
      | some (.value _) => none
      | some (.tables closed last) => do
          return es.put name (.tables closed (← update dotted change .header names last))
      | some (.table origin inner) =>
          if dotted ∧ origin = .header then none
          else do return es.put name (.table origin (← update dotted change origin names inner))

/-- The entries with a value under a dotted key; neither the value nor a table of another origin
may be there. -/
def assign (value : Json) : List String → Entries → Option Entries
  | [], _ => none
  | name :: names, es =>
      let path := (name :: names).dropLast
      let key := (name :: names).getLast (by simp)
      update true (fun origin es =>
        if path ≠ [] ∧ origin ≠ .dotted ∨ (Table.find? es key).isSome then none
        else some (es.put key (.value value))) .header path es

/-- The entries with a table opened by a header. -/
def openTable (path : List String) (name : String) (es : Entries) : Option Entries :=
  update false (fun _ es =>
    match Table.find? es name with
    | none => some (es.put name (.table .header []))
    | some (.table .implied inner) => some (es.put name (.table .header inner))
    | some _ => none) .header path es

/-- The entries with one more table in an array of tables. -/
def openElement (path : List String) (name : String) (es : Entries) : Option Entries :=
  update false (fun _ es =>
    match Table.find? es name with
    | none => some (es.put name (.tables [] []))
    | some (.tables closed last) => some (es.put name (.tables (closed ++ [last]) []))
    | some _ => none) .header path es

/-- The entries with a value assigned in the table that a header opened. -/
def assignIn (table : List String) (key : List String) (value : Json) (es : Entries) :
    Option Entries :=
  update false (fun _ es => assign value key es) .header table es

end Entries

mutual

/-- A node as JSON data. -/
def Node.toJson : Node → Json
  | .value v => v
  | .table _ entries => .object (entriesToJson entries)
  | .tables closed last =>
      .array (tablesToJson closed ++ [.object (entriesToJson last)])

/-- Entries as the members of an object. -/
def entriesToJson : List (String × Node) → List (String × Json)
  | [] => []
  | (name, node) :: es => (name, node.toJson) :: entriesToJson es

/-- Tables as objects. -/
def tablesToJson : List (List (String × Node)) → List Json
  | [] => []
  | es :: rest => .object (entriesToJson es) :: tablesToJson rest

end

end Wikilink.Toml
