/-
# Registry -- the names under which link types are known

A registry binds shortcuts to link types, in the order in which they were
registered; that order is the order in which untyped mentions try them.  A link
type may have several shortcuts.  A content type has one link type, the first one
that was registered for it.

Link types are known here by an identifier of any type with decidable equality;
`types` gives the link type of an identifier.
-/
import Wikilink.LinkType.Faults

namespace Wikilink

set_option autoImplicit false

/-- Shortcuts and what they stand for, in the order of registration. -/
structure Registry (ι : Type) where
  bindings : List (String × ι) := []

namespace Registry

variable {ι : Type} [DecidableEq ι] (types : ι → LinkType)

/-! ## Reading -/

/-- The link type of a shortcut. -/
def find? (r : Registry ι) (shortcut : String) : Option ι :=
  List.lookup shortcut r.bindings

/-- The link type of the first shortcut. -/
def first? (r : Registry ι) : Option ι :=
  r.bindings.head?.map Prod.snd

/-- The shortcuts in the order of their registration. -/
def shortcuts (r : Registry ι) : List String :=
  r.bindings.map Prod.fst

/-- The elements of a list at their first occurrences. -/
def distinct : List ι → List ι
  | [] => []
  | i :: rest => i :: (distinct rest).filter (· ≠ i)

/-- Each link type once, in the order of their first shortcuts. -/
def linkTypes (r : Registry ι) : List ι :=
  distinct (r.bindings.map Prod.snd)

/-- The link type that stands for a content type. -/
def forContentType? (r : Registry ι) (contentType : String) : Option ι :=
  r.linkTypes.find? fun i => (types i).contentType = contentType

/-! ## Registering -/

/-- Fails at the first shortcut that is no word or is taken, also by one before it in the list. -/
def checkShortcuts (taken : List String) : List String → Except Error Unit
  | [] => .ok ()
  | shortcut :: rest =>
      if !Text.isWordRun shortcut.toList then
        .error (.misconfigured (.malformedShortcut shortcut))
      else if shortcut ∈ taken then .error (.shortcutTaken shortcut)
      else checkShortcuts (shortcut :: taken) rest

/-- Fails if another link type stands for the content type of this one. -/
def checkContentType (r : Registry ι) (i : ι) : Except Error Unit :=
  let contentType := (types i).contentType
  match r.forContentType? types contentType with
  | none => .ok ()
  | some j =>
      if j = i then .ok () else .error (.misconfigured (.contentTypeTaken contentType))

/-- The registry with a link type under further shortcuts.  Nothing is bound unless every check
passes. -/
def register (r : Registry ι) (shortcuts : List String) (i : ι) : Except Error (Registry ι) := do
  (types i).validate
  if shortcuts.isEmpty then
    .error (.misconfigured (.noShortcut (types i).contentType))
  checkShortcuts r.shortcuts shortcuts
  r.checkContentType types i
  return ⟨r.bindings ++ shortcuts.map fun shortcut => (shortcut, i)⟩

end Registry

end Wikilink
