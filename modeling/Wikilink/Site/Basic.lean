/-
# Site.Basic -- everything that mentions are resolved against

A site joins link types, the objects of each, the registry of their shortcuts,
the search index and the way in which templates are filled in.
-/
import Wikilink.Content.Source
import Wikilink.Registry
import Wikilink.Template.Render

namespace Wikilink

set_option autoImplicit false

/-- Link types with their objects, shortcuts, index and renderer. -/
structure Site (ι : Type) where
  types : ι → LinkType
  sources : ι → Source
  registry : Registry ι
  index : Index
  render : Renderer

namespace Site

variable {ι : Type} [DecidableEq ι]

/-- A site with neither objects nor shortcuts. -/
def empty : Site ι where
  types := fun _ => { schema := ⟨"", []⟩ }
  sources := fun _ => {}
  registry := {}
  index := .empty
  render := Template.html

/-- The site with a link type and its objects. -/
def withType (s : Site ι) (i : ι) (t : LinkType) (source : Source) : Site ι :=
  { s with
    types := fun j => if j = i then t else s.types j
    sources := fun j => if j = i then source else s.sources j }

/-- The site with other objects of a link type. -/
def withSource (s : Site ι) (i : ι) (source : Source) : Site ι :=
  { s with sources := fun j => if j = i then source else s.sources j }

/-- The site with a link type bound to further shortcuts. -/
def register (s : Site ι) (shortcuts : List String) (i : ι) : Except Error (Site ι) := do
  return { s with registry := ← s.registry.register s.types shortcuts i }

end Site

end Wikilink
