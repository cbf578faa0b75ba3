/-
# Template.Outcomes -- the templates of a link type

What a mention is replaced by depends on what it leads to: one object, none,
several, an unknown kind of object, or an attribute that may not be embedded.
-/
import Wikilink.Template.Basic

namespace Wikilink

set_option autoImplicit false

/-- One template per outcome. -/
structure Templates where
  /-- A link to an object; uses `object` and `label`. -/
  link : Template
  /-- No object; uses `label`. -/
  unresolved : Template
  /-- Several objects; uses `label`. -/
  ambiguous : Template
  /-- An unknown type hint; uses `full_match_text`, `label` and `type_hint`. -/
  typeUnresolved : Template
  /-- An attribute that may not be embedded; uses `full_match_text` and `label`. -/
  disallowed : Template

namespace Templates

/-- The source of an anchor that reads its URL from a field of the object. -/
def linkSource (urlField : String) : String :=
  "<a href=\"\x7b\x7b object." ++ urlField ++
    " \x7d\x7d\" title=\"\x7b\x7b object \x7d\x7d\">\x7b\x7b label \x7d\x7d</a>"

/-- The source of a span of the given class around a variable. -/
def spanSource (cssClass name : String) : String :=
  "<span class=\"" ++ cssClass ++ "\">\x7b\x7b " ++ name ++ " \x7d\x7d</span>"

/-- The templates used unless others are set. -/
def forUrlField (urlField : String) : Templates where
  link := .ofSource (linkSource urlField)
  unresolved := .ofSource (spanSource "smartlinks-unresolved" "label")
  ambiguous := .ofSource (spanSource "smartlinks-ambiguous" "label")
  typeUnresolved := .ofSource (spanSource "smartlinks-unresolved" "label")
  disallowed := .ofSource (spanSource "smartlinks-unallowed" "full_match_text")

end Templates

end Wikilink
