/-
# Site.Rendering -- texts with their mentions replaced

Links are replaced first.  Embeds are then searched for in the text that results,
so what the links were replaced by takes part in that second search.
-/
import Wikilink.Site.Resolution

namespace Wikilink

set_option autoImplicit false

namespace Site

variable {ι : Type} [DecidableEq ι]

/-- The names for a mention without an object. -/
def labelContext (m : Mention) : Context :=
  Context.withText [] "label" m.label

/-- The names for a mention that is shown as it was written. -/
def fullTextContext (m : Mention) : Context :=
  (labelContext m).withText "full_match_text" m.fullText

/-- What is put in place of an embed of an object.  An embed that fails counts as unresolved. -/
def renderEmbed (s : Site ι) (m : Mention) (i : ι) (o : Item) (attr : String)
    (options : EmbedOptions) : String :=
  let t := s.types i
  if t.isEmbeddable attr then
    match o.embed attr options with
    | .ok text => text
    | .error _ => s.render t.templates.unresolved (labelContext m)
  else s.render t.templates.disallowed (fullTextContext m)

/-- What is put in place of a mention of an object. -/
def renderFound (s : Site ι) (m : Mention) (i : ι) (o : Item) : String :=
  match m.request with
  | .link _ => s.render (s.types i).templates.link ((labelContext m).withItem "object" o)
  | .embed attr options => s.renderEmbed m i o attr options

/-- What is put in place of a mention with an unknown type hint, by the templates of the first
link type. -/
def renderUnknownType (s : Site ι) (m : Mention) : Except Error String :=
  match s.registry.first? with
  | none => .error .nothingRegistered
  | some first =>
      .ok (s.render (s.types first).templates.typeUnresolved
        ((fullTextContext m).withText "type_hint" (m.typeHint.getD "")))

/-- What is put in place of a mention. -/
def renderMention (s : Site ι) (m : Mention) : Except Error String := do
  match ← s.resolve m.typeHint m.query with
  | .found i o => return s.renderFound m i o
  | .unresolved i => return s.render (s.types i).templates.unresolved (labelContext m)
  | .ambiguous i => return s.render (s.types i).templates.ambiguous (labelContext m)
  | .unknownType => s.renderUnknownType m

/-- The text with its links, and then its embeds, replaced. -/
def process (s : Site ι) (text : String) : Except Error String := do
  let linked ← Mention.Form.link.replaceAll text s.renderMention
  Mention.Form.embed.replaceAll linked s.renderMention

end Site

end Wikilink
