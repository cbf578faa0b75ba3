/-
# Template.Render -- filling in a template

A context binds names to texts and objects.  A variable whose first word is bound
to an object goes on along the object's fields; a text has no fields.  A variable
without a value leaves nothing.  Values are escaped for markup or put in as they
are; literals always stay as they are.
-/
import Wikilink.Content.Path
import Wikilink.Template.Basic
import Wikilink.Text.Html

namespace Wikilink

set_option autoImplicit false

/-- What a name of a template stands for. -/
inductive Binding where
  | text (s : String)
  | item (o : Item)

namespace Binding

/-- The text at the end of a path that starts at the binding. -/
def textAt : Binding → List String → String
  | text s, [] => s
  | text _, _ :: _ => ""
  | item o, [] => o.display
  | item o, name :: names => (o.valueAt (".".intercalate (name :: names))).toText

end Binding

/-- The names that a template can use. -/
abbrev Context := Table Binding

namespace Context

/-- The context with a name bound to a text. -/
def withText (c : Context) (name text : String) : Context :=
  Table.insert c name (.text text)

/-- The context with a name bound to an object. -/
def withItem (c : Context) (name : String) (o : Item) : Context :=
  Table.insert c name (.item o)

/-- The text of a variable; `none` if its first word is not bound. -/
def resolve? (c : Context) : List String → Option String
  | [] => none
  | name :: names => (Table.find? c name).map fun binding => binding.textAt names

end Context

/-- A way to turn a template and a context into text. -/
abbrev Renderer := Template → Context → String

namespace Template

/-- A segment filled in, its value passed through `write`. -/
def Segment.render (write : String → String) (c : Context) : Segment → String
  | .literal text => text
  | .variable path => write ((c.resolve? path).getD "")

/-- The template filled in, each value passed through `write`. -/
def renderWith (write : String → String) (t : Template) (c : Context) : String :=
  String.join (t.segments.map (Segment.render write c))

/-- The template filled in with values escaped for markup. -/
def html : Renderer :=
  renderWith Text.escapeHtml

/-- The template filled in with values as they are. -/
def plain : Renderer :=
  renderWith id

end Template

end Wikilink
