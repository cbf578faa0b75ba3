/-
# Proofs.Content.Alike -- objects that differ in embeds only

Two objects are *alike* if they have the same id, display and fields, and their
embeds agree for the attributes that count; related objects in the fields are alike
in turn.  Texts and paths do not see the difference: what a path leads to is alike
(`Item.Alike.valueAt`), and a template that is filled in with alike objects gives
the same text (`Context.Alike.renderWith_eq`).
-/
import Mathlib.Data.List.Forall2
import Wikilink.Template.Render

namespace Wikilink

set_option autoImplicit false

/-! ## Values and objects -/

mutual

/-- Values that are the same, but for the embeds of objects in them that do not count. -/
inductive Value.Alike (counts : Item → String → Prop) : Value → Value → Prop
  | same (v : Value) : Value.Alike counts v v
  | item {o p : Item} (objects : Item.Alike counts o p) : Value.Alike counts (.item o) (.item p)
  | map {entries others : List (String × Value)}
      (values : Value.EntriesAlike counts entries others) :
      Value.Alike counts (.map entries) (.map others)

/-- Values under the same names in the same order, each alike. -/
inductive Value.EntriesAlike (counts : Item → String → Prop) :
    List (String × Value) → List (String × Value) → Prop
  | nil : Value.EntriesAlike counts [] []
  | cons {name : String} {v w : Value} {entries others : List (String × Value)}
      (first : Value.Alike counts v w) (rest : Value.EntriesAlike counts entries others) :
      Value.EntriesAlike counts ((name, v) :: entries) ((name, w) :: others)

/-- Objects that are the same, but for embeds of attributes that do not count for them. -/
inductive Item.Alike (counts : Item → String → Prop) : Item → Item → Prop
  | of {o p : Item} (id : o.id = p.id) (display : o.display = p.display)
      (fields : Value.EntriesAlike counts o.fields p.fields)
      (embeds : ∀ attr, counts o attr → ∀ options, o.embed attr options = p.embed attr options) :
      Item.Alike counts o p

end

variable {counts : Item → String → Prop}

theorem Value.EntriesAlike.refl (entries : List (String × Value)) :
    Value.EntriesAlike counts entries entries := by
  induction entries with
  | nil => exact .nil
  | cons e rest ih => exact .cons (.same e.2) ih

namespace Item.Alike

variable {o p : Item}

theorem id_eq : o.Alike counts p → o.id = p.id
  | .of id _ _ _ => id

theorem display_eq : o.Alike counts p → o.display = p.display
  | .of _ display _ _ => display

theorem fields : o.Alike counts p → Value.EntriesAlike counts o.fields p.fields
  | .of _ _ fields _ => fields

theorem embed_eq {attr : String} (alike : o.Alike counts p) (counted : counts o attr)
    (options : EmbedOptions) : o.embed attr options = p.embed attr options :=
  match alike with
  | .of _ _ _ embeds => embeds attr counted options

end Item.Alike

/-! ## Paths -/

theorem Value.Alike.toText_eq {v w : Value} (alike : v.Alike counts w) : v.toText = w.toText := by
  cases alike with
  | same => rfl
  | item objects => exact objects.display_eq
  | map values => rfl

theorem Value.EntriesAlike.lookup {entries others : List (String × Value)}
    (alike : EntriesAlike counts entries others) (name : String) :
    Option.Rel (Alike counts) (List.lookup name entries) (List.lookup name others) := by
  induction entries generalizing others with
  | nil =>
      cases alike
      exact .none
  | cons e entries ih =>
      cases alike with
      | @cons key v w _ others first rest =>
          rw [List.lookup_cons, List.lookup_cons]
          cases name == key with
          | true => exact .some first
          | false => exact ih rest

theorem Item.Alike.field? {o p : Item} (alike : o.Alike counts p) (name : String) :
    Option.Rel (Value.Alike counts) (o.field? name) (p.field? name) := by
  unfold Item.field?
  split
  · rw [alike.id_eq]
    exact .some (.same _)
  · split
    · rw [alike.display_eq]
      exact .some (.same _)
    · exact alike.fields.lookup name

namespace Value

variable {v w : Value}

theorem Alike.get? (alike : v.Alike counts w) (name : String) :
    Option.Rel (Alike counts) (v.get? name) (w.get? name) := by
  cases alike with
  | same =>
      cases v.get? name with
      | none => exact .none
      | some value => exact .some (.same value)
  | item objects => exact objects.field? name
  | map values => exact values.lookup name

theorem alike_getD {found other : Option Value} (alike : Option.Rel (Alike counts) found other) :
    (found.getD .null).Alike counts (other.getD .null) := by
  cases alike with
  | none => exact .same .null
  | some values => exact values

/-- Alike values lead to alike values along a path. -/
theorem Alike.follow (alike : v.Alike counts w) (segments : List String) :
    (v.follow segments).Alike counts (w.follow segments) := by
  unfold Value.follow
  induction segments generalizing v w with
  | nil => exact alike
  | cons name segments ih => exact ih (alike_getD (alike.get? name))

end Value

theorem Item.Alike.valueAt {o p : Item} (alike : o.Alike counts p) (path : String) :
    (o.valueAt path).Alike counts (p.valueAt path) :=
  Value.Alike.follow (.item alike) (pathSegments path)

/-! ## Templates -/

/-- Bindings to the same text or to alike objects. -/
inductive Binding.Alike (counts : Item → String → Prop) : Binding → Binding → Prop
  | text (s : String) : Binding.Alike counts (.text s) (.text s)
  | item {o p : Item} (objects : o.Alike counts p) : Binding.Alike counts (.item o) (.item p)

theorem Binding.Alike.textAt_eq {a b : Binding} (alike : a.Alike counts b) (path : List String) :
    a.textAt path = b.textAt path := by
  cases alike with
  | text => rfl
  | item objects =>
      cases path with
      | nil => exact objects.display_eq
      | cons name names => exact (objects.valueAt _).toText_eq

/-- Contexts with alike bindings under the same names. -/
def Context.Alike (counts : Item → String → Prop) (c d : Context) : Prop :=
  List.Forall₂ (fun a b => a.1 = b.1 ∧ a.2.Alike counts b.2) c d

namespace Context.Alike

variable {c d : Context}

theorem insert (alike : Context.Alike counts c d) (name : String) {a b : Binding}
    (bindings : a.Alike counts b) :
    Context.Alike counts (Table.insert c name a) (Table.insert d name b) := by
  unfold Table.insert
  induction alike with
  | nil => exact .cons ⟨rfl, bindings⟩ .nil
  | @cons x y c d first rest ih =>
      simp only [Ascending.insert, ← first.1]
      split
      · exact .cons ⟨rfl, bindings⟩ (.cons first rest)
      · split
        · exact .cons first ih
        · exact .cons ⟨rfl, bindings⟩ rest

theorem resolve?_eq (alike : Context.Alike counts c d) (path : List String) :
    c.resolve? path = d.resolve? path := by
  cases path with
  | nil => rfl
  | cons name names =>
      unfold Context.resolve? Table.find?
      induction alike with
      | nil => rfl
      | @cons x y c d first rest ih =>
          obtain ⟨key, a⟩ := x
          obtain ⟨other, b⟩ := y
          obtain ⟨rfl, bindings⟩ := first
          simp only [List.lookup_cons]
          cases name == key with
          | true => exact congrArg some (bindings.textAt_eq names)
          | false => exact ih

/-- **A template shows alike objects in the same way.** -/
theorem renderWith_eq (alike : Context.Alike counts c d) (write : String → String)
    (template : Template) : template.renderWith write c = template.renderWith write d := by
  have segments : ∀ segment, Template.Segment.render write c segment =
      Template.Segment.render write d segment := by
    rintro (text | path)
    · rfl
    · rw [Template.Segment.render, alike.resolve?_eq, Template.Segment.render]
  unfold Template.renderWith
  rw [funext segments]

end Context.Alike

end Wikilink
