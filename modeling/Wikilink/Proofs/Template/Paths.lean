/-
# Proofs.Template.Paths -- templates and search keys read along paths

The words of a variable are segments of a path, since no word holds a dot
(`dotless_of_isWordRun`).  What a template writes for a variable that starts at an object, and
what a search text reads along a field path, is therefore the text of one value: the one that
the walk along the words leads to from the object (`Binding.textAt_item`).  How such walks
compose is said once for both (`Item.walks_compose`).
-/
import Wikilink.LinkType.Basic
import Wikilink.Proofs.Content.Path
import Wikilink.Proofs.Template.Parts

namespace Wikilink

set_option autoImplicit false

/-! ## Words as segments -/

theorem dotless_of_isWordRun {word : String} (run : Text.isWordRun word.toList = true) :
    '.' ∉ word.toList := by
  intro dot
  exact absurd (Text.isWord_of_mem run dot) (by decide)

/-- The words of a variable of a template hold no dots. -/
theorem Template.dotless_of_variable {source : String} {path : List String}
    (mem : .variable path ∈ (Template.ofSource source).segments) :
    ∀ word ∈ path, '.' ∉ word.toList := by
  obtain ⟨-, words⟩ := (splits_ofSource source).wellFormed _ mem
  exact fun word inside => dotless_of_isWordRun (words word inside)

/-! ## One value for templates and search texts -/

/-- Behind the name of an object a variable is the text of what the walk along its other words
leads to. -/
theorem Binding.textAt_item (o : Item) {names : List String}
    (dotless : ∀ name ∈ names, '.' ∉ name.toList) :
    (Binding.item o).textAt names = ((Value.item o).follow names).toText := by
  cases names with
  | nil => rfl
  | cons name names =>
      have segments := pathSegments_intercalate (List.cons_ne_nil name names) dotless
      rw [Binding.textAt, Item.valueAt, segments]

theorem Context.resolve?_of_item {c : Context} {name : String} {names : List String} {o : Item}
    (bound : Table.find? c name = some (.item o)) (dotless : ∀ name ∈ names, '.' ∉ name.toList) :
    c.resolve? (name :: names) = some ((Value.item o).follow names).toText := by
  rw [Context.resolve?, bound, Option.map_some, Binding.textAt_item o dotless]

/-- **Walks along field paths compose, and templates and search texts take the same walks.**  A
path leads to the value that is reached segment by segment, and a path behind another one to the
value that is reached from where that one leads: from an object along a path of that object, and
from a value that is neither object nor mapping to the absent value.  Every object on the way
answers with its id and its display, and a mapping has these names like any others.  A variable of
a template that starts at the object is the text of the value at the end of the walk along its other
words: the display of the object if there are none, and what a search text of their path reads if
there are some. -/
theorem Item.walks_compose (o : Item) :
    (∀ (p : FieldPath) w, Value.Leads (.item o) p.segments w ↔ o.valueAt p.text = w) ∧
    (∀ (p q : FieldPath) w, Value.Leads (o.valueAt p.text) q.segments w ↔
      o.valueAt (p.text ++ "." ++ q.text) = w) ∧
    (∀ (p q : FieldPath) o', o.valueAt p.text = .item o' →
      o.valueAt (p.text ++ "." ++ q.text) = o'.valueAt q.text) ∧
    (∀ p q : FieldPath, (o.valueAt p.text).IsScalar →
      o.valueAt (p.text ++ "." ++ q.text) = .null) ∧
    (o.valueAt idField = .text (toString o.id) ∧ o.valueAt displayField = .text o.display) ∧
    (∀ (p : FieldPath) o', o.valueAt p.text = .item o' →
      o.valueAt (p.text ++ "." ++ idField) = .text (toString o'.id) ∧
      o.valueAt (p.text ++ "." ++ displayField) = .text o'.display) ∧
    (∀ (p : FieldPath) entries, o.valueAt p.text = .map entries → ∀ name, '.' ∉ name.toList →
      o.valueAt (p.text ++ "." ++ name) = (List.lookup name entries).getD .null) ∧
    ∀ source (c : Context) name names,
      .variable (name :: names) ∈ (Template.ofSource source).segments →
      Table.find? c name = some (.item o) →
        (∃ w, (∀ x, Value.Leads (.item o) names x ↔ x = w) ∧
          c.resolve? (name :: names) = some w.toText) ∧
        (names = [] → c.resolve? (name :: names) = some o.display) ∧
        (names ≠ [] → c.resolve? (name :: names) =
          some ((FieldSet.single (".".intercalate names)).searchText o)) := by
  refine ⟨fun p w => ?_, fun p q w => ?_, fun p q o' reached => valueAt_append_of_item reached _,
    fun p q scalar => valueAt_append_of_isScalar scalar _, ⟨rfl, rfl⟩, fun p o' reached => ?_,
    fun p entries reached name dotless => valueAt_append_of_map reached dotless, ?_⟩
  · rw [Value.leads_iff, o.valueAt_text]
  · rw [Value.leads_iff, valueAt_append, q.pathSegments_text]
  · rw [valueAt_append_of_item reached, valueAt_append_of_item reached]
    exact ⟨o'.valueAt_idField, o'.valueAt_displayField⟩
  · intro source c name names occurs bound
    have dotless : ∀ word ∈ names, '.' ∉ word.toList := fun word mem =>
      Template.dotless_of_variable occurs word (List.mem_cons_of_mem name mem)
    have resolved := Context.resolve?_of_item bound dotless
    refine ⟨⟨_, fun x => ?_, resolved⟩, fun last => ?_, fun more => ?_⟩
    · rw [Value.leads_iff]
      exact eq_comm
    · rw [resolved, last]
      rfl
    · rw [resolved, FieldSet.searchText_single, Item.valueAt, pathSegments_intercalate more dotless]

/-- A director with pages of its own under a name that every object answers. -/
def director : Item :=
  ⟨7, "George Miller", [("pages", .map [("pk", .text "/d/miller")])], Item.noEmbeds⟩

/-- A film with its director, its year, and a field that is never reached. -/
def directedFilm : Item :=
  ⟨1, "Mad Max", [("director", .item director), ("pk", .text "none"), ("year", .integer 1979)],
    Item.noEmbeds⟩

/-- The same name is the id of an object, an entry of a mapping and nothing behind a number. -/
theorem Item.walks_compose_director :
    directedFilm.valueAt "pk" = .text "1" ∧ directedFilm.valueAt "director.pk" = .text "7" ∧
    directedFilm.valueAt "director.pages.pk" = .text "/d/miller" ∧
    directedFilm.valueAt "year.pk" = .null ∧
    (Context.withItem [] "film" directedFilm).resolve? ["film", "director", "pages", "pk"] =
      some "/d/miller" := by
  obtain ⟨-, -, -, scalar, own, honoured, plain, shown⟩ := directedFilm.walks_compose
  have written : .variable ["film", "director", "pages", "pk"] ∈
      (Template.ofSource "\x7b\x7b film.director.pages.pk \x7d\x7d").segments := by decide
  have bound : Table.find? (Context.withItem [] "film" directedFilm) "film" =
      some (.item directedFilm) := rfl
  obtain ⟨-, -, read⟩ := shown _ _ "film" ["director", "pages", "pk"] written bound
  have pages : directedFilm.valueAt "director.pages.pk" = .text "/d/miller" :=
    plain ⟨["director", "pages"], by decide, by decide⟩ [("pk", .text "/d/miller")] rfl "pk"
      (by decide)
  have year : (directedFilm.valueAt "year").IsScalar := trivial
  refine ⟨own.1, (honoured ⟨["director"], by decide, by decide⟩ director rfl).1, pages,
    scalar ⟨["year"], by decide, by decide⟩ ⟨["pk"], by decide, by decide⟩ year, ?_⟩
  rw [read (by decide), FieldSet.searchText_single]
  exact congrArg (fun v : Value => some v.toText) pages

end Wikilink
