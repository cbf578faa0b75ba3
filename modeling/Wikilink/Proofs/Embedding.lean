/-
# Proofs.Embedding -- embeds that are not allowed do not show

Whether an attribute of an object may be embedded is up to the link type that found
the object.  An embed *may show* if some registered link type can find the object
and allows the attribute.  Two sites that are the same but for embeds that may not
show replace the mentions of every text in the same way (`process_eq_of_alike`):
whatever such an embed gives, text or error, it is never asked for.

Finders and renderers of other origin are part of a site: they do not ask for embeds
that may not show.  A template that is filled in asks for none (`renderWith_eq`).
-/
import Wikilink.Proofs.Content.Alike
import Wikilink.Proofs.Maintenance.Rebuild
import Wikilink.Site.Rendering

namespace Wikilink

set_option autoImplicit false

/-! ## Searches -/

section Searches

variable (counts : Item → String → Prop)

/-- The same outcome, with alike objects. -/
inductive Lookup.Alike : Lookup Item → Lookup Item → Prop
  | found {o p : Item} (objects : o.Alike counts p) : Lookup.Alike (.found o) (.found p)
  | notFound : Lookup.Alike .notFound .notFound
  | ambiguous : Lookup.Alike .ambiguous .ambiguous

/-- The same failure, or alike outcomes. -/
inductive Lookup.AnswersAlike : Except Error (Lookup Item) → Except Error (Lookup Item) → Prop
  | error (e : Error) : Lookup.AnswersAlike (.error e) (.error e)
  | ok {outcome other : Lookup Item} (outcomes : outcome.Alike counts other) :
      Lookup.AnswersAlike (.ok outcome) (.ok other)

/-- Finders of one kind with alike answers. -/
inductive Finder.Alike : Finder → Finder → Prop
  | searchKeys : Finder.Alike .searchKeys .searchKeys
  | custom {find other : Index → String → Except Error (Lookup Item)}
      (answers : ∀ ix query, Lookup.AnswersAlike counts (find ix query) (other ix query)) :
      Finder.Alike (.custom find) (.custom other)

end Searches

namespace Site

variable {ι : Type} {counts : Item → String → Prop} {s t : Site ι}

/-- Sites that are the same, but for embeds that do not count. -/
structure Alike (counts : Item → String → Prop) (s t : Site ι) : Prop where
  registry : s.registry = t.registry
  index : s.index = t.index
  contentTypes : ∀ i, (s.types i).contentType = (t.types i).contentType
  embeddable : ∀ i, (s.types i).embeddable = (t.types i).embeddable
  templates : ∀ i, (s.types i).templates = (t.types i).templates
  finders : ∀ i, (s.types i).finder.Alike counts (t.types i).finder
  objects : ∀ i, List.Forall₂ (Item.Alike counts) (s.sources i).objects (t.sources i).objects
  /-- Alike names are shown in the same way: what shows an object reads its fields and its display,
  and leaves its embeds to the site, which knows what is allowed. -/
  render : ∀ template c d, Context.Alike counts c d → s.render template c = t.render template d

theorem find?_id_alike {os ps : List Item} (alike : List.Forall₂ (Item.Alike counts) os ps)
    (id : Nat) : Option.Rel (Item.Alike counts) (os.find? fun o => o.id = id)
      (ps.find? fun o => o.id = id) := by
  induction alike with
  | nil => exact .none
  | @cons o p os ps first rest ih =>
      rw [List.find?_cons, List.find?_cons, ← first.id_eq]
      cases decide (o.id = id) with
      | true => exact .some first
      | false => exact ih

theorem Alike.findIndexed (alike : s.Alike counts t) (i : ι) (query : String) :
    (s.findIndexed i query).Alike counts (t.findIndexed i query) := by
  unfold Site.findIndexed
  rw [← alike.index, ← alike.contentTypes]
  simp only
  split
  · exact .notFound
  · cases s.index.findObject (searchKey query) (s.types i).contentType with
    | notFound => exact .notFound
    | ambiguous => exact .ambiguous
    | found id =>
        have fetched : Option.Rel (Item.Alike counts) ((s.sources i).get? id)
            ((t.sources i).get? id) := find?_id_alike (alike.objects i) id
        simp only
        generalize (s.sources i).get? id = fetchedS at fetched ⊢
        generalize (t.sources i).get? id = fetchedT at fetched ⊢
        cases fetched with
        | none => exact .notFound
        | some objects => exact .found objects

theorem Alike.find (alike : s.Alike counts t) (i : ι) (query : String) :
    Lookup.AnswersAlike counts (s.find i query) (t.find i query) := by
  have finders := alike.finders i
  unfold Site.find
  rw [← alike.index]
  generalize (s.types i).finder = finderS at finders ⊢
  generalize (t.types i).finder = finderT at finders ⊢
  cases finders with
  | searchKeys => exact .ok (alike.findIndexed i query)
  | custom answers => exact answers s.index query

/-! ## Resolution -/

variable [DecidableEq ι]

/-- The same resolution, where an object that was found is one that a registered link type finds,
and its counterpart is alike. -/
inductive Corresponding (counts : Item → String → Prop) (s : Site ι) :
    Except Error (Resolution ι) → Except Error (Resolution ι) → Prop
  | found {i : ι} {query : String} {o p : Item} (registered : i ∈ s.registry.linkTypes)
      (found : s.find i query = .ok (.found o)) (objects : o.Alike counts p) :
      Corresponding counts s (.ok (.found i o)) (.ok (.found i p))
  | unresolved (i : ι) : Corresponding counts s (.ok (.unresolved i)) (.ok (.unresolved i))
  | ambiguous (i : ι) : Corresponding counts s (.ok (.ambiguous i)) (.ok (.ambiguous i))
  | unknownType : Corresponding counts s (.ok .unknownType) (.ok .unknownType)
  | error (e : Error) : Corresponding counts s (.error e) (.error e)

theorem Alike.resolveIn (alike : s.Alike counts t) {i : ι} (registered : i ∈ s.registry.linkTypes)
    (query : String) : Corresponding counts s (s.resolveIn i query) (t.resolveIn i query) := by
  have answers := alike.find i query
  unfold Site.resolveIn
  cases answer : s.find i query with
  | error e =>
      rw [answer] at answers
      generalize t.find i query = other at answers ⊢
      cases answers
      exact .error e
  | ok outcome =>
      rw [answer] at answers
      generalize t.find i query = other at answers ⊢
      cases answers with
      | ok outcomes =>
          cases outcomes with
          | found objects => exact .found registered answer objects
          | notFound => exact .unresolved i
          | ambiguous => exact .ambiguous i

theorem Alike.resolveAmong (alike : s.Alike counts t) (fallback : ι) (query : String)
    {is : List ι} (registered : ∀ i ∈ is, i ∈ s.registry.linkTypes) :
    Corresponding counts s (s.resolveAmong fallback query is)
      (t.resolveAmong fallback query is) := by
  induction is with
  | nil => exact .unresolved fallback
  | cons i is ih =>
      have first := alike.resolveIn (registered i (by simp)) query
      have rest := ih fun j mem => registered j (by simp [mem])
      unfold Site.resolveAmong
      generalize s.resolveIn i query = answerS at first ⊢
      generalize t.resolveIn i query = answerT at first ⊢
      cases first with
      | found registered found objects => exact .found registered found objects
      | unresolved j => exact rest
      | ambiguous j => exact .ambiguous j
      | unknownType => exact .unknownType
      | error e => exact .error e

theorem Alike.resolve (alike : s.Alike counts t) (typeHint : Option String) (query : String) :
    Corresponding counts s (s.resolve typeHint query) (t.resolve typeHint query) := by
  unfold Site.resolve
  rw [← alike.registry]
  cases s.registry.first? with
  | none => exact .error _
  | some first =>
      cases typeHint with
      | none => exact alike.resolveAmong first query fun _ mem => mem
      | some shortcut =>
          simp only
          cases bound : s.registry.find? shortcut with
          | none => exact .unknownType
          | some i => exact alike.resolveIn (Registry.mem_linkTypes_of_find? bound) query

/-! ## Mentions -/

/-- The embeds that may show: a registered link type finds the object and allows the attribute. -/
def MayShow (s : Site ι) (o : Item) (attr : String) : Prop :=
  ∃ i ∈ s.registry.linkTypes, (∃ query, s.find i query = .ok (.found o)) ∧
    (s.types i).isEmbeddable attr = true

omit [DecidableEq ι] in
theorem Alike.render_label (alike : s.Alike counts t) (template : Template) (m : Mention) :
    s.render template (labelContext m) = t.render template (labelContext m) :=
  alike.render _ _ _ (Context.Alike.insert .nil _ (.text m.label))

omit [DecidableEq ι] in
theorem Alike.render_fullText (alike : s.Alike counts t) (template : Template) (m : Mention) :
    s.render template (fullTextContext m) = t.render template (fullTextContext m) :=
  alike.render _ _ _
    (Context.Alike.insert (Context.Alike.insert .nil _ (.text m.label)) _ (.text m.fullText))

/-- An embed of an object that was found is the same where it is allowed, and not asked for where
it is not. -/
theorem Alike.renderEmbed (alike : s.Alike s.MayShow t) {i : ι} {query : String} {o p : Item}
    (registered : i ∈ s.registry.linkTypes) (found : s.find i query = .ok (.found o))
    (objects : o.Alike s.MayShow p) (m : Mention) (attr : String) (options : EmbedOptions) :
    s.renderEmbed m i o attr options = t.renderEmbed m i p attr options := by
  have allowed : (t.types i).isEmbeddable attr = (s.types i).isEmbeddable attr := by
    simp only [LinkType.isEmbeddable, alike.embeddable]
  simp only [Site.renderEmbed, allowed, ← alike.templates, ← alike.render_label,
    ← alike.render_fullText]
  cases shown : (s.types i).isEmbeddable attr with
  | false => rfl
  | true => rw [objects.embed_eq ⟨i, registered, ⟨query, found⟩, shown⟩ options]

theorem Alike.renderFound (alike : s.Alike s.MayShow t) {i : ι} {query : String} {o p : Item}
    (registered : i ∈ s.registry.linkTypes) (found : s.find i query = .ok (.found o))
    (objects : o.Alike s.MayShow p) (m : Mention) :
    s.renderFound m i o = t.renderFound m i p := by
  unfold Site.renderFound
  cases m.request with
  | link label =>
      rw [← alike.templates]
      exact alike.render _ _ _
        (Context.Alike.insert (Context.Alike.insert .nil _ (.text m.label)) _ (.item objects))
  | embed attr options => exact alike.renderEmbed registered found objects m attr options

/-- Every mention is replaced in the same way. -/
theorem Alike.renderMention (alike : s.Alike s.MayShow t) (m : Mention) :
    s.renderMention m = t.renderMention m := by
  have unknown : s.renderUnknownType m = t.renderUnknownType m := by
    unfold Site.renderUnknownType
    rw [← alike.registry]
    cases s.registry.first? with
    | none => rfl
    | some first =>
        have names : Context.Alike s.MayShow
            ((fullTextContext m).withText "type_hint" (m.typeHint.getD ""))
            ((fullTextContext m).withText "type_hint" (m.typeHint.getD "")) := by
          have label : Context.Alike s.MayShow [("label", .text m.label)]
              [("label", .text m.label)] := Context.Alike.insert .nil _ (.text m.label)
          exact (label.insert _ (.text m.fullText)).insert _ (.text _)
        simp only [← alike.templates, alike.render _ _ _ names]
  have resolved := alike.resolve m.typeHint m.query
  unfold Site.renderMention
  generalize s.resolve m.typeHint m.query = resolvedS at resolved ⊢
  generalize t.resolve m.typeHint m.query = resolvedT at resolved ⊢
  cases resolved with
  | found registered found objects =>
      exact congrArg Except.ok (alike.renderFound registered found objects m)
  | unresolved i =>
      have rendered := alike.render_label (s.types i).templates.unresolved m
      exact congrArg Except.ok (rendered.trans (by rw [alike.templates]))
  | ambiguous i =>
      have rendered := alike.render_label (s.types i).templates.ambiguous m
      exact congrArg Except.ok (rendered.trans (by rw [alike.templates]))
  | unknownType => exact unknown
  | error e => rfl

/-- **Embeds that may not show do not influence what a text becomes.** -/
theorem process_eq_of_alike (alike : s.Alike s.MayShow t) (text : String) :
    s.process text = t.process text := by
  have mentions : s.renderMention = t.renderMention := funext alike.renderMention
  rw [process, process, mentions]

/-! ## Two sites -/

/-- A film whose embeds are a poster and what `other` gives for every other attribute. -/
def spoilerFilm (other : Except Error String) : Item :=
  { film 1 "Mad Max" with embed := fun attr _ => if attr = "poster" then .ok "<img>" else other }

/-- A site of that film, of which only the poster may be embedded. -/
def spoilers (other : Except Error String) : Site Unit where
  types _ := { filmType with embeddable := ["poster"] }
  sources _ := ({} : Source).insert (spoilerFilm other)
  registry := ⟨[("m", ())]⟩
  index := ⟨[⟨"madmax", "movie", 1⟩], [⟨"madmax", "movie", 1⟩]⟩
  render := Template.html

theorem alike_spoilers (other another : Except Error String) :
    (spoilers other).Alike (spoilers other).MayShow (spoilers another) where
  registry := rfl
  index := rfl
  contentTypes _ := rfl
  embeddable _ := rfl
  templates _ := rfl
  finders _ := .searchKeys
  objects _ := by
    -- The poster is the only embed that may show, and it is the same.
    refine .cons (.of rfl rfl (.refl _) ?_) .nil
    rintro attr ⟨_, _, _, allowed⟩ options
    have poster : attr = "poster" := by
      simpa [spoilers, LinkType.isEmbeddable] using allowed
    simp [spoilerFilm, poster]
  render template c d alike := alike.renderWith_eq Text.escapeHtml template

/-- Whether the plot has a text or fails, it does not show. -/
theorem process_eq_of_alike_spoilers :
    (spoilerFilm (.ok "A spoiler.")).embed "plot" ⟨[], []⟩ ≠
      (spoilerFilm (.error .nothingRegistered)).embed "plot" ⟨[], []⟩ ∧
    (spoilers (.ok "A spoiler.")).process "{{ Mad Max | plot }}" =
      (spoilers (.error .nothingRegistered)).process "{{ Mad Max | plot }}" :=
  ⟨by simp [spoilerFilm], process_eq_of_alike (alike_spoilers _ _) _⟩

end Site

end Wikilink
