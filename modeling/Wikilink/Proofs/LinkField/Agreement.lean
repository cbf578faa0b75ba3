/-
# Proofs.LinkField.Agreement -- all readers of a link field come to one link

A link field is read by its label, its object, its URL and its validation, and it is
rendered as any other text.  Where a link leads the value, all of these read that
link, and all of them come to what its query leads to: an object (`LeadsTo`), no
single object (`LeadsNowhere`) or a failure (`FailsWith`).  Each outcome is settled by
one lemma, and `readers_agree` puts them together.
-/
import Wikilink.LinkField
import Wikilink.Proofs.Mention.Leading
import Wikilink.Proofs.Rendering.Failing

namespace Wikilink

set_option autoImplicit false

/-- The object that an outcome comes to, with its link type. -/
def Resolution.object? {ι : Type} : Resolution ι → Option (ι × Item)
  | .found i o => some (i, o)
  | _ => none

namespace LinkField

open Mention (Form Leading)
open Site (labelContext fullTextContext)

variable {ι : Type} [DecidableEq ι] {s : Site ι} {field : LinkField} {m : Mention}
  {blanks behind : List Char} {i : ι} {o : Item} {e : Error}

/-! ## Outcomes -/

/-- Every reader of the field comes to the object. -/
structure LeadsTo (s : Site ι) (field : LinkField) (i : ι) (o : Item) : Prop where
  objectFor : s.objectFor field.raw = .ok (some (i, o))
  urlFor : s.urlFor field.raw = .ok ((s.types i).urlOf? o)
  object : field.object? s = .ok (some o)
  url : field.url s = .ok (((s.types i).urlOf? o).getD "")
  valid : validate s true field.raw = .ok ()

/-- No reader of the field comes to an object, and the field is refused where it has to lead to
one. -/
structure LeadsNowhere (s : Site ι) (field : LinkField) : Prop where
  objectFor : s.objectFor field.raw = .ok none
  urlFor : s.urlFor field.raw = .ok none
  object : field.object? s = .ok none
  url : field.url s = .ok ""
  refused : validate s true field.raw = .error (.refused .unresolvedSmartlink)

/-- Every reader of the field fails alike. -/
structure FailsWith (s : Site ι) (field : LinkField) (e : Error) : Prop where
  objectFor : s.objectFor field.raw = .error e
  urlFor : s.urlFor field.raw = .error e
  object : field.object? s = .error e
  url : field.url s = .error e
  refused : validate s true field.raw = .error e
  rendered : field.rendered s = .error e

/-! ## The readers -/

section Object

variable (parsed : Form.link.parse? (String.ofList (Text.trimStart field.raw.toList)) = some m)

include parsed

theorem objectFor_eq :
    s.objectFor field.raw = (s.resolve m.typeHint m.query).map Resolution.object? := by
  rw [Site.objectFor, parsed]
  show (s.resolve m.typeHint m.query >>= _) = _
  cases s.resolve m.typeHint m.query with
  | error e => rfl
  | ok outcome => cases outcome <;> rfl

theorem urlFor_eq : s.urlFor field.raw = (s.resolve m.typeHint m.query).map fun outcome =>
    outcome.object?.bind fun found => (s.types found.1).urlOf? found.2 := by
  rw [Site.urlFor, objectFor_eq parsed]
  cases s.resolve m.typeHint m.query <;> rfl

theorem object?_eq : field.object? s = (s.resolve m.typeHint m.query).map fun outcome =>
    outcome.object?.map Prod.snd := by
  rw [object?, objectFor_eq parsed]
  cases s.resolve m.typeHint m.query <;> rfl

theorem url_eq : field.url s = (s.resolve m.typeHint m.query).map fun outcome =>
    (outcome.object?.bind fun found => (s.types found.1).urlOf? found.2).getD "" := by
  rw [LinkField.url, urlFor_eq parsed]
  cases s.resolve m.typeHint m.query <;> rfl

end Object

/-- The validation reads the link, although it trims the value at both ends. -/
theorem validate_eq (leading : Leading field.raw.toList m blanks behind) :
    validate s true field.raw = (s.resolve m.typeHint m.query).bind fun outcome =>
      if outcome.object?.isSome then .ok () else .error (.refused .unresolvedSmartlink) := by
  have filled : (Text.trim field.raw.toList).isEmpty = false := by
    simpa using leading.trim_ne_nil
  have read : Mention.parse? (String.ofList (Text.trim field.raw.toList)) = some m := by
    have link : Form.link.parse? (String.ofList (Text.trim field.raw.toList)) = some m :=
      leading.parse?_trimmed
    rw [Mention.parse?, link]
    rfl
  simp only [validate, filled, read, Bool.false_eq_true, if_false, if_true]
  cases s.resolve m.typeHint m.query with
  | error e => rfl
  | ok outcome => cases outcome <;> rfl

section Readers

variable (leading : Leading field.raw.toList m blanks behind)
  (parsed : Form.link.parse? (String.ofList (Text.trimStart field.raw.toList)) = some m)

include leading parsed

theorem leadsTo_of_found (resolved : s.resolve m.typeHint m.query = .ok (.found i o)) :
    field.LeadsTo s i o where
  objectFor := by rw [objectFor_eq parsed, resolved]; rfl
  urlFor := by rw [urlFor_eq parsed, resolved]; rfl
  object := by rw [object?_eq parsed, resolved]; rfl
  url := by rw [url_eq parsed, resolved]; rfl
  valid := by rw [validate_eq leading, resolved]; rfl

theorem leadsNowhere_of_lost {outcome : Resolution ι}
    (resolved : s.resolve m.typeHint m.query = .ok outcome)
    (lost : outcome.object? = none) : field.LeadsNowhere s where
  objectFor := by simp only [objectFor_eq parsed, resolved, Except.map, lost]
  urlFor := by simp only [urlFor_eq parsed, resolved, Except.map, lost, Option.bind_none]
  object := by simp only [object?_eq parsed, resolved, Except.map, lost, Option.map_none]
  url := by simp only [url_eq parsed, resolved, Except.map, lost, Option.bind_none, Option.getD_none]
  refused := by
    rw [validate_eq leading, resolved]
    show (if outcome.object?.isSome then _ else _) = _
    rw [lost]
    rfl

theorem failsWith_of_error (failed : s.resolve m.typeHint m.query = .error e) :
    field.FailsWith s e where
  objectFor := by rw [objectFor_eq parsed, failed]; rfl
  urlFor := by rw [urlFor_eq parsed, failed]; rfl
  object := by rw [object?_eq parsed, failed]; rfl
  url := by rw [url_eq parsed, failed]; rfl
  refused := by rw [validate_eq leading, failed]; rfl
  rendered := by
    apply Site.process_of_linked_error
    have links := leading.replaceAll_eq s.renderMention
    rw [Site.renderMention_eq_error_iff.mpr failed, String.ofList_toList] at links
    exact links

end Readers

/-! ## Rendering -/

/-- A link to an object is written by the link template of its link type. -/
theorem renderMention_of_found (leading : Leading field.raw.toList m blanks behind)
    (resolved : s.resolve m.typeHint m.query = .ok (.found i o)) :
    s.renderMention m =
      .ok (s.render (s.types i).templates.link ((labelContext m).withItem "object" o)) := by
  obtain ⟨label, request⟩ := leading.request_eq
  have shown : s.renderFound m i o =
      s.render (s.types i).templates.link ((labelContext m).withItem "object" o) := by
    simp only [Site.renderFound, request]
  rw [Site.renderMention, resolved, ← shown]
  rfl

theorem renderMention_of_unknownType (resolved : s.resolve m.typeHint m.query = .ok .unknownType) :
    ∃ first, s.registry.first? = some first ∧
      s.renderMention m = .ok (s.render (s.types first).templates.typeUnresolved
        ((fullTextContext m).withText "type_hint" (m.typeHint.getD ""))) := by
  obtain ⟨first, head⟩ := Site.first?_of_resolve_eq_ok resolved
  refine ⟨first, head, ?_⟩
  rw [Site.renderMention, resolved]
  show s.renderUnknownType m = _
  rw [Site.renderUnknownType, head]

/-- **All readers of a link field come to one link, and to what it leads to.**  The link is the
first that a search over the value finds, behind the blanks, and the first that the link pass
writes.  If its query leads to an object, that is the object of the field, its URL is the field's,
the field is valid and the link is written by the link template; if it leads to no single object,
the field has neither, is refused and shows the template of the outcome; and if the search for it
fails, everything fails so. -/
theorem readers_agree (s : Site ι) {field : LinkField} {m : Mention}
    (parsed : Form.link.parse? (String.ofList (Text.trimStart field.raw.toList)) = some m) :
    (∃ blanks behind : String, field.raw = blanks ++ m.fullText ++ behind ∧
      (∀ c ∈ blanks.toList, Text.isBlank c = true) ∧
      (Form.link.findAll field.raw).head? =
        some ⟨blanks.utf8ByteSize, (blanks ++ m.fullText).utf8ByteSize, m⟩ ∧
      s.linked field.raw = (do
        let shown ← s.renderMention m
        let rest ← s.linked behind
        return blanks ++ shown ++ rest)) ∧
    field.label? = some m.label ∧
    match s.resolve m.typeHint m.query with
    | .ok (.found i o) =>
        field.LeadsTo s i o ∧ s.renderMention m =
          .ok (s.render (s.types i).templates.link ((labelContext m).withItem "object" o))
    | .ok (.unresolved i) =>
        field.LeadsNowhere s ∧ s.renderMention m =
          .ok (s.render (s.types i).templates.unresolved (labelContext m))
    | .ok (.ambiguous i) =>
        field.LeadsNowhere s ∧ s.renderMention m =
          .ok (s.render (s.types i).templates.ambiguous (labelContext m))
    | .ok .unknownType =>
        field.LeadsNowhere s ∧ ∃ first, s.registry.first? = some first ∧ s.renderMention m =
          .ok (s.render (s.types first).templates.typeUnresolved
            ((fullTextContext m).withText "type_hint" (m.typeHint.getD "")))
    | .error e => field.FailsWith s e ∧ s.renderMention m = .error e := by
  obtain ⟨blanks, behind, leading⟩ := Mention.exists_leading parsed
  refine ⟨⟨String.ofList blanks, String.ofList behind, ?_, ?_, ?_, ?_⟩, ?_, ?_⟩
  · apply String.toList_injective
    simpa using leading.whole
  · simpa using leading.blank
  · have first := leading.head?_findAll
    rw [String.ofList_toList] at first
    rw [first, ← Text.byteLength_toList, ← Text.byteLength_toList, String.toList_append,
      String.toList_ofList]
  · have links := leading.replaceAll_eq s.renderMention
    rwa [String.ofList_toList] at links
  · rw [label?, parsed]
    rfl
  · cases resolved : s.resolve m.typeHint m.query with
    | error e =>
        exact ⟨failsWith_of_error leading parsed resolved,
          Site.renderMention_eq_error_iff.mpr resolved⟩
    | ok outcome =>
        cases outcome with
        | found i o =>
            exact ⟨leadsTo_of_found leading parsed resolved,
              renderMention_of_found leading resolved⟩
        | unresolved i =>
            refine ⟨leadsNowhere_of_lost leading parsed resolved rfl, ?_⟩
            rw [Site.renderMention, resolved]
            rfl
        | ambiguous i =>
            refine ⟨leadsNowhere_of_lost leading parsed resolved rfl, ?_⟩
            rw [Site.renderMention, resolved]
            rfl
        | unknownType =>
            exact ⟨leadsNowhere_of_lost leading parsed resolved rfl,
              renderMention_of_unknownType resolved⟩

/-- A field of a film, with blanks before the link and more behind it; of its title, only the start
of another title, and a type that is not registered. -/
theorem readers_agree_films :
    (∃ m, Form.link.parse? (String.ofList
        (Text.trimStart "  [[ Mad Max! | it ]], a film ".toList)) = some m ∧ m.label = "it" ∧
      (LinkField.mk "  [[ Mad Max! | it ]], a film ").label? = some "it" ∧
      (LinkField.mk "  [[ Mad Max! | it ]], a film ").LeadsTo Site.indexedFilms ()
        (film 1 "Mad Max")) ∧
    (LinkField.mk "[[ mad ]]").LeadsNowhere Site.indexedFilms ∧
    (LinkField.mk "[[ book->Mad Max ]]").LeadsNowhere Site.indexedFilms ∧
    (LinkField.mk "[[ Mad Max ]]").FailsWith (Site.empty : Site Unit) .nothingRegistered := by
  have title := @readers_agree _ _ Site.indexedFilms ⟨"  [[ Mad Max! | it ]], a film "⟩ _ rfl
  have start := @readers_agree _ _ Site.indexedFilms ⟨"[[ mad ]]"⟩ _ rfl
  have book := @readers_agree _ _ Site.indexedFilms ⟨"[[ book->Mad Max ]]"⟩ _ rfl
  have nothing := @readers_agree _ _ (Site.empty : Site Unit) ⟨"[[ Mad Max ]]"⟩ _ rfl
  exact ⟨⟨_, rfl, rfl, title.2.1, title.2.2.1⟩, start.2.2.1, book.2.2.1, nothing.2.2.1⟩

end LinkField

end Wikilink
