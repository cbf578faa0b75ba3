/-
# Proofs.Template.Escaping -- values add no markup to a template

Values are passed through one function everywhere in a template.  Where that function
leaves no markup, the markup of what comes out is the markup of the literals and
nothing else, in the same order (`filter_renderSegments`).  Escaping is such a
function, and it loses nothing: what it puts in for a value reads back as the value
(`html_adds_no_markup`).
-/
import Wikilink.Proofs.Template
import Wikilink.Proofs.Text.Html

namespace Wikilink.Template

set_option autoImplicit false

open Text

/-- What a segment has of its own: a literal its text, a variable nothing. -/
def Segment.literalText : Segment → List Char
  | .literal text => text.toList
  | .variable _ => []

/-- What stands in a template outside of its variables. -/
def literalText (t : Template) : List Char :=
  t.segments.flatMap Segment.literalText

variable {write : String → String} {c : Context}

/-- **Values without markup add none.** -/
theorem filter_renderSegments (clean : ∀ v, ∀ d ∈ (write v).toList, isMarkup d = false)
    (segments : List Segment) :
    (renderSegments write c segments).toList.filter isMarkup =
      (segments.flatMap Segment.literalText).filter isMarkup := by
  induction segments with
  | nil => rfl
  | cons segment segments ih =>
      rw [renderSegments_cons, String.toList_append, List.filter_append, ih, List.flatMap_cons,
        List.filter_append]
      congr 1
      rcases segment with text | path
      · rfl
      · have none := clean ((c.resolve? path).getD "")
        rw [Segment.render, Segment.literalText, List.filter_nil, List.filter_eq_nil_iff]
        intro d mem
        simp [none d mem]

/-- **Values add no markup.**  A template is filled in to its literals, with the escaped value in
place of each variable, where the plain rendering has the value itself.  So its markup is that of
the literals.  In what a value is escaped to there is no markup, every ampersand starts one of the
five entities, and reading these gives the value again. -/
theorem html_adds_no_markup (t : Template) (c : Context) :
    (t.html c).toList.filter isMarkup = t.literalText.filter isMarkup ∧
    (∀ front text back, t.segments = front ++ .literal text :: back →
      t.html c = renderSegments escapeHtml c front ++ text ++ renderSegments escapeHtml c back ∧
      t.plain c = renderSegments id c front ++ text ++ renderSegments id c back) ∧
    ∀ front path back, t.segments = front ++ .variable path :: back →
      t.html c = renderSegments escapeHtml c front ++ escapeHtml (value c path) ++
        renderSegments escapeHtml c back ∧
      t.plain c = renderSegments id c front ++ value c path ++ renderSegments id c back ∧
      (∀ d ∈ (escapeHtml (value c path)).toList, isMarkup d = false) ∧
      (∀ before after, (escapeHtml (value c path)).toList = before ++ '&' :: after →
        ∃ entity ∈ entities, entity.toList <+: '&' :: after) ∧
      unescape (escapeHtml (value c path)).toList = (value c path).toList := by
  refine ⟨?_, fun front text back split => ⟨?_, ?_⟩,
    fun front path back split => ⟨?_, ?_, fun d mem => ?_, fun before after whole => ?_, ?_⟩⟩
  · exact filter_renderSegments (fun _ _ mem => not_isMarkup_of_mem_escapeHtml mem) t.segments
  · rw [html, renderWith_literal split]
  · rw [plain, renderWith_literal split]
  · rw [html, renderWith_variable split]
  · rw [plain, renderWith_variable split, id]
  · exact not_isMarkup_of_mem_escapeHtml mem
  · rw [toList_escapeHtml] at whole
    exact entity_of_ampersand whole
  · exact unescape_escapeHtml _

/-- A value that would close the tag and open another. -/
example :
    (ofSource "<b title=\"\x7b\x7b label \x7d\x7d\">").html (Context.withText [] "label" "\"><i>") =
      "<b title=\"&quot;&gt;&lt;i&gt;\">" := by
  decide

end Wikilink.Template
