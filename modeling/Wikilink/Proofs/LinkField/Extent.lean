/-
# Proofs.LinkField.Extent -- how far the mention of a valid value reaches

A value is valid if it begins with a mention, blanks aside, and whatever follows the
mention does not matter (`validate_append`).  So the mention need not be all of the
value: it is exactly where its closing brackets, which are the first that can close
it, end the value (`closesAtEnd_append_iff`).  What stands behind it takes no part in
the validation, and is rendered as a text of its own (`validate_covers_iff`).
-/
import Wikilink.Proofs.LinkField.Input

namespace Wikilink

set_option autoImplicit false

open Text

namespace Mention

variable {s covered rest : List Char} {m : Mention} {size : Nat}

/-- The form that a mention has. -/
def form (m : Mention) : Form :=
  if m.isEmbed then .embed else .link

theorem form_of_recognized {form : Form} (recognized : form.recognizer s = some (m, size)) :
    m.form = form := by
  cases form with
  | link => exact if_neg (by simp [isEmbed_of_recognizeLink recognized])
  | embed => exact if_pos (isEmbed_of_recognizeEmbed recognized)

/-- A text begins with a mention exactly if the form of that mention is recognized there. -/
theorem parse?_ofList_eq_some_iff_form :
    parse? (String.ofList s) = some m ↔ ∃ size, m.form.recognizer s = some (m, size) := by
  rw [parse?_ofList_eq_some_iff]
  constructor
  · rintro (⟨size, link⟩ | ⟨-, size, embed⟩)
    · have recognized : Form.link.recognizer s = some (m, size) := link
      exact ⟨size, by rwa [form_of_recognized recognized]⟩
    · have recognized : Form.embed.recognizer s = some (m, size) := embed
      exact ⟨size, by rwa [form_of_recognized recognized]⟩
  · rintro ⟨size, recognized⟩
    cases form : m.form with
    | link =>
        rw [form] at recognized
        exact Or.inl ⟨size, recognized⟩
    | embed =>
        rw [form] at recognized
        obtain ⟨subject, asked, behind, shape⟩ := exists_embedShape recognized
        have unlinked : recognizeLink s = none := by
          rw [shape.whole]
          exact recognizeLink_of_ne (by decide) _
        exact Or.inr ⟨unlinked, size, recognized⟩

/-- A mention at the start of a text is the front of it that the mention was read from. -/
theorem exists_rest_of_parse? (parsed : parse? (String.ofList s) = some m) :
    ∃ rest, s = m.fullText.toList ++ rest ∧
      m.form.recognizer (m.fullText.toList ++ rest) = some (m, m.fullText.toList.length) := by
  obtain ⟨size, recognized⟩ := parse?_ofList_eq_some_iff_form.mp parsed
  have within := (m.form.covering_recognizer recognized).2
  have covered : m.fullText.toList = s.take size := by
    rw [Form.fullText_of_recognized recognized, String.toList_ofList]
  have whole : m.fullText.toList ++ s.drop size = s := by
    rw [covered, List.take_append_drop]
  refine ⟨s.drop size, whole.symm, ?_⟩
  rw [whole, covered, List.length_take_of_le within]
  exact recognized

/-- The first brackets that can close a mention end the text: the first closing bracket of a link,
and the first closing brace of an embed behind its first bar. -/
inductive ClosesAtEnd : List Char → Prop where
  | link {inside : List Char} (closeless : ']' ∉ inside) :
      ClosesAtEnd ('[' :: '[' :: (inside ++ [']', ']']))
  | embed {subject asked : List Char} (barless : '|' ∉ subject) (closeless : '}' ∉ asked) :
      ClosesAtEnd ('{' :: '{' :: (subject ++ '|' :: (asked ++ ['}', '}'])))

/-- **The closing brackets end the text exactly if nothing stands behind the mention.** -/
theorem closesAtEnd_append_iff {form : Form}
    (recognized : form.recognizer (covered ++ rest) = some (m, covered.length)) :
    ClosesAtEnd (covered ++ rest) ↔ rest = [] := by
  cases form with
  | link =>
      obtain ⟨content, rfl, closeless⟩ := covered_of_recognizeLink recognized
      simp only [List.cons_append, List.append_assoc, List.nil_append]
      constructor
      · intro closes
        generalize same : '[' :: '[' :: (content ++ ']' :: ']' :: rest) = text at closes
        cases closes with
        | link other =>
            have inner := (List.cons.inj (List.cons.inj same).2).2
            obtain rfl := eq_of_append_cons closeless other inner
            exact (List.cons.inj (List.cons.inj (List.append_cancel_left inner)).2).2
        | embed => exact absurd (List.cons.inj same).1 (by decide)
      · rintro rfl
        exact .link closeless
  | embed =>
      obtain ⟨subject, tail, rfl, queried, closeless⟩ := covered_of_recognizeEmbed recognized
      have barless : '|' ∉ subject := (not_mem_of_inQuery queried).2
      simp only [List.cons_append, List.append_assoc, List.nil_append]
      constructor
      · intro closes
        generalize same : '{' :: '{' :: (subject ++ '|' :: (tail ++ '}' :: '}' :: rest)) = text
          at closes
        cases closes with
        | link => exact absurd (List.cons.inj same).1 (by decide)
        | embed otherBar other =>
            have inner := (List.cons.inj (List.cons.inj same).2).2
            obtain rfl := eq_of_append_cons barless otherBar inner
            have asked := (List.cons.inj (List.append_cancel_left inner)).2
            obtain rfl := eq_of_append_cons closeless other asked
            exact (List.cons.inj (List.cons.inj (List.append_cancel_left asked)).2).2
      · rintro rfl
        exact .embed barless closeless

end Mention

/-! ## Valid values -/

namespace LinkField

open Mention

variable {ι : Type} [DecidableEq ι] {s : Site ι} {verify : Bool} {value other : String} {m : Mention}

/-- The validation sees nothing but the mention. -/
theorem validate_congr (parsed : Mention.parse? (trimmed value.toList) = some m)
    (same : Mention.parse? (trimmed other.toList) = some m) :
    validate s verify value = validate s verify other := by
  have filled {t : List Char} (read : Mention.parse? (String.ofList t) = some m) : t ≠ [] := by
    rintro rfl
    cases read
  rw [trimmed] at parsed same
  simp only [validate, List.isEmpty_iff, filled parsed, filled same, if_false, parsed, same]

/-- The value is blanks, the mention at its start, and a text behind the mention. -/
structure Holds (value : String) (m : Mention) (blanks behind : String) : Prop where
  whole : value = blanks ++ m.fullText ++ behind
  blank : ∀ c ∈ blanks.toList, isBlank c = true
  recognized : m.form.recognizer (m.fullText.toList ++ behind.toList) =
    some (m, m.fullText.toList.length)

/-- A valid value holds a mention, unless it is blank. -/
theorem exists_holds_of_valid (valid : validate s verify value = .ok ())
    (filled : trim value.toList ≠ []) : ∃ m blanks behind, Holds value m blanks behind := by
  cases read : Mention.parse? (String.ofList (trim value.toList)) with
  | none =>
      simp only [validate, read, List.isEmpty_iff, filled, if_false] at valid
      cases valid
  | some m =>
      obtain ⟨front, back, whole, blank, -⟩ := exists_padding value.toList
      obtain ⟨rest, covers, recognized⟩ := exists_rest_of_parse? read
      refine ⟨m, String.ofList front, String.ofList (rest ++ back), ?_, ?_, ?_⟩
      · apply String.toList_injective
        simp only [String.toList_append, String.toList_ofList]
        rw [whole, covers]
        simp
      · rwa [String.toList_ofList]
      · have again := m.form.local_recognizer (rest ++ back) recognized
        rw [List.take_left' rfl] at again
        rwa [String.toList_ofList]

namespace Holds

variable {blanks behind : String}

theorem toList_eq (holds : Holds value m blanks behind) :
    value.toList = blanks.toList ++ (m.fullText.toList ++ behind.toList) := by
  rw [holds.whole, String.toList_append, String.toList_append, List.append_assoc]

theorem trim_eq (holds : Holds value m blanks behind) :
    trim value.toList = m.fullText.toList ++ trimEnd behind.toList := by
  rw [holds.toList_eq, Form.trim_behind_blanks holds.blank holds.recognized]

theorem recognized_append (holds : Holds value m blanks behind) (tail : List Char) :
    m.form.recognizer (m.fullText.toList ++ tail) = some (m, m.fullText.toList.length) := by
  have again := m.form.local_recognizer tail holds.recognized
  rwa [List.take_left' rfl] at again

theorem parse?_trimmed (holds : Holds value m blanks behind) :
    Mention.parse? (trimmed value.toList) = some m := by
  rw [trimmed, holds.trim_eq]
  exact parse?_ofList_eq_some_iff_form.mpr ⟨_, holds.recognized_append _⟩

/-- The mention with another text behind it. -/
theorem append (holds : Holds value m blanks behind) (tail : String) :
    Holds (m.fullText ++ tail) m "" tail where
  whole := by rw [String.empty_append]
  blank := by simp
  recognized := holds.recognized_append tail.toList

/-- **What stands behind the mention does not matter.** -/
theorem validate_append (holds : Holds value m blanks behind) (tail : String) :
    validate s verify (m.fullText ++ tail) = validate s verify value :=
  validate_congr (holds.append tail).parse?_trimmed holds.parse?_trimmed

/-- The mention is all of the value, blanks aside, exactly if only blanks stand behind it. -/
theorem fullText_eq_iff (holds : Holds value m blanks behind) :
    m.fullText = trimmed value.toList ↔ ∀ c ∈ behind.toList, isBlank c = true := by
  have covers : m.fullText = trimmed value.toList ↔ trimEnd behind.toList = [] := by
    rw [trimmed, holds.trim_eq, ← String.toList_inj, String.toList_ofList]
    simp
  rw [covers]
  constructor
  · intro nothing
    obtain ⟨after, whole, blank⟩ := exists_trimEnd behind.toList
    rw [nothing, List.nil_append] at whole
    rwa [whole]
  · intro blank
    have nothing : trimEnd ([] ++ behind.toList) = trimEnd [] := trimEnd_append_blanks blank []
    exact nothing

/-- It is so exactly if the first brackets that can close it end the value. -/
theorem fullText_eq_iff_closesAtEnd (holds : Holds value m blanks behind) :
    m.fullText = trimmed value.toList ↔ ClosesAtEnd (trim value.toList) := by
  rw [trimmed, holds.trim_eq, closesAtEnd_append_iff (holds.recognized_append _),
    ← String.toList_inj, String.toList_ofList]
  simp

theorem replaceAll_eq (holds : Holds value m blanks behind)
    (write : Mention → Except Error String) :
    m.form.replaceAll value write = (do
      let written ← write m
      let rest ← m.form.replaceAll behind write
      return blanks ++ written ++ rest) := by
  have whole : value = String.ofList (blanks.toList ++ (m.fullText.toList ++ behind.toList)) := by
    rw [← holds.toList_eq, String.ofList_toList]
  have split := Form.replaceAll_behind_blanks holds.blank holds.recognized write
  simpa only [← whole, String.ofList_toList] using split

/-- Where the mention is all of the value, what is written for it is all that is written, between
the blanks. -/
theorem replaceAll_of_blank (holds : Holds value m blanks behind)
    (blank : ∀ c ∈ behind.toList, isBlank c = true) (write : Mention → Except Error String) :
    m.form.replaceAll value write = (write m).map (blanks ++ · ++ behind) := by
  have copied := @Form.replaceAll_of_blanks _ m.form blank write
  rw [String.ofList_toList] at copied
  rw [holds.replaceAll_eq, copied]
  cases write m <;> rfl

end Holds

/-- **How far the mention of a valid value reaches.**  A value that is accepted, with either setting,
is blanks, the mention that is read from it, and a text behind the mention.  The mention is all of
the value, blanks aside, exactly if its closing brackets end the value: if nothing but blanks
stands behind them.  Then what is written for it is all that is written.  Otherwise what stands
behind it is rendered as a text of its own, and every such text is accepted as well. -/
theorem validate_covers_iff (accepted : validate s verify value = .ok ())
    (filled : trim value.toList ≠ []) :
    ∃ m blanks behind, Mention.parse? (trimmed value.toList) = some m ∧
      value = blanks ++ m.fullText ++ behind ∧
      (∀ c ∈ blanks.toList, isBlank c = true) ∧
      (m.fullText = trimmed value.toList ↔ ClosesAtEnd (trim value.toList)) ∧
      (m.fullText = trimmed value.toList ↔ ∀ c ∈ behind.toList, isBlank c = true) ∧
      (∀ write, m.fullText = trimmed value.toList →
        m.form.replaceAll value write = (write m).map (blanks ++ · ++ behind)) ∧
      (∀ write, m.form.replaceAll value write = (do
        let written ← write m
        let rest ← m.form.replaceAll behind write
        return blanks ++ written ++ rest)) ∧
      ∀ tail, validate s verify (m.fullText ++ tail) = .ok () := by
  obtain ⟨m, blanks, behind, holds⟩ := exists_holds_of_valid accepted filled
  refine ⟨m, blanks, behind, holds.parse?_trimmed, holds.whole, holds.blank,
    holds.fullText_eq_iff_closesAtEnd, holds.fullText_eq_iff, ?_, holds.replaceAll_eq, ?_⟩
  · intro write covers
    exact holds.replaceAll_of_blank (holds.fullText_eq_iff.mp covers) write
  · intro tail
    rw [holds.validate_append, accepted]

/-- A link between blanks is all of the value; an embed with more behind it is not. -/
theorem validate_covers_iff_films :
    ClosesAtEnd (trim " [[ m->Mad Max | it ]] ".toList) ∧
    ¬ ClosesAtEnd (trim "{{ Mad Max | image }}, a film".toList) := by
  have link := @validate_covers_iff _ _ films false " [[ m->Mad Max | it ]] " rfl (by decide)
  have embed := @validate_covers_iff _ _ films false "{{ Mad Max | image }}, a film" rfl (by decide)
  obtain ⟨m, -, -, read, -, -, closes, -⟩ := link
  obtain ⟨n, -, -, shown, -, -, ends, -⟩ := embed
  cases read
  cases shown
  exact ⟨closes.mp rfl, fun closed => absurd (ends.mpr closed) (by decide)⟩

/-- A link with more behind it is accepted with both settings, and rendered with what stands behind
it. -/
theorem tail_behind_link_accepted :
    (∀ verify, validate Site.indexedFilms verify "[[ Mad Max ]] and more" = .ok ()) ∧
    (∃ m, Mention.parse? (trimmed "[[ Mad Max ]] and more".toList) = some m ∧
      m.fullText = "[[ Mad Max ]]" ∧ m.fullText ≠ trimmed "[[ Mad Max ]] and more".toList) ∧
    (LinkField.mk "[[ Mad Max ]] and more").label? = some "Mad Max" ∧
    (LinkField.mk "[[ Mad Max ]] and more").rendered Site.indexedFilms =
      .ok "<a href=\"\" title=\"Mad Max\">Mad Max</a> and more" := by
  have links : Site.indexedFilms.linked "[[ Mad Max ]] and more" =
      .ok "<a href=\"\" title=\"Mad Max\">Mad Max</a> and more" := by decide
  refine ⟨fun verify => ?_, ⟨_, rfl, rfl, by decide⟩, rfl, ?_⟩
  · cases verify <;> rfl
  · rw [rendered, Site.process_of_linked links]
    exact Form.replaceAll_of_unmentioned (by decide) _

end LinkField

end Wikilink
