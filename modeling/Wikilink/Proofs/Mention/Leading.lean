/-
# Proofs.Mention.Leading -- a link at the start of a text, blanks aside

Blanks begin no mention and escape none, so a mention right behind the blanks at the
start of a text is a piece of its own, and what follows it is a text of its own
(`Form.pieces_behind_blanks`).

A value that holds one link is read in three ways: from its first character that is
no blank, without the blanks at both ends, and in a search over all of it.  They come
to one link.  The search finds the link right behind the blanks, and first
(`Leading.head?_findAll`); a link ends in a bracket, so no blank at the end of the
value belongs to it (`Leading.parse?_trimmed`).
-/
import Wikilink.Proofs.Mention.Coverage
import Wikilink.Proofs.Text.Writing

namespace Wikilink.Mention

set_option autoImplicit false

open Text

variable {s blanks behind covered : List Char} {m : Mention}

theorem recognizeLink_of_ne {c : Char} (other : c ≠ '[') (s : List Char) :
    recognizeLink (c :: s) = none := by
  unfold recognizeLink
  split
  · rename_i whole
    exact absurd (List.cons.inj whole).1 other
  · rfl

theorem recognizeEmbed_of_ne {c : Char} (other : c ≠ '{') (s : List Char) :
    recognizeEmbed (c :: s) = none := by
  unfold recognizeEmbed
  split
  · rename_i whole
    exact absurd (List.cons.inj whole).1 other
  · rfl

/-! ## Mentions behind blanks -/

namespace Form

/-- The bracket that a mention begins with, twice. -/
def opening : Form → Char
  | link => '['
  | embed => '{'

/-- The bracket that a mention ends with, twice. -/
def closing : Form → Char
  | link => ']'
  | embed => '}'

variable {form : Form}

theorem recognizer_of_ne {c : Char} (other : c ≠ form.opening) (s : List Char) :
    form.recognizer (c :: s) = none := by
  cases form with
  | link => exact recognizeLink_of_ne other s
  | embed => exact recognizeEmbed_of_ne other s

/-- A mention starts and ends with a bracket. -/
theorem brackets_of_recognized
    (recognized : form.recognizer (covered ++ behind) = some (m, covered.length)) :
    ∃ inner, covered = form.opening :: inner ++ [form.closing] := by
  cases form with
  | link =>
      obtain ⟨content, rfl, -⟩ := covered_of_recognizeLink recognized
      exact ⟨'[' :: (content ++ [']']), by simp [opening, closing]⟩
  | embed =>
      obtain ⟨subject, tail, rfl, -⟩ := covered_of_recognizeEmbed recognized
      exact ⟨'{' :: (subject ++ '|' :: (tail ++ ['}'])), by simp [opening, closing]⟩

/-- Blanks begin no mention and escape none. -/
theorem idle_of_blank (form : Form) (blank : ∀ c ∈ blanks, isBlank c = true) :
    Idle form.recognizer (some '\\') blanks := by
  intro c mem
  have solid {d : Char} (not : isBlank d = false) : c ≠ d := by
    rintro rfl
    rw [blank c mem] at not
    cases not
  constructor
  · exact beq_eq_false_iff_ne.mpr fun same =>
      solid (by decide) (Option.some.inj same).symm
  · exact recognizer_of_ne (solid (by cases form <;> decide))

/-- Behind blanks stand the mention and the pieces of the rest. -/
theorem pieces_behind_blanks (blank : ∀ c ∈ blanks, isBlank c = true)
    (recognized : form.recognizer (covered ++ behind) = some (m, covered.length)) :
    form.pieces (String.ofList (blanks ++ (covered ++ behind))) =
      blanks.map .char ++ .form covered m :: form.pieces (String.ofList behind) := by
  obtain ⟨inner, brackets⟩ := brackets_of_recognized recognized
  have nonempty : covered ≠ [] := by
    rw [brackets]
    simp
  have unescaping : escapedAfter (some '\\') false covered = false := by
    rw [brackets, escapedAfter_concat]
    cases form <;> decide
  simp only [pieces, String.toList_ofList]
  rw [pieces_append_of_idle (form.idle_of_blank blank),
    pieces_append_of_recognized nonempty recognized unescaping]

/-- Blanks alone are copied. -/
theorem replaceAll_of_blanks (blank : ∀ c ∈ blanks, isBlank c = true)
    (write : Mention → Except Error String) :
    form.replaceAll (String.ofList blanks) write = .ok (String.ofList blanks) := by
  have copied : form.pieces (String.ofList blanks) = blanks.map .char ++ [] := by
    have walked := @pieces_append_of_idle _ _ _ _ (form.idle_of_blank blank) []
    rw [List.append_nil] at walked
    rw [pieces, String.toList_ofList, walked]
    rfl
  rw [replaceAll, copied, substitute_chars_append, substitute]
  exact congrArg Except.ok (String.append_empty)

/-- The mention is written behind the blanks, and what stands behind it is a text of its own. -/
theorem replaceAll_behind_blanks (blank : ∀ c ∈ blanks, isBlank c = true)
    (recognized : form.recognizer (covered ++ behind) = some (m, covered.length))
    (write : Mention → Except Error String) :
    form.replaceAll (String.ofList (blanks ++ (covered ++ behind))) write = (do
      let written ← write m
      let rest ← form.replaceAll (String.ofList behind) write
      return String.ofList blanks ++ written ++ rest) := by
  rw [replaceAll, pieces_behind_blanks blank recognized, substitute_chars_append, substitute,
    replaceAll]
  cases write m with
  | error e => rfl
  | ok written =>
      cases substitute write (form.pieces (String.ofList behind)) with
      | error e => rfl
      | ok rest => exact congrArg Except.ok (String.append_assoc ..).symm

/-- Trimming goes no further than to the brackets. -/
theorem trim_behind_blanks (blank : ∀ c ∈ blanks, isBlank c = true)
    (recognized : form.recognizer (covered ++ behind) = some (m, covered.length)) :
    trim (blanks ++ (covered ++ behind)) = covered ++ trimEnd behind := by
  obtain ⟨inner, brackets⟩ := brackets_of_recognized recognized
  have opens : isBlank form.opening = false := by cases form <;> decide
  have closes : isBlank form.closing = false := by cases form <;> decide
  have start : trimStart (form.opening :: inner) = form.opening :: inner :=
    List.dropWhile_cons_of_neg (by simp [opens])
  rw [trim_blanks_append blank, brackets, List.append_assoc, List.singleton_append,
    trim_append closes, start, List.append_assoc, List.singleton_append]

end Form

/-! ## Links behind blanks -/

/-- The text begins with blanks and the link, and goes on with `behind`. -/
structure Leading (s : List Char) (m : Mention) (blanks behind : List Char) : Prop where
  whole : s = blanks ++ (m.fullText.toList ++ behind)
  blank : ∀ c ∈ blanks, isBlank c = true
  recognized : recognizeLink (m.fullText.toList ++ behind) = some (m, m.fullText.toList.length)

/-- A link that is read behind the blanks of a text is a link, and leads the text. -/
theorem exists_leading (parsed : Form.link.parse? (String.ofList (trimStart s)) = some m) :
    ∃ blanks behind, Leading s m blanks behind := by
  obtain ⟨blanks, whole, blank⟩ := exists_trimStart s
  rw [Form.parse?_ofList] at parsed
  obtain ⟨answer, recognized, rfl⟩ := Option.map_eq_some_iff.mp parsed
  obtain ⟨m, size⟩ := answer
  have within := (covering_recognizeLink recognized).2
  have covered : m.fullText.toList = (trimStart s).take size := by
    have text : m.fullText = String.ofList ((trimStart s).take size) :=
      @Form.fullText_of_recognized .link _ _ _ recognized
    rw [text, String.toList_ofList]
  have length : m.fullText.toList.length = size := by
    rw [covered, List.length_take, Nat.min_eq_left within]
  have rest : m.fullText.toList ++ (trimStart s).drop size = trimStart s := by
    rw [covered, List.take_append_drop]
  refine ⟨blanks, (trimStart s).drop size, ?_, blank, ?_⟩
  · rw [rest, ← whole]
  · rw [rest, length]
    exact recognized

namespace Leading

theorem request_eq (leading : Leading s m blanks behind) : ∃ label, m.request = .link label := by
  obtain ⟨_, _, _, label, _, _, _, _, made⟩ := recognizeLink_eq_some_iff.mp leading.recognized
  exact ⟨label.map trimmed, congrArg request made⟩

theorem link (leading : Leading s m blanks behind) :
    Form.link.recognizer (m.fullText.toList ++ behind) = some (m, m.fullText.toList.length) :=
  leading.recognized

/-- The link starts and ends with a bracket. -/
theorem brackets (leading : Leading s m blanks behind) :
    ∃ inner, m.fullText.toList = '[' :: inner ++ [']'] :=
  Form.brackets_of_recognized leading.link

/-! ## Found in a search -/

theorem pieces_eq (leading : Leading s m blanks behind) :
    Form.link.pieces (String.ofList s) =
      blanks.map .char ++ .form m.fullText.toList m :: Form.link.pieces (String.ofList behind) := by
  rw [leading.whole, Form.pieces_behind_blanks leading.blank leading.link]

/-- **The search finds the link first**, right behind the blanks. -/
theorem head?_findAll (leading : Leading s m blanks behind) :
    (Form.link.findAll (String.ofList s)).head? =
      some ⟨byteLength blanks, byteLength (blanks ++ m.fullText.toList), m⟩ := by
  rw [Form.findAll, leading.pieces_eq, locate_chars_append, Nat.zero_add, locate,
    byteLength_append]
  rfl

/-- The link is written first, behind the blanks, and what stands behind it is a text of its
own. -/
theorem replaceAll_eq (leading : Leading s m blanks behind)
    (write : Mention → Except Error String) :
    Form.link.replaceAll (String.ofList s) write = (do
      let written ← write m
      let rest ← Form.link.replaceAll (String.ofList behind) write
      return String.ofList blanks ++ written ++ rest) := by
  rw [leading.whole, Form.replaceAll_behind_blanks leading.blank leading.link]

/-! ## Read at the start -/

/-- What is left of the text without the blanks at both ends. -/
theorem trim_eq (leading : Leading s m blanks behind) :
    trim s = m.fullText.toList ++ trimEnd behind := by
  rw [leading.whole, Form.trim_behind_blanks leading.blank leading.link]

/-- **The link is read as well where the text is trimmed at both ends.** -/
theorem parse?_trimmed (leading : Leading s m blanks behind) :
    Form.link.parse? (trimmed s) = some m := by
  have read := local_recognizeLink (trimEnd behind) leading.recognized
  rw [List.take_left' rfl] at read
  rw [trimmed, Form.parse?_ofList, leading.trim_eq]
  exact congrArg (Option.map Prod.fst) read

theorem trim_ne_nil (leading : Leading s m blanks behind) : trim s ≠ [] := by
  obtain ⟨inner, brackets⟩ := leading.brackets
  rw [leading.trim_eq, brackets]
  simp

end Leading

end Wikilink.Mention
