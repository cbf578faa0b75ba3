/-
# Proofs.Mention.Search -- the mentions of a text and their places

The search for the mentions of one form is a walk over the text (`walks_mentions`).
A mention that is found covers a slice of the text, it is recognized there, and its
range counts the bytes before the slice and up to its end
(`recognized_of_mem_findAll`).  A text without mentions is left alone, whatever they
are replaced by, and no other text is (`replaceAll_eq_self_iff`).
-/
import Wikilink.Proofs.Mention.Forms

namespace Wikilink

set_option autoImplicit false

open Text

/-! ## Places -/

namespace Text

variable {α : Type}

theorem byteLength_append (s t : List Char) :
    byteLength (s ++ t) = byteLength s + byteLength t := by
  induction s with
  | nil => simp [byteLength]
  | cons c s ih =>
      rw [List.cons_append, byteLength, byteLength, ih]
      omega

/-- What is located are the forms, each behind the bytes of the pieces before it. -/
theorem mem_locate {offset : Nat} {pieces : List (Piece α)} {found : Located α} :
    found ∈ locate offset pieces ↔
      ∃ front covered back, pieces = front ++ .form covered found.value :: back ∧
        found.start = offset + byteLength (sources front) ∧
        found.stop = found.start + byteLength covered := by
  induction pieces generalizing offset with
  | nil => simp [locate]
  | cons p pieces ih =>
      -- What is located in the rest is located behind the first piece, as far on as that is long.
      have behind : ∀ size, size = byteLength p.source →
          (found ∈ locate (offset + size) pieces ↔
            ∃ front covered back, p :: pieces = (p :: front) ++ .form covered found.value :: back ∧
              found.start = offset + byteLength (sources (p :: front)) ∧
              found.stop = found.start + byteLength covered) := by
        rintro size rfl
        rw [ih]
        simp only [List.cons_append, List.cons.injEq, true_and, sources_cons, byteLength_append,
          Nat.add_assoc]
      cases p with
      | char c =>
          rw [locate, behind _ (by simp [Piece.source, byteLength])]
          constructor
          · rintro ⟨front, covered, back, split, places⟩
            exact ⟨.char c :: front, covered, back, split, places⟩
          · rintro ⟨front, covered, back, split, places⟩
            cases front with
            | nil => simp at split
            | cons q front =>
                obtain ⟨rfl, -⟩ := List.cons.inj split
                exact ⟨front, covered, back, split, places⟩
      | form covered value =>
          rw [locate, List.mem_cons, behind (byteLength covered) rfl]
          constructor
          · rintro (rfl | ⟨front, later, back, split, places⟩)
            · exact ⟨[], covered, pieces, rfl, rfl, rfl⟩
            · exact ⟨.form covered value :: front, later, back, split, places⟩
          · rintro ⟨front, later, back, split, start, stop⟩
            cases front with
            | nil =>
                simp only [List.nil_append, List.cons.injEq, Piece.form.injEq] at split
                obtain ⟨⟨rfl, same⟩, -⟩ := split
                left
                cases found
                simp_all [byteLength]
            | cons q front =>
                obtain ⟨rfl, -⟩ := List.cons.inj split
                exact Or.inr ⟨front, later, back, split, start, stop⟩

end Text

/-! ## Walks for mentions -/

namespace Mention.Form

theorem covering_recognizer (form : Form) : Recognizer.Covering form.recognizer := by
  cases form with
  | link => exact covering_recognizeLink
  | embed => exact covering_recognizeEmbed

theorem local_recognizer (form : Form) : Recognizer.Local form.recognizer := by
  cases form with
  | link => exact local_recognizeLink
  | embed => exact local_recognizeEmbed

theorem fullText_of_recognized {form : Form} {s : List Char} {m : Mention} {size : Nat}
    (recognized : form.recognizer s = some (m, size)) :
    m.fullText = String.ofList (s.take size) := by
  cases form with
  | link =>
      obtain ⟨-, -, -, -, -, -, -, -, rfl⟩ := recognizeLink_eq_some_iff.mp recognized
      rfl
  | embed =>
      obtain ⟨-, -, -, -, -, -, -, -, -, -, rfl⟩ := recognizeEmbed_eq_some_iff.mp recognized
      rfl

theorem walks_mentions (form : Form) (text : String) :
    Walks form.recognizer (some '\\') false text.toList (form.pieces text) :=
  walks_pieces (covering_recognizer form) text.toList

/-- **A mention is found where the walk has a form**: it is recognized by what follows the
characters before it, and no backslash stands right before it. -/
theorem recognized_of_mem_findAll {form : Form} {text : String} {found : Located Mention}
    (mem : found ∈ form.findAll text) :
    ∃ before covered after, text.toList = before ++ covered ++ after ∧
      found.start = byteLength before ∧ found.stop = byteLength (before ++ covered) ∧
      escapedAfter (some '\\') false before = false ∧
      form.recognizer (covered ++ after) = some (found.value, covered.length) := by
  obtain ⟨front, covered, back, split, start, stop⟩ := mem_locate.mp mem
  have walk := form.walks_mentions text
  rw [split] at walk
  obtain ⟨rest, whole, later⟩ := walk.split
  obtain ⟨unescaped, after, rfl, recognized⟩ := later.uncons_form
  rw [Nat.zero_add] at start
  refine ⟨sources front, covered, after, ?_, start, ?_, unescaped, recognized⟩
  · rw [whole, List.append_assoc]
  · rw [stop, start, byteLength_append]

theorem findAll_eq_nil_iff {form : Form} {text : String} :
    form.findAll text = [] ↔ Plain (form.pieces text) :=
  locate_eq_nil_iff

theorem replaceAll_of_unmentioned {form : Form} {text : String} (none : form.findAll text = [])
    (write : Mention → Except Error String) : form.replaceAll text write = .ok text := by
  have written := (walks_mentions form text).sources_eq
  rw [replaceAll, substitute_of_plain (findAll_eq_nil_iff.mp none), written, String.ofList_toList]

/-- **A text is left alone, whatever its mentions are replaced by, exactly where it has none.** -/
theorem replaceAll_eq_self_iff {form : Form} {text : String} :
    (∀ write : Mention → String, form.replaceAll text (fun m => .ok (write m)) = .ok text) ↔
      form.findAll text = [] := by
  constructor
  · intro same
    rw [findAll_eq_nil_iff]
    exact (plain_of_length_substitute form.covering_recognizer (form.walks_mentions text)
      (same fun _ => "")).2 rfl
  · intro none write
    exact replaceAll_of_unmentioned none _

end Mention.Form

end Wikilink
