/-
# Proofs.Template -- what a template is filled in to

A template is filled in segment by segment (`renderWith_at`).  Filling it in reads its
source from the left: a variable gives its value (`filled_variable`), and every other
character stays (`filled_char`).  Merging neighbouring characters into literals makes
no difference (`renderWith_ofSource`).
-/
import Wikilink.Proofs.Text.Split
import Wikilink.Proofs.Text.Trim
import Wikilink.Proofs.Text.Writing
import Wikilink.Template.Render

namespace Wikilink

set_option autoImplicit false

/-! ## Paths of words -/

/-- Words joined by single dots. -/
def IsWordPath (path : String) : Prop :=
  ∀ part ∈ Text.split '.' path.toList, Text.isWordRun part = true

instance (path : String) : Decidable (IsWordPath path) :=
  inferInstanceAs (Decidable (∀ _ ∈ _, _))

theorem IsWordPath.char {path : String} (words : IsWordPath path) {c : Char}
    (mem : c ∈ path.toList) : c = '.' ∨ Text.isWord c = true := by
  rw [← Text.join_split '.' path.toList] at mem
  rcases Text.mem_join mem with same | ⟨part, inside, mem⟩
  · exact Or.inl same
  · exact Or.inr (Text.isWord_of_mem (words part inside) mem)

theorem IsWordPath.not_isBlank {path : String} (words : IsWordPath path) {c : Char}
    (mem : c ∈ path.toList) : Text.isBlank c = false := by
  rcases words.char mem with rfl | word
  · decide
  · exact Text.not_isBlank_of_isWord word

theorem IsWordPath.trimEnd {path : String} (words : IsWordPath path) :
    Text.trimEnd path.toList = path.toList :=
  Text.trimEnd_of_blankless fun _ => words.not_isBlank

theorem IsWordPath.trim {path : String} (words : IsWordPath path) :
    Text.trim path.toList = path.toList :=
  Text.trim_of_blankless fun _ => words.not_isBlank

/-- The segments of the path are its words. -/
theorem IsWordPath.isWordRun_of_mem {path : String} (words : IsWordPath path) {word : String}
    (mem : word ∈ pathSegments path) : Text.isWordRun word.toList = true := by
  obtain ⟨part, inside, rfl⟩ := List.mem_map.mp mem
  rw [String.toList_ofList]
  exact words part inside

theorem IsWordPath.toList_ne_nil {path : String} (words : IsWordPath path) : path.toList ≠ [] := by
  intro none
  have empty : Text.isWordRun [] = true := words [] (by rw [none]; simp [Text.split])
  cases empty

namespace Template

open Text

/-! ## Variables -/

/-- **A variable is two braces on each side of a path.** -/
theorem recognizeVariable_eq_some_iff {s : List Char} {path : List String} {size : Nat} :
    recognizeVariable s = some (path, size) ↔
      ∃ inner rest, s = '{' :: '{' :: (inner ++ '}' :: '}' :: rest) ∧ '}' ∉ inner ∧
        variablePath? inner = some path ∧ size = inner.length + 4 := by
  constructor
  · intro recognized
    unfold recognizeVariable at recognized
    split at recognized
    · rename_i rest
      have whole := List.takeWhile_append_dropWhile (p := fun c => decide (c ≠ '}')) (l := rest)
      simp only at recognized
      split at recognized
      · rename_i after closed
        obtain ⟨found, named, same⟩ := Option.map_eq_some_iff.mp recognized
        cases same
        exact ⟨_, after, by rw [← closed, whole], not_mem_takeWhile_ne rest '}', named, rfl⟩
      · cases recognized
    · cases recognized
  · rintro ⟨inner, rest, rfl, braceless, named, rfl⟩
    have inside := forall_ne_of_not_mem braceless
    have brace : decide ('}' ≠ '}') = false := by decide
    simp only [recognizeVariable, takeWhile_run inside brace, dropWhile_run inside brace, named]
    rfl

theorem covering_recognizeVariable : Recognizer.Covering recognizeVariable := by
  intro s path size recognized
  obtain ⟨inner, rest, rfl, -, -, rfl⟩ := recognizeVariable_eq_some_iff.mp recognized
  simp only [List.length_cons, List.length_append]
  omega

/-- A variable starts with a brace. -/
theorem recognizeVariable_of_ne {c : Char} (other : c ≠ '{') (s : List Char) :
    recognizeVariable (c :: s) = none := by
  cases found : recognizeVariable (c :: s) with
  | none => rfl
  | some answer =>
      obtain ⟨inner, rest, whole, -⟩ := recognizeVariable_eq_some_iff.mp found
      exact absurd (List.cons.inj whole).1 other

/-! ## Segments -/

/-- Segments filled in one after the other. -/
def renderSegments (write : String → String) (c : Context) (segments : List Segment) : String :=
  String.join (segments.map (Segment.render write c))

/-- The value of a variable; nothing if it has none. -/
def value (c : Context) (path : List String) : String :=
  (c.resolve? path).getD ""

section Segments

variable {write : String → String} {c : Context}

theorem renderSegments_cons (segment : Segment) (segments : List Segment) :
    renderSegments write c (segment :: segments) =
      segment.render write c ++ renderSegments write c segments := by
  rw [renderSegments, List.map_cons, String.join_cons]
  rfl

theorem renderSegments_append (front back : List Segment) :
    renderSegments write c (front ++ back) =
      renderSegments write c front ++ renderSegments write c back := by
  induction front with
  | nil => exact String.empty_append.symm
  | cons segment front ih =>
      rw [List.cons_append, renderSegments_cons, ih, renderSegments_cons, String.append_assoc]

/-- What a segment is filled in to stands between what the others are filled in to. -/
theorem renderWith_at {t : Template} {front back : List Segment} {segment : Segment}
    (split : t.segments = front ++ segment :: back) :
    t.renderWith write c =
      renderSegments write c front ++ segment.render write c ++ renderSegments write c back := by
  show renderSegments write c t.segments = _
  rw [split, renderSegments_append, renderSegments_cons, String.append_assoc]

theorem renderWith_literal {t : Template} {front back : List Segment} {text : String}
    (split : t.segments = front ++ .literal text :: back) :
    t.renderWith write c =
      renderSegments write c front ++ text ++ renderSegments write c back := by
  rw [renderWith_at split, Segment.render]

theorem renderWith_variable {t : Template} {front back : List Segment} {path : List String}
    (split : t.segments = front ++ .variable path :: back) :
    t.renderWith write c =
      renderSegments write c front ++ write (value c path) ++ renderSegments write c back := by
  rw [renderWith_at split, Segment.render, value]

end Segments

/-! ## Sources -/

variable (write : String → String) (c : Context)

/-- A piece filled in. -/
def fillPiece : Piece (List String) → List Char
  | .char d => [d]
  | .form _ path => (write ((c.resolve? path).getD "")).toList

/-- A source text filled in. -/
def filled (s : List Char) : List Char :=
  (pieces recognizeVariable none s).flatMap (fillPiece write c)

theorem toList_render_segmentsOf (ps : List (Piece (List String))) :
    (String.join ((segmentsOf ps).map (Segment.render write c))).toList =
      ps.flatMap (fillPiece write c) := by
  induction ps with
  | nil => rfl
  | cons p ps ih =>
      rw [List.flatMap_cons, ← ih]
      cases p with
      | form covered path =>
          rw [segmentsOf, List.map_cons, String.join_cons, String.toList_append]
          rfl
      | char d =>
          rw [segmentsOf]
          split
          · rename_i text others same
            rw [same]
            simp [Segment.render, fillPiece]
          · simp [Segment.render, fillPiece]

theorem renderWith_ofSource (source : String) :
    (renderWith write (ofSource source) c).toList = filled write c source.toList :=
  toList_render_segmentsOf write c _

variable {write c}

theorem filled_nil : filled write c [] = [] := rfl

theorem filled_char {d : Char} {s : List Char} (literal : recognizeVariable (d :: s) = none) :
    filled write c (d :: s) = d :: filled write c s := by
  rw [filled, pieces_cons_of_none literal]
  rfl

/-- Characters other than an opening brace stay. -/
theorem filled_literal {literal : List Char} (braceless : '{' ∉ literal) (s : List Char) :
    filled write c (literal ++ s) = literal ++ filled write c s := by
  induction literal with
  | nil => rfl
  | cons d literal ih =>
      rw [List.mem_cons, not_or] at braceless
      rw [List.cons_append, filled_char (recognizeVariable_of_ne (Ne.symm braceless.1) _),
        ih braceless.2]
      rfl

/-- A variable gives its value. -/
theorem filled_variable {covered s : List Char} {path : List String}
    (recognized : recognizeVariable (covered ++ s) = some (path, covered.length)) :
    filled write c (covered ++ s) =
      (write ((c.resolve? path).getD "")).toList ++ filled write c s := by
  have nonempty : covered ≠ [] :=
    List.ne_nil_of_length_pos (covering_recognizeVariable recognized).1
  rw [filled, pieces_append_of_recognized nonempty recognized (escapedAfter_none covered)]
  rfl

theorem filled_of_recognized {s : List Char} {path : List String} {size : Nat}
    (recognized : recognizeVariable s = some (path, size)) :
    filled write c s = (write ((c.resolve? path).getD "")).toList ++ filled write c (s.drop size) := by
  have covered := (covering_recognizeVariable recognized).2
  have whole : s.take size ++ s.drop size = s := List.take_append_drop size s
  have taken : (s.take size).length = size := by
    rw [List.length_take]
    omega
  have again : recognizeVariable (s.take size ++ s.drop size) =
      some (path, (s.take size).length) := by
    rw [whole, taken]
    exact recognized
  have filling := @filled_variable write c _ _ _ again
  rwa [whole] at filling

end Template

end Wikilink
