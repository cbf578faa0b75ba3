/-
# Proofs.Template.Parts -- a source and its segments

A variable is written as a path of words between double braces, with blanks around it
(`variableText`), and a source is read as one exactly if it is written so
(`recognizeVariable_iff`).  There is no opening brace in a variable behind its first
two, so no variable begins inside another (`recognizeVariable_inside`).  Hence a
variable divides a source: the segments are those of what stands before it, the
variable, and those of what stands behind it (`segments_around`).  What is left between
variables holds none and makes one literal, if it makes any (`literalOf`), so a source
is taken apart into such literals and variables in turn (`Splits`).
-/
import Mathlib.Data.List.Chain
import Mathlib.Data.List.Forall2
import Wikilink.Proofs.Mention.Layout
import Wikilink.Proofs.Template

namespace Wikilink.Template

set_option autoImplicit false

open Mention (Padded)
open Text

/-! ## Variables as they are written -/

/-- A path in double braces. -/
def variableText (p : Padded IsWordPath) : List Char :=
  '{' :: '{' :: (p.print ++ ['}', '}'])

theorem braceless_print (p : Padded IsWordPath) : '{' ∉ p.print ∧ '}' ∉ p.print := by
  constructor
  all_goals
    intro mem
    rcases Padded.mem_print mem with blank | inside
    · exact absurd blank (by decide)
    · rcases p.fits.char inside with dot | word
      · exact absurd dot (by decide)
      · exact absurd word (by decide)

theorem print_ne_nil (p : Padded IsWordPath) : p.print ≠ [] := by
  have path := p.fits.toList_ne_nil
  simp [Padded.print, path]

theorem variablePath?_print (p : Padded IsWordPath) :
    variablePath? p.print = some (pathSegments p.text) := by
  have path : trim p.print = p.text.toList := by rw [p.trim_print, p.fits.trim]
  rw [variablePath?, path]
  exact if_pos (List.all_eq_true.mpr p.fits)

/-- The path of a variable is words joined by dots, between blanks. -/
theorem variablePath?_eq_some_iff {inner : List Char} {path : List String} :
    variablePath? inner = some path ↔
      ∃ p : Padded IsWordPath, p.print = inner ∧ pathSegments p.text = path := by
  constructor
  · intro read
    rw [variablePath?] at read
    split at read
    · rename_i words
      obtain ⟨before, after, whole, front, back⟩ := exists_padding inner
      have fits : IsWordPath (String.ofList (trim inner)) := by
        rw [IsWordPath, String.toList_ofList]
        exact List.all_eq_true.mp words
      refine ⟨⟨before, String.ofList (trim inner), after, front, fits, back⟩, ?_, ?_⟩
      · rw [Padded.print, String.toList_ofList]
        exact whole.symm
      · rw [pathSegments, String.toList_ofList]
        exact Option.some.inj read
    · cases read
  · rintro ⟨p, rfl, rfl⟩
    exact variablePath?_print p

/-- **A variable is recognized exactly where one is written.** -/
theorem recognizeVariable_iff {s : List Char} {path : List String} {size : Nat} :
    recognizeVariable s = some (path, size) ↔
      ∃ (p : Padded IsWordPath) (rest : List Char), s = variableText p ++ rest ∧
        pathSegments p.text = path ∧ size = (variableText p).length := by
  rw [recognizeVariable_eq_some_iff]
  constructor
  · rintro ⟨inner, rest, rfl, -, read, rfl⟩
    obtain ⟨p, rfl, rfl⟩ := variablePath?_eq_some_iff.mp read
    exact ⟨p, rest, by simp [variableText], rfl, by simp [variableText]⟩
  · rintro ⟨p, rest, rfl, rfl, rfl⟩
    exact ⟨p.print, rest, by simp [variableText], (braceless_print p).2, variablePath?_print p,
      by simp [variableText]⟩

theorem recognizeVariable_variableText (p : Padded IsWordPath) (rest : List Char) :
    recognizeVariable (variableText p ++ rest) =
      some (pathSegments p.text, (variableText p).length) :=
  recognizeVariable_iff.mpr ⟨p, rest, rfl, rfl, rfl⟩

theorem local_recognizeVariable : Recognizer.Local recognizeVariable := by
  intro s path size rest recognized
  obtain ⟨p, behind, rfl, rfl, rfl⟩ := recognizeVariable_iff.mp recognized
  rw [List.take_left' rfl]
  exact recognizeVariable_variableText p rest

/-- **No variable begins inside another.** -/
theorem recognizeVariable_inside {p : Padded IsWordPath} {x y : List Char}
    (whole : variableText p = x ++ y) (begun : x ≠ []) (left : y ≠ []) (rest : List Char) :
    recognizeVariable (y ++ rest) = none := by
  have inner : '{' ∉ p.print ++ ['}', '}'] := by simp [(braceless_print p).1]
  cases recognized : recognizeVariable (y ++ rest) with
  | none => rfl
  | some answer =>
      obtain ⟨path, size⟩ := answer
      obtain ⟨q, behind, opened, -⟩ := recognizeVariable_iff.mp recognized
      rw [variableText] at whole opened
      -- The rest of the variable would start with two braces, and one of them would be inside.
      obtain ⟨b, x, rfl⟩ := List.exists_cons_of_ne_nil begun
      obtain ⟨c, y, rfl⟩ := List.exists_cons_of_ne_nil left
      obtain rfl : c = '{' := (List.cons.inj opened).1
      have later := (List.cons.inj whole).2
      cases x with
      | cons d x =>
          have mem : '{' ∈ p.print ++ ['}', '}'] := by
            rw [(List.cons.inj later).2]
            simp
          exact absurd mem inner
      | nil =>
          have tail : p.print ++ ['}', '}'] = y := (List.cons.inj later).2
          obtain ⟨d, ds, print⟩ := List.exists_cons_of_ne_nil (print_ne_nil p)
          have mem : '{' ∈ p.print ++ ['}', '}'] := by
            have second := (List.cons.inj opened).2
            rw [← tail, print] at second
            obtain rfl : d = '{' := (List.cons.inj second).1
            simp [print]
          exact absurd mem inner

/-! ## Segments around a variable -/

theorem segmentsOf_append_form (ps qs : List (Piece (List String))) (covered : List Char)
    (path : List String) :
    segmentsOf (ps ++ .form covered path :: qs) =
      segmentsOf ps ++ .variable path :: segmentsOf qs := by
  induction ps with
  | nil => rfl
  | cons p ps ih =>
      rcases p with d | ⟨earlier, other⟩
      · rw [List.cons_append, segmentsOf, ih, segmentsOf]
        rcases segmentsOf ps with - | ⟨- | -, more⟩ <;> rfl
      · rw [List.cons_append, segmentsOf, ih]
        rfl

/-- The variable is a piece of its own. -/
theorem pieces_around (front : List Char) (p : Padded IsWordPath) (back : List Char) :
    pieces recognizeVariable none (front ++ (variableText p ++ back)) =
      pieces recognizeVariable none front ++
        .form (variableText p) (pathSegments p.text) :: pieces recognizeVariable none back := by
  have opened : variableText p ≠ [] := List.cons_ne_nil _ _
  have here := recognizeVariable_variableText p back
  rw [pieces_append_of_apart local_recognizeVariable covering_recognizeVariable,
    pieces_append_of_recognized opened here (escapedAfter_none _)]
  -- A variable that reached into this one would have it begin inside.
  intro x y split left path size recognized
  obtain ⟨q, behind, whole, -, rfl⟩ := recognizeVariable_iff.mp recognized
  rcases behind_or_inside whole with ⟨more, reaches, rest⟩ | ⟨c, more, within⟩
  · by_cases ends : more = []
    · rw [reaches, ends, List.append_nil]
    · have nothing := recognizeVariable_inside reaches left ends behind
      rw [← rest, here] at nothing
      cases nothing
  · rw [within, List.length_append]
    omega

/-- **A variable divides a source.** -/
theorem segments_around {source : String} {front back : List Char} {p : Padded IsWordPath}
    (whole : source.toList = front ++ (variableText p ++ back)) :
    (ofSource source).segments = (ofSource (String.ofList front)).segments ++
      .variable (pathSegments p.text) :: (ofSource (String.ofList back)).segments := by
  simp only [ofSource, whole, String.toList_ofList, pieces_around, segmentsOf_append_form]

/-! ## Sources without variables -/

/-- No variable is written in the text. -/
def Formless (s : List Char) : Prop :=
  ∀ front (p : Padded IsWordPath) back, s ≠ front ++ (variableText p ++ back)

/-- The literal of a text, unless it is empty. -/
def literalOf (s : List Char) : List Segment :=
  if s = [] then [] else [.literal (String.ofList s)]

theorem segmentsOf_chars (s : List Char) : segmentsOf (s.map .char) = literalOf s := by
  induction s with
  | nil => rfl
  | cons c s ih =>
      rw [List.map_cons, segmentsOf, ih, literalOf, literalOf, if_neg (List.cons_ne_nil c s)]
      by_cases last : s = []
      · rw [if_pos last, last]
        rfl
      · rw [if_neg last, String.ofList_cons]

theorem Formless.tail {c : Char} {s : List Char} (formless : Formless (c :: s)) : Formless s :=
  fun front p back whole => formless (c :: front) p back (by rw [whole]; rfl)

theorem pieces_of_formless {s : List Char} (formless : Formless s) :
    pieces recognizeVariable none s = s.map .char := by
  induction s with
  | nil => rfl
  | cons c s ih =>
      have none : recognizeVariable (c :: s) = none := by
        cases recognized : recognizeVariable (c :: s) with
        | none => rfl
        | some answer =>
            obtain ⟨p, rest, whole, -⟩ := recognizeVariable_iff.mp recognized
            exact absurd whole (formless [] p rest)
      rw [pieces_cons_of_none none, ih formless.tail, List.map_cons]

theorem segments_of_formless {source : String} (formless : Formless source.toList) :
    (ofSource source).segments = literalOf source.toList := by
  rw [ofSource, pieces_of_formless formless, segmentsOf_chars]

/-- A text has no variable, or a first one. -/
theorem formless_or_first (s : List Char) :
    Formless s ∨ ∃ front, Formless front ∧
      ∃ (p : Padded IsWordPath) (back : List Char), s = front ++ (variableText p ++ back) := by
  by_cases formless : Formless s
  · exact Or.inl formless
  · right
    simp only [Formless, not_forall, not_not] at formless
    obtain ⟨front, p, back, whole⟩ := formless
    induction length : front.length using Nat.strongRecOn generalizing front p back with
    | _ n ih =>
      by_cases first : Formless front
      · exact ⟨front, first, p, back, whole⟩
      -- There is an earlier one.
      · simp only [Formless, not_forall, not_not] at first
        obtain ⟨earlier, q, between, rfl⟩ := first
        refine ih earlier.length ?_ earlier q (between ++ (variableText p ++ back)) ?_ rfl
        · rw [← length, List.length_append, List.length_append, variableText, List.length_cons]
          omega
        · rw [whole, List.append_assoc, List.append_assoc]

/-! ## Taking a source apart -/

/-- The segments take a text apart: literals without variables, and a variable between any two of
them. -/
inductive Splits : List Char → List Segment → Prop where
  | last {s : List Char} (formless : Formless s) : Splits s (literalOf s)
  | variable {front back : List Char} {segments : List Segment} (formless : Formless front)
      (p : Padded IsWordPath) (rest : Splits back segments) :
      Splits (front ++ (variableText p ++ back))
        (literalOf front ++ .variable (pathSegments p.text) :: segments)

/-- **The segments of a template take its source apart.** -/
theorem splits_ofSource (source : String) : Splits source.toList (ofSource source).segments := by
  induction length : source.toList.length using Nat.strongRecOn generalizing source with
  | _ n ih =>
    rcases formless_or_first source.toList with formless | ⟨front, formless, p, back, whole⟩
    · rw [segments_of_formless formless]
      exact .last formless
    · have plain : Formless (String.ofList front).toList := by
        rwa [String.toList_ofList]
      rw [segments_around whole, segments_of_formless plain, String.toList_ofList, whole]
      have shorter : (String.ofList back).toList.length < n := by
        rw [← length, whole, String.toList_ofList, List.length_append, List.length_append,
          variableText, List.length_cons]
        omega
      have rest := ih _ shorter (String.ofList back) rfl
      rw [String.toList_ofList] at rest
      exact .variable formless p rest

/-- What a segment may stand for in a source: a literal for itself, a variable for any way to write
its path. -/
def Segment.WrittenAs : Segment → List Char → Prop
  | .literal text, slice => slice = text.toList
  | .variable path, slice =>
      ∃ p : Padded IsWordPath, slice = variableText p ∧ path = pathSegments p.text

/-- A literal has characters and no variable in them; a variable is one or more words. -/
def Segment.WellFormed : Segment → Prop
  | .literal text => text ≠ "" ∧ Formless text.toList
  | .variable path => path ≠ [] ∧ ∀ word ∈ path, isWordRun word.toList = true

def Segment.IsLiteral : Segment → Prop
  | .literal _ => True
  | .variable _ => False

section Splits

variable {s : List Char} {segments : List Segment}

theorem writtenAs_literalOf (s : List Char) :
    ∃ slices, List.Forall₂ Segment.WrittenAs (literalOf s) slices ∧ slices.flatten = s := by
  unfold literalOf
  split
  · rename_i empty
    exact ⟨[], .nil, empty.symm⟩
  · exact ⟨[s], .cons (String.toList_ofList).symm .nil, by simp⟩

theorem Splits.writtenAs (splits : Splits s segments) :
    ∃ slices, List.Forall₂ Segment.WrittenAs segments slices ∧ slices.flatten = s := by
  induction splits with
  | last formless => exact writtenAs_literalOf _
  | @«variable» front back segments formless p rest ih =>
      obtain ⟨before, first, rfl⟩ := writtenAs_literalOf front
      obtain ⟨after, later, rfl⟩ := ih
      refine ⟨before ++ variableText p :: after, ?_, by simp⟩
      exact List.rel_append first (.cons ⟨p, rfl, rfl⟩ later)

theorem Splits.wellFormed (splits : Splits s segments) :
    ∀ segment ∈ segments, segment.WellFormed := by
  have literal : ∀ {s : List Char}, Formless s → ∀ segment ∈ literalOf s, segment.WellFormed := by
    intro s formless segment mem
    unfold literalOf at mem
    split at mem
    · cases mem
    · rename_i filled
      obtain rfl := List.mem_singleton.mp mem
      exact ⟨by simpa using filled, by rwa [String.toList_ofList]⟩
  induction splits with
  | last formless => exact literal formless
  | @«variable» front back segments formless p rest ih =>
      intro segment mem
      rcases List.mem_append.mp mem with mem | mem
      · exact literal formless segment mem
      · rcases List.mem_cons.mp mem with rfl | mem
        · exact ⟨pathSegments_ne_nil p.text, fun word mem => p.fits.isWordRun_of_mem mem⟩
        · exact ih segment mem

/-- No literal follows another. -/
theorem Splits.isChain (splits : Splits s segments) :
    segments.IsChain fun a b => ¬ (a.IsLiteral ∧ b.IsLiteral) := by
  induction splits with
  | last formless =>
      unfold literalOf
      split
      · exact .nil
      · exact .singleton _
  | @«variable» front back segments formless p rest ih =>
      have begun : (Segment.variable (pathSegments p.text) :: segments).IsChain
          fun a b => ¬ (a.IsLiteral ∧ b.IsLiteral) :=
        List.isChain_cons.mpr ⟨fun _ _ both => both.1, ih⟩
      unfold literalOf
      split
      · exact begun
      · exact List.isChain_cons_cons.mpr ⟨fun both => both.2, begun⟩

end Splits

/-! ## Sources and what they are filled in to -/

/-- A variable is filled in where it stands. -/
theorem renderWith_around {source : String} {front back : List Char} {p : Padded IsWordPath}
    (whole : source.toList = front ++ (variableText p ++ back)) (write : String → String)
    (c : Context) :
    (ofSource source).renderWith write c =
      (ofSource (String.ofList front)).renderWith write c ++ write (value c (pathSegments p.text)) ++
        (ofSource (String.ofList back)).renderWith write c :=
  renderWith_variable (segments_around whole)

theorem renderWith_of_formless {source : String} (formless : Formless source.toList)
    (write : String → String) (c : Context) : (ofSource source).renderWith write c = source := by
  show renderSegments write c (ofSource source).segments = source
  rw [segments_of_formless formless, literalOf]
  split
  · rename_i empty
    exact (String.toList_eq_nil_iff.mp empty).symm
  · rw [String.ofList_toList, renderSegments_cons, Segment.render]
    exact String.append_empty

/-- **A template takes its source apart exactly.**  Its segments, each written as it may stand in a
source, are the source again.  No literal is empty, follows another or has a variable in it, and a
variable is one or more words.  So every variable of the source is filled in: the source falls into
what stands before it and behind it.  A source without variables stays as it is. -/
theorem ofSource_splits (source : String) :
    (∃ slices, List.Forall₂ Segment.WrittenAs (ofSource source).segments slices ∧
      slices.flatten = source.toList) ∧
    ((ofSource source).segments.IsChain fun a b => ¬ (a.IsLiteral ∧ b.IsLiteral)) ∧
    (∀ segment ∈ (ofSource source).segments, segment.WellFormed) ∧
    (∀ front (p : Padded IsWordPath) back, source.toList = front ++ (variableText p ++ back) →
      (ofSource source).segments = (ofSource (String.ofList front)).segments ++
        .variable (pathSegments p.text) :: (ofSource (String.ofList back)).segments ∧
      ∀ write c, (ofSource source).renderWith write c =
        (ofSource (String.ofList front)).renderWith write c ++
          write (value c (pathSegments p.text)) ++
          (ofSource (String.ofList back)).renderWith write c) ∧
    (Formless source.toList →
      ∀ c, (ofSource source).html c = source ∧ (ofSource source).plain c = source) := by
  have splits := splits_ofSource source
  refine ⟨splits.writtenAs, splits.isChain, splits.wellFormed, fun front p back whole => ?_,
    fun formless c => ?_⟩
  · exact ⟨segments_around whole, renderWith_around whole⟩
  · exact ⟨renderWith_of_formless formless _ c, renderWith_of_formless formless _ c⟩

/-- A form that breaks off, and one that begins one brace later. -/
example : (ofSource "\x7b\x7b a. \x7d\x7d\x7b\x7b\x7b b.c\x7d\x7d\x7d").segments =
    [.literal "\x7b\x7b a. \x7d\x7d\x7b", .variable ["b", "c"], .literal "\x7d"] := by
  decide

end Wikilink.Template
