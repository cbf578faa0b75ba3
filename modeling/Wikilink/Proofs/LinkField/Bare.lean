/-
# Proofs.LinkField.Bare -- bare text that is put in

Input is put in brackets once: what came out of it is kept when it is put in again
(`normalize_normalize`).  A text that names no kind of object, has no label and closes no
bracket (`Bare`) is then a link to exactly that text, whatever else stands in it: the
blanks inside the brackets are trimmed off again, and no part of it is taken for a hint
(`parse?_wrapped`).
-/
import Wikilink.Proofs.LinkField.Input
import Wikilink.Proofs.Mention.LinkReading

namespace Wikilink

set_option autoImplicit false

open Text

namespace Mention

/-! ## Bare texts -/

/-- The word of a hint is as long as it can be. -/
theorem startsWithHint_iff {s : List Char} :
    StartsWithHint s ↔ s.takeWhile isWord ≠ [] ∧
      ((s.dropWhile isWord).dropWhile isBlank).take 2 = ['-', '>'] := by
  constructor
  · rintro ⟨word, between, rest, rfl, run, blank⟩
    obtain ⟨d, tail, shape, ends⟩ := exists_cons_arrow blank ('>' :: rest)
    have letters : ∀ c ∈ word, isWord c = true := fun _ mem => isWord_of_mem run mem
    have arrow : isBlank '-' = false := by decide
    rw [List.append_assoc, shape, takeWhile_run letters ends, dropWhile_run letters ends, ← shape,
      dropWhile_run blank arrow]
    exact ⟨ne_nil_of_isWordRun run, rfl⟩
  · rintro ⟨word, arrow⟩
    have front := List.takeWhile_append_dropWhile (p := isWord) (l := s)
    have between := List.takeWhile_append_dropWhile (p := isBlank) (l := s.dropWhile isWord)
    have behind := List.take_append_drop 2 ((s.dropWhile isWord).dropWhile isBlank)
    rw [arrow] at behind
    refine ⟨s.takeWhile isWord, (s.dropWhile isWord).takeWhile isBlank,
      ((s.dropWhile isWord).dropWhile isBlank).drop 2, ?_,
      isWordRun_of_forall word fun c mem => List.mem_takeWhile_imp mem,
      fun c mem => List.mem_takeWhile_imp mem⟩
    rw [List.append_assoc]
    exact (front.symm.trans (congrArg _ (between.symm.trans (congrArg _ behind.symm))))

instance (s : List Char) : Decidable (StartsWithHint s) :=
  decidable_of_iff _ startsWithHint_iff.symm

/-- A query as a whole, which neither brackets around it nor its own characters change. -/
structure Bare (query : List Char) : Prop where
  nonempty : query ≠ []
  unopened : query.head? ≠ some '['
  bracketless : ']' ∉ query
  barless : '|' ∉ query
  unhinted : ¬ StartsWithHint query

variable {query : List Char}

/-- Blanks around the query are no part of it, and give it no hint. -/
theorem Bare.splitHint_padded (bare : Bare query) (tight : trim query = query) :
    splitHint (' ' :: (query ++ [' '])) = (none, String.ofList query) := by
  have blank : ∀ c ∈ [' '], isBlank c = true := List.all_eq_true.mp (by decide)
  have padded : ' ' :: (query ++ [' ']) = [' '] ++ query ++ [' '] := by simp
  have unhinted : ∀ word rest, ¬ Hinted ([' '] ++ query ++ [' ']) word rest := fun _ _ hinted =>
    bare.unhinted (hinted.startsWithHint bare.nonempty tight blank blank)
  rw [padded, splitHint_of_unhinted unhinted, trimmed, trim_padded blank blank, tight]

/-- **Brackets around the query make a link to it.** -/
theorem Bare.parse?_wrapped (bare : Bare query) (tight : trim query = query) :
    Form.link.parse? (String.ofList (wrapped query)) =
      some ⟨String.ofList (wrapped query), none, String.ofList query, .link none⟩ := by
  have brackets : wrapped query = '[' :: '[' :: (' ' :: (query ++ [' ']) ++ [']', ']']) := by
    simp [wrapped_eq]
  have split : LinkSplit (wrapped query) (' ' :: (query ++ [' '])) [] (' ' :: (query ++ [' ']))
      none := by
    refine ⟨brackets, ?_, .bare (List.cons_ne_nil _ _) ?_⟩
    · simp [bare.bracketless]
    · simp [bare.barless]
  have recognized := split.recognized
  rw [bare.splitHint_padded tight, ← brackets] at recognized
  rw [Form.parse?_ofList]
  exact congrArg (Option.map Prod.fst) recognized

theorem trimStart_wrapped (query : List Char) : trimStart (wrapped query) = wrapped query :=
  List.dropWhile_cons_of_neg (by decide)

end Mention

namespace LinkField

open Mention

/-- **Input is put in brackets once.** -/
theorem normalize_normalize (input : List Char) : normalize (normalize input) = normalize input := by
  cases start : trim input with
  | nil =>
      have none : normalize input = [] := by
        unfold normalize
        rw [start]
      rw [none]
      rfl
  | cons c cs =>
      have bracket : ∃ inner, normalize input = '[' :: inner := by
        by_cases opened : c = '['
        · subst opened
          exact ⟨cs, (normalize_of_bracket start).trans start⟩
        · exact ⟨_, normalize_of_ne start opened⟩
      obtain ⟨inner, opens⟩ := bracket
      have again : trim (normalize input) = '[' :: inner := (trim_normalize input).trans opens
      exact (normalize_of_bracket again).trans (trim_normalize input)

theorem normalize_of_bare {input : List Char} (bare : Bare (trim input)) :
    normalize input = wrapped (trim input) := by
  obtain ⟨c, cs, start⟩ := List.exists_cons_of_ne_nil bare.nonempty
  refine normalize_of_ne start fun opened => bare.unopened ?_
  rw [start, opened]
  rfl

section Site

variable {ι : Type} [DecidableEq ι]

/-- **Bare input becomes a link to exactly that text.**  Input that has been put in brackets is not
changed again.  What is put in is trimmed, and if that is a bare text, the field is labelled with
it, is accepted, and has the object that the text leads to without a hint: none if it leads to no
single object, and the same failure if the search for it fails. -/
theorem ofInput_of_bare (s : Site ι) (value : String) :
    normalize (normalize value.toList) = normalize value.toList ∧
    (Bare (trim value.toList) →
      (ofInput value).raw = "[[ " ++ trimmed value.toList ++ " ]]" ∧
      (ofInput value).label? = some (trimmed value.toList) ∧
      validate s false (ofInput value).raw = .ok () ∧
      (ofInput value).object? s = (s.resolve none (trimmed value.toList)).map fun
        | .found _ object => some object
        | _ => none) := by
  refine ⟨normalize_normalize value.toList, fun bare => ?_⟩
  have tight : trim (trim value.toList) = trim value.toList := trim_trim value.toList
  have raw : (ofInput value).raw.toList = wrapped (trim value.toList) := by
    rw [ofInput_raw_toList, normalize_of_bare bare]
  have whole : (ofInput value).raw = String.ofList (wrapped (trim value.toList)) := by
    rw [← raw, String.ofList_toList]
  have read := bare.parse?_wrapped tight
  have parsed : Form.link.parse? (String.ofList (trimStart (ofInput value).raw.toList)) =
      some ⟨String.ofList (wrapped (trim value.toList)), none, trimmed value.toList,
        .link none⟩ := by
    rw [raw, trimStart_wrapped]
    exact read
  refine ⟨?_, ?_, ?_, ?_⟩
  · apply String.toList_injective
    rw [raw]
    simp [wrapped, trimmed]
  · rw [label?, parsed]
    rfl
  · have mention : Mention.parse? (String.ofList (wrapped (trim value.toList))) = some
        ⟨String.ofList (wrapped (trim value.toList)), none, trimmed value.toList, .link none⟩ := by
      rw [Mention.parse?, read]
      rfl
    rw [validate_ofInput_iff bare.nonempty, whole]
    exact ⟨_, mention⟩
  · rw [object?_eq parsed]
    cases s.resolve none (trimmed value.toList) with
    | error e => rfl
    | ok outcome => cases outcome <;> rfl

/-- A title between blanks, and a text with an arrow, braces and opening brackets in it. -/
theorem ofInput_of_bare_films :
    ((ofInput " Mad Max!\n").raw = "[[ Mad Max! ]]" ∧
      (ofInput " Mad Max!\n").object? Site.indexedFilms = .ok (some (film 1 "Mad Max"))) ∧
    (ofInput "\x7ba->b\x7d[[c").label? = some "\x7ba->b\x7d[[c" ∧
    validate Site.indexedFilms false (ofInput "\x7ba->b\x7d[[c").raw = .ok () := by
  have title : Bare (trim " Mad Max!\n".toList) :=
    ⟨by decide, by decide, by decide, by decide, by decide⟩
  have text : Bare (trim "\x7ba->b\x7d[[c".toList) :=
    ⟨by decide, by decide, by decide, by decide, by decide⟩
  obtain ⟨raw, -, -, object⟩ := (ofInput_of_bare Site.indexedFilms " Mad Max!\n").2 title
  obtain ⟨-, label, accepted, -⟩ :=
    (ofInput_of_bare Site.indexedFilms "\x7ba->b\x7d[[c").2 text
  exact ⟨⟨raw, object⟩, label, accepted⟩

end Site

end LinkField

end Wikilink
