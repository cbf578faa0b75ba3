/-
# Proofs.Mention.Hint -- hints and queries

A text before the first bar is a query, or a hint and a query: a word, an arrow and
something behind it, with blanks around the word (`Hinted`).  The word of a hint is
determined by the text, because neither a blank nor the arrow belongs to a word.  So
a text is read with its hint if it gives one (`splitHint_of_hinted`), and is a query
as a whole if it does not (`splitHint_of_unhinted`).  Blanks around a query never make
it look as if it had a hint (`Hinted.startsWithHint`).
-/
import Wikilink.Mention.Basic
import Wikilink.Proofs.Text.Trim

namespace Wikilink.Mention

set_option autoImplicit false

open Text

/-! ## Queries -/

theorem inQuery_iff {c : Char} : inQuery c = true ↔ c ≠ ']' ∧ c ≠ '|' := by
  simp [inQuery]

/-- A text without a closing bracket and without a bar may be a query. -/
theorem inQuery_of_not_mem {s : List Char} (bracketless : ']' ∉ s) (barless : '|' ∉ s) :
    ∀ c ∈ s, inQuery c = true := fun _ mem =>
  inQuery_iff.mpr ⟨fun same => bracketless (same ▸ mem), fun same => barless (same ▸ mem)⟩

theorem not_mem_of_inQuery {s : List Char} (queried : ∀ c ∈ s, inQuery c = true) :
    ']' ∉ s ∧ '|' ∉ s :=
  ⟨fun mem => (inQuery_iff.mp (queried _ mem)).1 rfl,
    fun mem => (inQuery_iff.mp (queried _ mem)).2 rfl⟩

theorem inQuery_of_isBlank {c : Char} (blank : isBlank c = true) : inQuery c = true := by
  refine inQuery_iff.mpr ⟨?_, ?_⟩
  all_goals
    rintro rfl
    exact absurd blank (by decide)

theorem inQuery_of_isWord {c : Char} (word : isWord c = true) : inQuery c = true := by
  refine inQuery_iff.mpr ⟨?_, ?_⟩
  all_goals
    rintro rfl
    exact absurd word (by decide)

/-! ## Hints -/

variable {subject word rest : List Char}

/-- The text names a kind of object and goes on with `rest` behind the arrow. -/
def Hinted (subject word rest : List Char) : Prop :=
  ∃ before between, subject = before ++ word ++ between ++ '-' :: '>' :: rest ∧
    (∀ c ∈ before, isBlank c = true) ∧ isWordRun word = true ∧
    (∀ c ∈ between, isBlank c = true) ∧ rest ≠ []

theorem Hinted.blanks_append {before : List Char} (hinted : Hinted subject word rest)
    (blanks : ∀ c ∈ before, isBlank c = true) : Hinted (before ++ subject) word rest := by
  obtain ⟨more, between, rfl, blanks', run, others⟩ := hinted
  refine ⟨before ++ more, between, by simp, fun c mem => ?_, run, others⟩
  exact (List.mem_append.mp mem).elim (blanks c) (blanks' c)

/-- No word goes on with a blank or with an arrow. -/
theorem exists_cons_arrow {between : List Char} (blanks : ∀ c ∈ between, isBlank c = true)
    (rest : List Char) :
    ∃ d tail, between ++ '-' :: rest = d :: tail ∧ isWord d = false := by
  cases between with
  | nil => exact ⟨'-', rest, rfl, by decide⟩
  | cons d between => exact ⟨d, _, rfl, not_isWord_of_isBlank (blanks d (by simp))⟩

theorem splitHint_of_hinted (hinted : Hinted subject word rest) :
    splitHint subject = (some (String.ofList word), trimmed rest) := by
  obtain ⟨before, between, rfl, blanks, run, blanks', behind⟩ := hinted
  obtain ⟨w, ws, rfl⟩ := List.exists_cons_of_ne_nil (ne_nil_of_isWordRun run)
  obtain ⟨c, cs, rfl⟩ := List.exists_cons_of_ne_nil behind
  have letters : ∀ d ∈ w :: ws, isWord d = true := fun d mem => isWord_of_mem run mem
  have solid : isBlank w = false := not_isBlank_of_isWord (letters w (by simp))
  have arrow : isBlank '-' = false := by decide
  obtain ⟨d, tail, shape, ends⟩ := exists_cons_arrow blanks' ('>' :: c :: cs)
  have start : (before ++ w :: ws ++ between ++ '-' :: '>' :: c :: cs).dropWhile isBlank =
      (w :: ws) ++ d :: tail := by
    rw [← shape, List.append_assoc, List.append_assoc]
    exact dropWhile_run blanks solid
  have behindWord : (d :: tail).dropWhile isBlank = '-' :: '>' :: c :: cs := by
    rw [← shape]
    exact dropWhile_run blanks' arrow
  simp only [splitHint, start, takeWhile_run letters ends, dropWhile_run letters ends, behindWord]

theorem splitHint_of_unhinted (unhinted : ∀ word rest, ¬ Hinted subject word rest) :
    splitHint subject = (none, trimmed subject) := by
  unfold splitHint
  simp only
  split
  · rename_i w ws c cs word arrow
    have start := List.takeWhile_append_dropWhile (p := isBlank) (l := subject)
    have run := List.takeWhile_append_dropWhile (p := isWord) (l := subject.dropWhile isBlank)
    have between := List.takeWhile_append_dropWhile (p := isBlank)
      (l := (subject.dropWhile isBlank).dropWhile isWord)
    refine absurd ⟨subject.takeWhile isBlank,
      ((subject.dropWhile isBlank).dropWhile isWord).takeWhile isBlank, ?_,
      fun d mem => List.mem_takeWhile_imp mem, ?_, fun d mem => List.mem_takeWhile_imp mem,
      List.cons_ne_nil c cs⟩ (unhinted (w :: ws) (c :: cs))
    · rw [← arrow, ← word, List.append_assoc, List.append_assoc, between, run, start]
    · have letters : ∀ d ∈ w :: ws, isWord d = true := by
        rw [← word]
        exact fun d mem => List.mem_takeWhile_imp mem
      exact isWordRun_of_forall (List.cons_ne_nil w ws) letters
  · rfl

/-! ## Queries that look hinted -/

/-- The text starts like one with a hint: with a word, blanks and an arrow. -/
def StartsWithHint (s : List Char) : Prop :=
  ∃ word between rest, s = word ++ between ++ '-' :: '>' :: rest ∧ isWordRun word = true ∧
    ∀ c ∈ between, isBlank c = true

/-- Blanks around a query do not make it look hinted: the word starts where the query starts, and
the arrow ends in no blank. -/
theorem Hinted.startsWithHint {before s after : List Char} (nonempty : s ≠ [])
    (tight : trim s = s) (front : ∀ c ∈ before, isBlank c = true)
    (back : ∀ c ∈ after, isBlank c = true) (hinted : Hinted (before ++ s ++ after) word rest) :
    StartsWithHint s := by
  obtain ⟨blanks, between, same, front', run, blank, -⟩ := hinted
  obtain ⟨c, cs, rfl⟩ := List.exists_cons_of_ne_nil nonempty
  obtain ⟨w, ws, rfl⟩ := List.exists_cons_of_ne_nil (ne_nil_of_isWordRun run)
  have solid : isBlank w = false := not_isBlank_of_isWord (isWord_of_mem run (by simp))
  rw [List.append_assoc, List.append_assoc, List.append_assoc] at same
  have starts : before = blanks := by
    have left : (before ++ ((c :: cs) ++ after)).takeWhile isBlank = before :=
      takeWhile_run front (not_isBlank_of_trim_eq tight)
    rw [same] at left
    exact left.symm.trans (takeWhile_run front' solid)
  subst starts
  have behind : (c :: cs) ++ after = ((w :: ws) ++ between ++ ['-'] ++ ['>']) ++ rest := by
    rw [List.append_cancel_left same]
    simp
  rcases List.append_eq_append_iff.mp behind with ⟨tail, whole, rfl⟩ | ⟨more, whole, -⟩
  · rcases List.eq_nil_or_concat tail with rfl | ⟨init, last, rfl⟩
    · exact ⟨w :: ws, between, [], by simpa using whole.symm, run, blank⟩
    · rw [List.concat_eq_append, ← List.append_assoc] at whole
      have arrow : ['>'] = [last] := (List.append_inj' whole rfl).2
      have blank' : isBlank '>' = true := back '>' (by simp [← (List.cons.inj arrow).1])
      exact absurd blank' (by decide)
  · exact ⟨w :: ws, between, more, by simpa using whole, run, blank⟩

end Wikilink.Mention
