/-
# Proofs.Text.Trim -- words, blanks and trimming

Word characters are no blanks (`not_isBlank_of_isWord`).  Trimming takes away the
blanks around a text (`trim_padded`) and nothing else (`exists_padding`); it stops at
a character that is no blank (`trimEnd_append`), so it leaves a word as it is
(`trim_of_isWordRun`).
-/
import Wikilink.Proofs.Text.Scan
import Wikilink.Text.Basic

namespace Wikilink.Text

set_option autoImplicit false

/-! ## Words and blanks -/

theorem CodePoints.range_of_contains {ranges : CodePoints} {n : Nat}
    (inside : ranges.contains n = true) : ∃ r ∈ ranges, r.1 ≤ n ∧ n ≤ r.2 := by
  induction ranges with
  | nil => cases inside
  | cons r rest ih =>
      obtain ⟨first, last⟩ := r
      simp only [contains] at inside
      split at inside
      · cases inside
      · split at inside
        · exact ⟨_, List.mem_cons_self, by simp only; omega⟩
        · obtain ⟨r, mem, range⟩ := ih inside
          exact ⟨r, List.mem_cons_of_mem _ mem, range⟩

/-- No range of one table meets a range of the other. -/
def CodePoints.apart (s t : CodePoints) : Bool :=
  s.all fun r => t.all fun q => Nat.blt r.2 q.1 || Nat.blt q.2 r.1

theorem CodePoints.not_contains_of_apart {s t : CodePoints} (apart : s.apart t = true) {n : Nat}
    (inside : s.contains n = true) : t.contains n = false := by
  cases other : t.contains n with
  | false => rfl
  | true =>
      obtain ⟨r, memR, lowR, highR⟩ := range_of_contains inside
      obtain ⟨q, memQ, lowQ, highQ⟩ := range_of_contains other
      have clear := List.all_eq_true.mp (List.all_eq_true.mp apart r memR) q memQ
      simp only [Bool.or_eq_true, Nat.blt_eq] at clear
      omega

/-- A blank stands in no word. -/
theorem not_isWord_of_isBlank {c : Char} (blank : isBlank c = true) : isWord c = false := by
  have letters := CodePoints.not_contains_of_apart (t := alphabetic) (by decide +kernel) blank
  have digits := CodePoints.not_contains_of_apart (t := decimalDigit) (by decide +kernel) blank
  have connectors := CodePoints.not_contains_of_apart (t := connector) (by decide +kernel) blank
  have marks := CodePoints.not_contains_of_apart (t := mark) (by decide +kernel) blank
  have joiners := CodePoints.not_contains_of_apart (t := joiner) (by decide +kernel) blank
  simp only [isWord, letters, digits, connectors, marks, joiners, Bool.or_self]

theorem not_isBlank_of_isWord {c : Char} (word : isWord c = true) : isBlank c = false := by
  cases blank : isBlank c with
  | false => rfl
  | true => exact absurd word (by simp [not_isWord_of_isBlank blank])

theorem isWord_of_mem {word : List Char} (run : isWordRun word = true) {c : Char}
    (mem : c ∈ word) : isWord c = true := by
  simp only [isWordRun, Bool.and_eq_true, List.all_eq_true] at run
  exact run.2 c mem

theorem ne_nil_of_isWordRun {word : List Char} (run : isWordRun word = true) : word ≠ [] := by
  rintro rfl
  cases run

theorem isWordRun_of_forall {word : List Char} (nonempty : word ≠ [])
    (letters : ∀ c ∈ word, isWord c = true) : isWordRun word = true := by
  simpa [isWordRun, nonempty] using letters

/-! ## Trimming -/

theorem exists_trimStart (s : List Char) :
    ∃ before, s = before ++ trimStart s ∧ ∀ c ∈ before, isBlank c = true :=
  ⟨s.takeWhile isBlank, List.takeWhile_append_dropWhile.symm, fun _ mem =>
    List.mem_takeWhile_imp mem⟩

theorem exists_trimEnd (s : List Char) :
    ∃ after, s = trimEnd s ++ after ∧ ∀ c ∈ after, isBlank c = true := by
  obtain ⟨before, whole, blanks⟩ := exists_trimStart s.reverse
  refine ⟨before.reverse, ?_, by simpa using blanks⟩
  have reversed := congrArg List.reverse whole
  rwa [List.reverse_reverse, List.reverse_append] at reversed

theorem trimEnd_prefix (s : List Char) : trimEnd s <+: s := by
  obtain ⟨after, whole, -⟩ := exists_trimEnd s
  exact ⟨after, whole.symm⟩

/-- **Nothing but blanks is trimmed away.** -/
theorem exists_padding (s : List Char) :
    ∃ before after, s = before ++ trim s ++ after ∧ (∀ c ∈ before, isBlank c = true) ∧
      ∀ c ∈ after, isBlank c = true := by
  obtain ⟨before, front, blanks⟩ := exists_trimStart s
  obtain ⟨after, back, blanks'⟩ := exists_trimEnd (trimStart s)
  refine ⟨before, after, ?_, blanks, blanks'⟩
  rw [List.append_assoc, trim, ← back, ← front]

theorem trimEnd_append_blanks {after : List Char} (blanks : ∀ c ∈ after, isBlank c = true)
    (s : List Char) : trimEnd (s ++ after) = trimEnd s := by
  have reversed : ∀ c ∈ after.reverse, isBlank c = true := by simpa using blanks
  rw [trimEnd, List.reverse_append, List.dropWhile_append_of_pos reversed, trimEnd]

theorem trimEnd_concat {c : Char} (blank : isBlank c = true) (s : List Char) :
    trimEnd (s ++ [c]) = trimEnd s :=
  trimEnd_append_blanks (by simpa using blank) s

theorem trim_blanks_append {before : List Char} (blanks : ∀ c ∈ before, isBlank c = true)
    (s : List Char) : trim (before ++ s) = trim s := by
  rw [trim, trimStart, List.dropWhile_append_of_pos blanks]
  rfl

/-- Blanks around a text are trimmed away. -/
theorem trim_padded {before after : List Char} (front : ∀ c ∈ before, isBlank c = true)
    (back : ∀ c ∈ after, isBlank c = true) (s : List Char) :
    trim (before ++ s ++ after) = trim s := by
  have none : after.dropWhile isBlank = [] := List.dropWhile_eq_nil_iff.mpr back
  rw [List.append_assoc, trim_blanks_append front, trim, trimStart, List.dropWhile_append, trim,
    trimStart]
  split
  · rename_i blank
    rw [List.isEmpty_iff.mp blank, none]
  · exact trimEnd_append_blanks back _

theorem trim_of_blanks {s : List Char} (blanks : ∀ c ∈ s, isBlank c = true) : trim s = [] := by
  have none := trim_blanks_append blanks []
  rwa [List.append_nil] at none

/-- Nothing is trimmed from a text without blanks. -/
theorem trimEnd_of_blankless {s : List Char} (solid : ∀ c ∈ s, isBlank c = false) :
    trimEnd s = s := by
  rcases List.eq_nil_or_concat s with rfl | ⟨front, c, rfl⟩
  · rfl
  · rw [List.concat_eq_append] at *
    rw [trimEnd, List.reverse_append, List.reverse_singleton, List.singleton_append,
      List.dropWhile_cons_of_neg (by simp [solid c]), List.reverse_cons, List.reverse_reverse]

theorem trim_of_blankless {s : List Char} (solid : ∀ c ∈ s, isBlank c = false) : trim s = s := by
  have start : trimStart s = s := by
    cases s with
    | nil => rfl
    | cons c s => exact List.dropWhile_cons_of_neg (by simp [solid c])
  rw [trim, start, trimEnd_of_blankless solid]

theorem trim_of_isWordRun {word : List Char} (run : isWordRun word = true) : trim word = word :=
  trim_of_blankless fun _ mem => not_isBlank_of_isWord (isWord_of_mem run mem)

/-- A text that trimming leaves as it is starts with no blank. -/
theorem not_isBlank_of_trim_eq {c : Char} {s : List Char} (tight : trim (c :: s) = c :: s) :
    isBlank c = false := by
  cases blank : isBlank c with
  | false => rfl
  | true =>
      have short : (trim (c :: s)).length ≤ s.length := by
        rw [trim, trimStart, List.dropWhile_cons_of_pos blank]
        have front := trimEnd_prefix (s.dropWhile isBlank)
        exact front.length_le.trans (List.dropWhile_suffix isBlank).length_le
      rw [tight, List.length_cons] at short
      omega

/-- Trimming a start goes no further than to a character that is no blank. -/
theorem trimStart_append {solid : Char} (blankless : isBlank solid = false) (front s : List Char) :
    trimStart (front ++ solid :: s) = trimStart front ++ solid :: s := by
  unfold trimStart
  induction front with
  | nil => exact List.dropWhile_cons_of_neg (by simp [blankless])
  | cons c front ih =>
      cases blank : isBlank c with
      | true => rw [List.cons_append, List.dropWhile_cons_of_pos blank, ih,
          List.dropWhile_cons_of_pos blank]
      | false => rw [List.cons_append, List.dropWhile_cons_of_neg (by simp [blank]),
          List.dropWhile_cons_of_neg (by simp [blank]), List.cons_append]

/-- Trimming an end goes no further than to a character that is no blank. -/
theorem trimEnd_append {solid : Char} (blankless : isBlank solid = false) (front s : List Char) :
    trimEnd (front ++ solid :: s) = front ++ solid :: trimEnd s := by
  have stops := trimStart_append blankless s.reverse front.reverse
  unfold trimStart at stops
  rw [trimEnd, List.reverse_append, List.reverse_cons, List.append_assoc, List.singleton_append,
    stops, List.reverse_append, List.reverse_cons, List.reverse_reverse, List.append_assoc,
    List.singleton_append, trimEnd]

theorem trim_append {solid : Char} (blankless : isBlank solid = false) (front s : List Char) :
    trim (front ++ solid :: s) = trimStart front ++ solid :: trimEnd s := by
  rw [trim, trimStart_append blankless, trimEnd_append blankless]

theorem trim_trimStart (s : List Char) : trim (trimStart s) = trim s := by
  obtain ⟨before, whole, blanks⟩ := exists_trimStart s
  have same := trim_blanks_append blanks (trimStart s)
  rw [← whole] at same
  exact same.symm

theorem trim_trimEnd (s : List Char) : trim (trimEnd s) = trim s := by
  obtain ⟨after, whole, blanks⟩ := exists_trimEnd s
  have none : ∀ c ∈ ([] : List Char), isBlank c = true := by simp
  have same := trim_padded none blanks (trimEnd s)
  rw [List.nil_append, ← whole] at same
  exact same.symm

theorem trim_trim (s : List Char) : trim (trim s) = trim s := by
  calc trim (trim s)
      = trim (trimStart s) := trim_trimEnd (trimStart s)
    _ = trim s := trim_trimStart s

/-- Nothing is trimmed between two characters that are no blanks. -/
theorem trim_between {first last : Char} (opens : isBlank first = false)
    (closes : isBlank last = false) (s : List Char) :
    trim (first :: s ++ [last]) = first :: s ++ [last] := by
  have start : trimStart (first :: s) = first :: s :=
    List.dropWhile_cons_of_neg (by simp [opens])
  rw [trim_append closes, start]
  rfl

end Wikilink.Text
