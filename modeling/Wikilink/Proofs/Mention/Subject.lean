/-
# Proofs.Mention.Subject -- the pattern of a hint and a query

Links and embeds begin alike: blanks, a hint if there is one, and a query that goes
on to the first bar or closing bracket.  As a pattern this can be read in many ways,
because blanks, words and arrows may all belong to the query.  The preferred reading
takes the whole text before the bar, and finds a hint exactly where that text gives
one (`head?_readings_subject`).
-/
import Wikilink.Proofs.Mention.Hint
import Wikilink.Proofs.Text.Pattern

namespace Wikilink.Mention

set_option autoImplicit false

open Text

/-- The parts of a mention that a pattern keeps. -/
inductive Part where
  | hint
  | query
  | label
  | attr
  | options
  deriving DecidableEq

/-- A word, blanks and an arrow. -/
def hintPattern : Pattern Part :=
  .seq (.keep .hint (.run isWord)) (.seq .blanks (.exactly ['-', '>']))

/-- A hint, if there is one, and a query. -/
def hintedPattern : Pattern Part :=
  .seq (.optional hintPattern) (.keep .query (.run inQuery))

/-- Blanks, a hint if there is one, and a query. -/
def subjectPattern : Pattern Part :=
  .seq .blanks hintedPattern

/-! ## What the pattern covers -/

variable {s q after : List Char} {r : Reading Part}

/-- A hint is a word, blanks and an arrow. -/
theorem of_mem_readings_hintPattern (mem : r ∈ hintPattern.readings s) :
    ∃ word between rest, s = word ++ between ++ '-' :: '>' :: rest ∧ isWordRun word = true ∧
      (∀ c ∈ between, isBlank c = true) ∧
      r = ⟨word ++ between ++ ['-', '>'], rest, [(.hint, word)]⟩ := by
  obtain ⟨_, named, _, behind, rfl⟩ := Pattern.mem_readings_seq.mp mem
  obtain ⟨_, first, rfl⟩ := Pattern.mem_readings_keep.mp named
  obtain ⟨word, _, rfl, nonempty, letters, rfl⟩ := Pattern.mem_readings_run.mp first
  obtain ⟨_, second, _, third, rfl⟩ := Pattern.mem_readings_seq.mp behind
  obtain ⟨between, _, rfl, blanks, rfl⟩ := Pattern.mem_readings_many_one.mp second
  obtain ⟨rest, rfl, rfl⟩ := Pattern.mem_readings_exactly.mp third
  exact ⟨word, between, rest, by simp, isWordRun_of_forall nonempty letters, blanks,
    by simp [Reading.andThen, Reading.keep]⟩

/-- A word, blanks and an arrow may all belong to a query. -/
theorem queried_of_mem_readings_hintPattern (mem : r ∈ hintPattern.readings s) :
    ∀ c ∈ r.covered, inQuery c = true := by
  obtain ⟨word, between, rest, -, run, blanks, rfl⟩ := of_mem_readings_hintPattern mem
  intro c mem
  simp only [List.mem_append, List.mem_cons, List.not_mem_nil, or_false] at mem
  rcases mem with (mem | mem) | rfl | rfl
  · exact inQuery_of_isWord (isWord_of_mem run mem)
  · exact inQuery_of_isBlank (blanks c mem)
  · decide
  · decide

theorem queried_of_mem_readings_hintedPattern (mem : r ∈ hintedPattern.readings s) :
    r.covered ≠ [] ∧ ∀ c ∈ r.covered, inQuery c = true := by
  obtain ⟨hint, hinted, _, named, rfl⟩ := Pattern.mem_readings_seq.mp mem
  obtain ⟨_, second, rfl⟩ := Pattern.mem_readings_keep.mp named
  obtain ⟨query, _, -, nonempty, queried, rfl⟩ := Pattern.mem_readings_run.mp second
  refine ⟨by simp [nonempty], fun c mem => ?_⟩
  simp only [Reading.covered_andThen, Reading.covered_keep, List.mem_append] at mem
  rcases mem with mem | mem
  · rcases Pattern.mem_readings_either.mp hinted with given | none
    · exact queried_of_mem_readings_hintPattern given c mem
    · obtain rfl := List.mem_singleton.mp none
      cases mem
  · exact queried c mem

/-- What is covered before the first bar may all belong to a query, and it is not empty. -/
theorem queried_of_mem_readings_subject (mem : r ∈ subjectPattern.readings s) :
    r.covered ≠ [] ∧ ∀ c ∈ r.covered, inQuery c = true := by
  obtain ⟨_, first, _, behind, rfl⟩ := Pattern.mem_readings_seq.mp mem
  obtain ⟨before, _, rfl, blanks, rfl⟩ := Pattern.mem_readings_many_one.mp first
  obtain ⟨nonempty, queried⟩ := queried_of_mem_readings_hintedPattern behind
  refine ⟨by simp [nonempty], fun c mem => ?_⟩
  rcases List.mem_append.mp mem with mem | mem
  · exact inQuery_of_isBlank (blanks c mem)
  · exact queried c mem

/-- Behind the brackets that open a mention stands a query. -/
theorem of_mem_readings_opened {brackets : List Char} {p : Pattern Part}
    (mem : r ∈ (Pattern.seq (.exactly brackets) (.seq subjectPattern p)).readings s) :
    ∃ query inner, s = brackets ++ (query ++ inner) ∧ query ≠ [] ∧
      (∀ c ∈ query, inQuery c = true) ∧ ∃ behind, behind ∈ p.readings inner := by
  obtain ⟨_, opening, _, parts, rfl⟩ := Pattern.mem_readings_seq.mp mem
  obtain ⟨inner, rfl, rfl⟩ := Pattern.mem_readings_exactly.mp opening
  obtain ⟨before, first, behind, later, rfl⟩ := Pattern.mem_readings_seq.mp parts
  have whole : inner = before.covered ++ before.rest := Pattern.whole_of_mem_readings first
  obtain ⟨nonempty, queried⟩ := queried_of_mem_readings_subject first
  exact ⟨before.covered, before.rest, by rw [whole], nonempty, queried, behind, later⟩

/-! ## The preferred reading -/

/-- A word ends at blanks, and where it would end if there were none. -/
theorem ends_isWord_blanks {blanks tail : List Char} (blank : ∀ c ∈ blanks, isBlank c = true)
    (ends : Pattern.Ends isWord tail) : Pattern.Ends isWord (blanks ++ tail) := by
  cases blanks with
  | nil => exact ends
  | cons c blanks => exact Pattern.ends_cons (not_isWord_of_isBlank (blank c (by simp))) _

theorem ends_isBlank_word {word : List Char} (run : isWordRun word = true) (tail : List Char) :
    Pattern.Ends isBlank (word ++ tail) := by
  obtain ⟨c, word, rfl⟩ := List.exists_cons_of_ne_nil (ne_nil_of_isWordRun run)
  exact Pattern.ends_cons (not_isBlank_of_isWord (isWord_of_mem run (by simp))) _

theorem head?_word {word tail : List Char} (run : isWordRun word = true)
    (ends : Pattern.Ends isWord tail) :
    ((Pattern.run isWord : Pattern Part).readings (word ++ tail)).head? = some ⟨word, tail, []⟩ :=
  Pattern.head?_readings_run (ne_nil_of_isWordRun run) (fun _ mem => isWord_of_mem run mem) ends

theorem head?_hintPattern {word between : List Char} (run : isWordRun word = true)
    (blanks : ∀ c ∈ between, isBlank c = true) (rest : List Char) :
    (hintPattern.readings (word ++ (between ++ '-' :: '>' :: rest))).head? =
      some ⟨word ++ (between ++ ['-', '>']), rest, [(.hint, word)]⟩ := by
  have first : ((Pattern.keep Part.hint (.run isWord)).readings
      (word ++ (between ++ '-' :: '>' :: rest))).head? =
        some ⟨word, between ++ '-' :: '>' :: rest, [(.hint, word)]⟩ := by
    rw [Pattern.head?_readings_keep,
      head?_word run (ends_isWord_blanks blanks (Pattern.ends_cons (by decide) _))]
    rfl
  have arrow : Pattern.Ends isBlank ('-' :: '>' :: rest) := Pattern.ends_cons (by decide) _
  have second : ((Pattern.blanks : Pattern Part).readings (between ++ '-' :: '>' :: rest)).head? =
      some ⟨between, '-' :: '>' :: rest, []⟩ := Pattern.head?_readings_blanks blanks arrow
  have third := Pattern.head?_readings_exactly (γ := Part) ['-', '>'] rest
  exact Pattern.head?_readings_seq_of_head? first
    (Pattern.head?_readings_seq_of_head? second third)

/-- A query is read up to the first bar. -/
theorem head?_query {query : List Char} (nonempty : query ≠ [])
    (queried : ∀ c ∈ query, inQuery c = true) (ends : Pattern.Ends inQuery after) :
    ((Pattern.keep Part.query (.run inQuery)).readings (query ++ after)).head? =
      some ⟨query, after, [(.query, query)]⟩ := by
  rw [Pattern.head?_readings_keep, Pattern.head?_readings_run nonempty queried ends]
  rfl

/-- What is covered before a further character of a query stops before the first bar. -/
theorem exists_behind {covered tail : List Char} {c : Char} (ends : Pattern.Ends inQuery after)
    (queried : ∀ d ∈ covered, inQuery d = true) (next : inQuery c = true)
    (same : q ++ after = covered ++ c :: tail) : ∃ behind, q = covered ++ behind ∧ behind ≠ [] := by
  rcases List.append_eq_append_iff.mp same with ⟨more, rfl, rest⟩ | ⟨behind, rfl, rest⟩
  · have bar : ∀ d ∈ (more ++ c :: tail).head?, inQuery d = false := rest ▸ ends
    cases more with
    | nil => exact absurd next (by simp [bar c rfl])
    | cons d more => exact absurd (queried d (by simp)) (by simp [bar d rfl])
  · refine ⟨behind, rfl, ?_⟩
    rintro rfl
    have bar : ∀ d ∈ (c :: tail).head?, inQuery d = false := by
      rw [rest]
      exact ends
    exact absurd next (by simp [bar c rfl])

/-- Behind the blanks, a text that gives a hint is read with it. -/
theorem head?_hinted {word between behind : List Char} (run : isWordRun word = true)
    (blanks : ∀ c ∈ between, isBlank c = true) (nonempty : behind ≠ [])
    (queried : ∀ c ∈ behind, inQuery c = true) (ends : Pattern.Ends inQuery after) :
    (hintedPattern.readings (word ++ (between ++ '-' :: '>' :: (behind ++ after)))).head? =
      some ⟨word ++ (between ++ ['-', '>']) ++ behind, after,
        [(.hint, word), (.query, behind)]⟩ :=
  Pattern.head?_readings_seq_of_head?
    (Pattern.head?_readings_optional (head?_hintPattern run blanks (behind ++ after)))
    (head?_query nonempty queried ends)

/-- Behind the blanks, a text that gives no hint is read as a query. -/
theorem head?_unhinted {query : List Char} (nonempty : query ≠ [])
    (queried : ∀ c ∈ query, inQuery c = true) (ends : Pattern.Ends inQuery after)
    (unhinted : ∀ word behind, ¬ Hinted query word behind) :
    (hintedPattern.readings (query ++ after)).head? =
      some ⟨query, after, [(.query, query)]⟩ := by
  refine Pattern.head?_readings_seq Pattern.readings_optional (fun r mem => ?_)
    (head?_query nonempty queried ends)
  -- A query behind a word and an arrow would make the word a hint.
  rw [List.eq_nil_iff_forall_not_mem]
  intro _ mem'
  obtain ⟨_, named, rfl⟩ := Pattern.mem_readings_keep.mp mem'
  obtain ⟨begun, tail, next, some, queried', rfl⟩ := Pattern.mem_readings_run.mp named
  obtain ⟨c, begun, rfl⟩ := List.exists_cons_of_ne_nil some
  have whole := Pattern.whole_of_mem_readings mem
  rw [next] at whole
  obtain ⟨behind, rfl, further⟩ := exists_behind ends (queried_of_mem_readings_hintPattern mem)
    (queried' c (by simp)) whole
  obtain ⟨word, between, rest, -, run, blanks, rfl⟩ := of_mem_readings_hintPattern mem
  exact unhinted word behind ⟨[], between, by simp, by simp, run, blanks, further⟩

/-- Nothing is read where no character of a query comes next. -/
theorem readings_hintedPattern_of_ends (ends : Pattern.Ends inQuery after) :
    hintedPattern.readings after = [] := by
  rw [List.eq_nil_iff_forall_not_mem]
  intro r mem
  obtain ⟨nonempty, queried⟩ := queried_of_mem_readings_hintedPattern mem
  obtain ⟨c, tail, first⟩ := List.exists_cons_of_ne_nil nonempty
  have whole := Pattern.whole_of_mem_readings mem
  rw [first] at whole queried
  exact absurd (queried c (by simp)) (by simp [ends c (by rw [whole]; rfl)])

/-- A hint is read where the text gives one. -/
theorem head?_subject_of_hinted {word behind : List Char} (given : Hinted q word behind)
    (queried : ∀ c ∈ q, inQuery c = true) (ends : Pattern.Ends inQuery after) :
    (subjectPattern.readings (q ++ after)).head? =
      some ⟨q, after, [(.hint, word), (.query, behind)]⟩ := by
  obtain ⟨before, between, rfl, blanks, run, blanks', further⟩ := given
  have solid : Pattern.Ends isBlank (word ++ (between ++ '-' :: '>' :: (behind ++ after))) :=
    ends_isBlank_word run _
  have read := Pattern.head?_readings_seq_of_head?
    (Pattern.head?_readings_blanks (γ := Part) blanks solid)
    (head?_hinted run blanks' further (fun c mem => queried c (by simp [mem])) ends)
  have same : before ++ word ++ between ++ '-' :: '>' :: behind ++ after =
      before ++ (word ++ (between ++ '-' :: '>' :: (behind ++ after))) := by simp
  rw [same]
  refine read.trans ?_
  simp [Reading.andThen]

/-- A text of blanks alone leaves its last blank to the query. -/
theorem head?_subject_of_blanks {front : List Char} {c : Char}
    (blanks : ∀ d ∈ front, isBlank d = true) (blank : isBlank c = true)
    (ends : Pattern.Ends inQuery after) :
    (subjectPattern.readings (front ++ c :: after)).head? =
      some ⟨front ++ [c], after, [(.query, [c])]⟩ := by
  have stops : Pattern.Ends isBlank after := fun d next => by
    by_contra other
    exact absurd (inQuery_of_isBlank (by simpa using other)) (by simp [ends d next])
  obtain ⟨more, order⟩ := Pattern.exists_readings_many_one_eq (γ := Part) blanks blank stops
  have alone : ∀ word behind, ¬ Hinted [c] word behind := by
    rintro word behind ⟨_, _, same, -⟩
    have length := congrArg List.length same
    simp only [List.length_cons, List.length_append, List.length_nil] at length
    omega
  have queried : ∀ d ∈ [c], inQuery d = true := by simpa using inQuery_of_isBlank blank
  exact Pattern.head?_readings_seq order (by simpa using readings_hintedPattern_of_ends ends)
    (head?_unhinted (List.cons_ne_nil c []) queried ends alone)

/-- Without a hint the query is the text, but for blanks at its start. -/
theorem exists_head?_subject_of_unhinted (nonempty : q ≠ []) (queried : ∀ c ∈ q, inQuery c = true)
    (ends : Pattern.Ends inQuery after) (unhinted : ∀ word behind, ¬ Hinted q word behind) :
    ∃ query, trim query = trim q ∧
      (subjectPattern.readings (q ++ after)).head? = some ⟨q, after, [(.query, query)]⟩ := by
  obtain ⟨before, query, rfl, blanks, solid⟩ : ∃ before query, q = before ++ query ∧
      (∀ c ∈ before, isBlank c = true) ∧ Pattern.Ends isBlank query :=
    ⟨_, _, List.takeWhile_append_dropWhile.symm, fun c mem => List.mem_takeWhile_imp mem,
      Pattern.ends_dropWhile isBlank q⟩
  rcases query with - | ⟨c, query⟩
  · rw [List.append_nil] at *
    obtain ⟨front, c, rfl⟩ := (List.eq_nil_or_concat before).resolve_left nonempty
    rw [List.concat_eq_append] at *
    have blank : isBlank c = true := blanks c (by simp)
    have others : ∀ d ∈ front, isBlank d = true := fun d mem => blanks d (by simp [mem])
    refine ⟨[c], ?_, ?_⟩
    · rw [trim_of_blanks blanks, trim_of_blanks (by simpa using blank)]
    · rw [List.append_assoc]
      exact head?_subject_of_blanks others blank ends
  · have stops : Pattern.Ends isBlank (c :: query ++ after) := Pattern.ends_cons (solid c rfl) _
    have short : ∀ word behind, ¬ Hinted (c :: query) word behind :=
      fun word behind given => unhinted word behind (given.blanks_append blanks)
    have inside : ∀ d ∈ c :: query, inQuery d = true := fun d mem => queried d (by simp [mem])
    refine ⟨c :: query, (trim_blanks_append blanks _).symm, ?_⟩
    rw [List.append_assoc]
    exact Pattern.head?_readings_seq_of_head?
      (Pattern.head?_readings_blanks (γ := Part) blanks stops)
      (head?_unhinted (List.cons_ne_nil c query) inside ends short)

/-- **The preferred reading takes the whole text before the first bar**, with the hint that the
text gives. -/
theorem head?_readings_subject (nonempty : q ≠ []) (queried : ∀ c ∈ q, inQuery c = true)
    (ends : Pattern.Ends inQuery after) :
    (∃ word behind, Hinted q word behind ∧
      (subjectPattern.readings (q ++ after)).head? =
        some ⟨q, after, [(.hint, word), (.query, behind)]⟩) ∨
    (∀ word behind, ¬ Hinted q word behind) ∧ ∃ query, trim query = trim q ∧
      (subjectPattern.readings (q ++ after)).head? = some ⟨q, after, [(.query, query)]⟩ := by
  by_cases hinted : ∃ word behind, Hinted q word behind
  · obtain ⟨word, behind, given⟩ := hinted
    exact Or.inl ⟨word, behind, given, head?_subject_of_hinted given queried ends⟩
  · have unhinted : ∀ word behind, ¬ Hinted q word behind :=
      fun word behind given => hinted ⟨word, behind, given⟩
    exact Or.inr ⟨unhinted, exists_head?_subject_of_unhinted nonempty queried ends unhinted⟩

end Wikilink.Mention
