/-
# Proofs.Mention.EmbedReading -- an embed is read without going back

As a pattern an embed is two braces, blanks, a hint if there is one, a query, a bar,
an attribute, options behind bars if there are any, blanks and two braces.  Blanks
before a bar and before the braces fit more than one of these parts.  The pattern can
be read where a text between two braces is a query, a bar and a request
(`exists_layout_of_mem_readings`); what it prefers to read are the parts as they were
written, so the preferred reading is what is recognized (`recognizeEmbed_eq_head?`).
-/
import Wikilink.Proofs.Mention.Forms
import Wikilink.Proofs.Mention.Options
import Wikilink.Proofs.Mention.Subject

namespace Wikilink.Mention

set_option autoImplicit false

open Text

/-! ## The pattern -/

/-- Two words around an equals sign. -/
def entryPattern : Pattern Part :=
  .seq (.run isWord) (.seq .blanks (.seq (.exactly ['=']) (.seq .blanks (.run isWord))))

/-- An option: an entry, or else a word. -/
def optionPattern : Pattern Part :=
  .seq .blanks (.either entryPattern (.run isWord))

/-- A bar and an option. -/
def choicePattern : Pattern Part :=
  .seq .blanks (.seq (.exactly ['|']) optionPattern)

/-- The options, if there are any, kept as one text. -/
def optionsPattern : Pattern Part :=
  .optional (.keep .options (.seq choicePattern (.many choicePattern)))

/-- Blanks and the closing braces. -/
def bracesPattern : Pattern Part :=
  .seq .blanks (.exactly ['}', '}'])

/-- What follows the first bar. -/
def requestPattern : Pattern Part :=
  .seq .blanks (.seq (.keep .attr (.run isWord)) (.seq optionsPattern bracesPattern))

/-- An embed. -/
def embedPattern : Pattern Part :=
  .seq (.exactly ['{', '{']) (.seq subjectPattern (.seq (.exactly ['|']) requestPattern))

/-- The embed of a reading.  The options are split a second time. -/
def embedOf (r : Reading Part) : Mention where
  fullText := String.ofList r.covered
  typeHint := (r.part? .hint).map trimmed
  query := trimmed ((r.part? .query).getD [])
  request := .embed (trimmed ((r.part? .attr).getD [])) (readOptions ((r.part? .options).getD []))

variable {s rest : List Char} {r : Reading Part}

/-! ## Every reading is an embed -/

/-- A word and the blanks before it. -/
def Padded.ofRun (before word : List Char) (front : ∀ c ∈ before, isBlank c = true)
    (nonempty : word ≠ []) (letters : ∀ c ∈ word, isWord c = true) : Padded IsWord where
  before := before
  text := String.ofList word
  after := []
  front := front
  fits := by
    rw [IsWord, String.toList_ofList]
    exact isWordRun_of_forall nonempty letters
  back := by simp

theorem Padded.print_ofRun {before word : List Char} (front : ∀ c ∈ before, isBlank c = true)
    (nonempty : word ≠ []) (letters : ∀ c ∈ word, isWord c = true) :
    (Padded.ofRun before word front nonempty letters).print = before ++ word := by
  simp [Padded.print, Padded.ofRun]

theorem of_mem_readings_entryPattern (mem : r ∈ entryPattern.readings s) {before : List Char}
    (front : ∀ c ∈ before, isBlank c = true) :
    ∃ choice : PaddedChoice, before ++ r.covered = choice.print := by
  obtain ⟨_, first, _, behindName, rfl⟩ := Pattern.mem_readings_seq.mp mem
  obtain ⟨name, _, rfl, named, letters, rfl⟩ := Pattern.mem_readings_run.mp first
  obtain ⟨_, second, _, behindBlanks, rfl⟩ := Pattern.mem_readings_seq.mp behindName
  obtain ⟨between, _, rfl, blank, rfl⟩ := Pattern.mem_readings_many_one.mp second
  obtain ⟨_, third, _, behindSign, rfl⟩ := Pattern.mem_readings_seq.mp behindBlanks
  obtain ⟨_, rfl, rfl⟩ := Pattern.mem_readings_exactly.mp third
  obtain ⟨_, fourth, _, last, rfl⟩ := Pattern.mem_readings_seq.mp behindSign
  obtain ⟨between', _, rfl, blank', rfl⟩ := Pattern.mem_readings_many_one.mp fourth
  obtain ⟨value, _, rfl, valued, letters', rfl⟩ := Pattern.mem_readings_run.mp last
  refine ⟨.named ((Padded.ofRun before name front named letters).pad between blank)
    (.ofRun between' value blank' valued letters'), ?_⟩
  simp [PaddedChoice.print, Padded.print_pad, Padded.print_ofRun]

theorem of_mem_readings_choicePattern (mem : r ∈ choicePattern.readings s) :
    ∃ before, ∃ choice : PaddedChoice, r.covered = before ++ '|' :: choice.print ∧
      ∀ c ∈ before, isBlank c = true := by
  obtain ⟨_, first, _, behindBlanks, rfl⟩ := Pattern.mem_readings_seq.mp mem
  obtain ⟨before, _, rfl, blank, rfl⟩ := Pattern.mem_readings_many_one.mp first
  obtain ⟨_, second, _, behindBar, rfl⟩ := Pattern.mem_readings_seq.mp behindBlanks
  obtain ⟨_, rfl, rfl⟩ := Pattern.mem_readings_exactly.mp second
  obtain ⟨_, third, _, last, rfl⟩ := Pattern.mem_readings_seq.mp behindBar
  obtain ⟨front, _, rfl, blank', rfl⟩ := Pattern.mem_readings_many_one.mp third
  rcases Pattern.mem_readings_either.mp last with entry | word
  · obtain ⟨choice, written⟩ := of_mem_readings_entryPattern entry blank'
    exact ⟨before, choice, by simp [← written], blank⟩
  · obtain ⟨value, _, rfl, nonempty, letters, rfl⟩ := Pattern.mem_readings_run.mp word
    refine ⟨before, .bare (.ofRun front value blank' nonempty letters), ?_, blank⟩
    simp [PaddedChoice.print, Padded.print_ofRun]

/-- With the blanks behind it the text is blanks and options behind bars. -/
def AreOptions (blanks covered : List Char) : Prop :=
  ∃ after choices, covered ++ blanks = after ++ barred choices ∧ ∀ c ∈ after, isBlank c = true

theorem areOptions_nil {blanks : List Char} (blank : ∀ c ∈ blanks, isBlank c = true) :
    AreOptions blanks [] :=
  ⟨blanks, [], by simp [barred], blank⟩

/-- The blanks before an option belong to what stands before its bar. -/
theorem AreOptions.cons {blanks covered : List Char} (more : AreOptions blanks covered)
    (one : r ∈ choicePattern.readings s) : AreOptions blanks (r.covered ++ covered) := by
  obtain ⟨after, choices, written, blank⟩ := more
  obtain ⟨before, choice, first, front⟩ := of_mem_readings_choicePattern one
  refine ⟨before, choice.pad after blank :: choices, ?_, front⟩
  rw [first, List.append_assoc, written]
  simp [barred, PaddedChoice.print_pad]

theorem areOptions_of_mem_readings_many {blanks : List Char}
    (blank : ∀ c ∈ blanks, isBlank c = true)
    (mem : r ∈ (Pattern.many choicePattern).readings s) : AreOptions blanks r.covered :=
  Pattern.covered_of_mem_readings_many (AreOptions blanks) (areOptions_nil blank)
    (fun one more => more.cons one) mem

theorem areOptions_of_mem_readings_optionsPattern {blanks : List Char}
    (blank : ∀ c ∈ blanks, isBlank c = true) (mem : r ∈ optionsPattern.readings s) :
    AreOptions blanks r.covered := by
  rcases Pattern.mem_readings_either.mp mem with given | none
  · obtain ⟨_, kept, rfl⟩ := Pattern.mem_readings_keep.mp given
    obtain ⟨_, one, _, more, rfl⟩ := Pattern.mem_readings_seq.mp kept
    exact (areOptions_of_mem_readings_many blank more).cons one
  · obtain rfl := List.mem_singleton.mp none
    exact areOptions_nil blank

theorem exists_layout_of_mem_readings_requestPattern (mem : r ∈ requestPattern.readings s) :
    ∃ (l : RequestLayout) (rest : List Char), s = l.print ++ '}' :: '}' :: rest := by
  obtain ⟨_, first, _, behindBlanks, rfl⟩ := Pattern.mem_readings_seq.mp mem
  obtain ⟨before, _, rfl, front, rfl⟩ := Pattern.mem_readings_many_one.mp first
  obtain ⟨_, second, _, behindAttr, rfl⟩ := Pattern.mem_readings_seq.mp behindBlanks
  obtain ⟨_, kept, rfl⟩ := Pattern.mem_readings_keep.mp second
  obtain ⟨attr, behind, rfl, nonempty, letters, rfl⟩ := Pattern.mem_readings_run.mp kept
  obtain ⟨options, third, _, closing, rfl⟩ := Pattern.mem_readings_seq.mp behindAttr
  obtain ⟨_, fourth, _, last, rfl⟩ := Pattern.mem_readings_seq.mp closing
  obtain ⟨blanks, _, shape, blank, rfl⟩ := Pattern.mem_readings_many_one.mp fourth
  obtain ⟨rest, rfl, rfl⟩ := Pattern.mem_readings_exactly.mp last
  obtain ⟨after, choices, written, blank'⟩ :=
    areOptions_of_mem_readings_optionsPattern blank third
  have split : behind = options.covered ++ options.rest := Pattern.whole_of_mem_readings third
  refine ⟨⟨(Padded.ofRun before attr front nonempty letters).pad after blank', choices⟩, rest, ?_⟩
  rw [RequestLayout.print, Padded.print_pad, Padded.print_ofRun, split, shape]
  simp only [List.append_assoc, List.append_cancel_left_eq]
  rw [← List.append_assoc after, ← written]
  simp

/-- Where the pattern can be read at all, the text between two braces is a query, a bar and a
request. -/
theorem exists_layout_of_mem_readings (mem : r ∈ embedPattern.readings s) :
    ∃ subject, ∃ l : RequestLayout, ∃ rest,
      s = '{' :: '{' :: (subject ++ '|' :: (l.print ++ '}' :: '}' :: rest)) ∧
      subject ≠ [] ∧ ∀ c ∈ subject, inQuery c = true := by
  obtain ⟨query, inner, rfl, nonempty, queried, _, behind⟩ := of_mem_readings_opened mem
  obtain ⟨_, bar, _, asked, rfl⟩ := Pattern.mem_readings_seq.mp behind
  obtain ⟨_, rfl, rfl⟩ := Pattern.mem_readings_exactly.mp bar
  obtain ⟨l, rest, rfl⟩ := exists_layout_of_mem_readings_requestPattern asked
  exact ⟨query, l, rest, rfl, nonempty, queried⟩

/-! ## The preferred reading -/

/-- The text goes on with a further part, or closes. -/
def GoesOn (s : List Char) : Prop :=
  ∃ d tail, s = d :: tail ∧ (d = '|' ∨ d = '}')

/-- A word ends at blanks and at what goes on behind them. -/
theorem GoesOn.ends_isWord (goes : GoesOn s) {blanks : List Char}
    (blank : ∀ c ∈ blanks, isBlank c = true) : Pattern.Ends isWord (blanks ++ s) := by
  refine ends_isWord_blanks blank ?_
  obtain ⟨d, tail, rfl, rfl | rfl⟩ := goes
  all_goals exact Pattern.ends_cons (by decide) tail

theorem goesOn_barred (choices : List PaddedChoice) (tail : List Char) :
    GoesOn (barred choices ++ '}' :: tail) := by
  cases choices with
  | nil => exact ⟨'}', tail, rfl, Or.inr rfl⟩
  | cons choice choices => exact ⟨'|', _, rfl, Or.inl rfl⟩

/-- No equals sign comes behind a word and blanks if the text goes on there. -/
theorem readings_entryPattern_of_goesOn {word blanks : List Char}
    (letters : ∀ c ∈ word, isWord c = true) (blank : ∀ c ∈ blanks, isBlank c = true)
    (goes : GoesOn s) : entryPattern.readings (word ++ (blanks ++ s)) = [] := by
  rw [List.eq_nil_iff_forall_not_mem]
  intro r mem
  obtain ⟨_, first, _, behindName, rfl⟩ := Pattern.mem_readings_seq.mp mem
  obtain ⟨name, _, whole, -, letters', rfl⟩ := Pattern.mem_readings_run.mp first
  obtain ⟨_, second, _, behindBlanks, rfl⟩ := Pattern.mem_readings_seq.mp behindName
  obtain ⟨between, _, rfl, blank', rfl⟩ := Pattern.mem_readings_many_one.mp second
  obtain ⟨_, third, _, -, rfl⟩ := Pattern.mem_readings_seq.mp behindBlanks
  obtain ⟨tail, rfl, rfl⟩ := Pattern.mem_readings_exactly.mp third
  -- Both texts are cut at the first character that is no blank and stands in no word.
  let inside : Char → Bool := fun c => isWord c || isBlank c
  have covers {word blanks : List Char} (letters : ∀ c ∈ word, isWord c = true)
      (blank : ∀ c ∈ blanks, isBlank c = true) : ∀ c ∈ word ++ blanks, inside c = true := by
    intro c mem
    rcases List.mem_append.mp mem with mem | mem
    · simp [inside, letters c mem]
    · simp [inside, blank c mem]
  obtain ⟨d, behind, rfl, goes⟩ := goes
  have outside : inside d = false := by rcases goes with rfl | rfl <;> decide
  rw [← List.append_assoc, ← List.append_assoc] at whole
  have cut := congrArg (List.dropWhile inside) whole
  rw [dropWhile_run (covers letters blank) outside, List.singleton_append,
    dropWhile_run (covers letters' blank') (by decide)] at cut
  rcases goes with rfl | rfl
  all_goals exact absurd (List.cons.inj cut).1 (by decide)

theorem head?_entryPattern (name value : Padded IsWord) {tail : List Char}
    (ends : Pattern.Ends isWord tail) :
    (entryPattern.readings (name.text.toList ++ (name.after ++ '=' ::
      (value.before ++ (value.text.toList ++ tail))))).head? =
        some ⟨name.text.toList ++ (name.after ++ '=' :: (value.before ++ value.text.toList)), tail,
          []⟩ := by
  have equals : Pattern.Ends isWord (name.after ++ '=' ::
      (value.before ++ (value.text.toList ++ tail))) :=
    ends_isWord_blanks name.back (Pattern.ends_cons (by decide) _)
  have last := Pattern.head?_readings_seq_of_head?
    (Pattern.head?_readings_blanks (γ := Part) value.front (ends_isBlank_word value.fits tail))
    (head?_word value.fits ends)
  have sign := Pattern.head?_readings_seq_of_head?
    (Pattern.head?_readings_exactly (γ := Part) ['='] _) last
  have between := Pattern.head?_readings_seq_of_head?
    (Pattern.head?_readings_blanks (γ := Part) name.back (Pattern.ends_cons (by decide) _)) sign
  exact Pattern.head?_readings_seq_of_head? (head?_word name.fits equals) between

/-- An option is read up to the blanks behind it. -/
theorem head?_optionPattern (choice : PaddedChoice) (goes : GoesOn s) :
    (optionPattern.readings (choice.core ++ (choice.after ++ s))).head? =
      some ⟨choice.core, choice.after ++ s, []⟩ := by
  have ends := goes.ends_isWord choice.isBlank_of_mem_after
  cases choice with
  | bare value =>
      have front := Pattern.head?_readings_blanks (γ := Part) value.front
        (ends_isBlank_word value.fits (value.after ++ s))
      have stuck := readings_entryPattern_of_goesOn (fun _ mem => isWord_of_mem value.fits mem)
        value.back goes
      have word : ((Pattern.either entryPattern (.run isWord)).readings
          (value.text.toList ++ (value.after ++ s))).head? =
            some ⟨value.text.toList, value.after ++ s, []⟩ := by
        rw [Pattern.readings_either_right stuck]
        exact head?_word value.fits ends
      have read := Pattern.head?_readings_seq_of_head? front word
      rw [← List.append_assoc] at read
      exact read
  | named name value =>
      have front := Pattern.head?_readings_blanks (γ := Part) name.front
        (ends_isBlank_word name.fits (name.after ++ '=' ::
          (value.before ++ (value.text.toList ++ (value.after ++ s)))))
      have read := Pattern.head?_readings_seq_of_head? front
        (Pattern.head?_readings_either_left (q := .run isWord) (head?_entryPattern name value ends))
      simpa [optionPattern, PaddedChoice.core, PaddedChoice.after, Padded.core, Padded.print,
        Reading.andThen] using read

theorem head?_choicePattern (choice : PaddedChoice) {after : List Char}
    (blank : ∀ c ∈ after, isBlank c = true) (goes : GoesOn s) :
    (choicePattern.readings (after ++ '|' :: (choice.core ++ (choice.after ++ s)))).head? =
      some ⟨after ++ '|' :: choice.core, choice.after ++ s, []⟩ := by
  have bar : Pattern.Ends isBlank ('|' :: (choice.core ++ (choice.after ++ s))) :=
    Pattern.ends_cons (by decide) _
  have behindBar := Pattern.head?_readings_seq_of_head?
    (Pattern.head?_readings_exactly (γ := Part) ['|'] _) (head?_optionPattern choice goes)
  exact Pattern.head?_readings_seq_of_head?
    (Pattern.head?_readings_blanks (γ := Part) blank bar) behindBar

/-- No further option comes before the closing braces. -/
theorem readings_choicePattern_of_brace {after : List Char} (blank : ∀ c ∈ after, isBlank c = true)
    (tail : List Char) : choicePattern.readings (after ++ '}' :: tail) = [] := by
  rw [List.eq_nil_iff_forall_not_mem]
  intro r mem
  obtain ⟨before, choice, covered, front⟩ := of_mem_readings_choicePattern mem
  have whole := Pattern.whole_of_mem_readings mem
  rw [covered, List.append_assoc] at whole
  have cut := congrArg (List.dropWhile isBlank) whole
  rw [dropWhile_run blank (by decide), List.cons_append, dropWhile_run front (by decide)] at cut
  exact absurd (List.cons.inj cut).1 (by decide)

/-- The repetition goes on as long as there are options, and leaves the blanks behind the last. -/
theorem head?_readings_many_choicePattern (choices : List PaddedChoice) {after : List Char}
    (blank : ∀ c ∈ after, isBlank c = true) (tail : List Char) :
    ∃ raw trailing, after ++ barred choices = raw ++ trailing ∧
      (∀ c ∈ trailing, isBlank c = true) ∧
      ((Pattern.many choicePattern).readings (after ++ (barred choices ++ '}' :: tail))).head? =
        some ⟨raw, trailing ++ '}' :: tail, []⟩ := by
  induction choices generalizing after with
  | nil =>
      refine ⟨[], after, by simp [barred], blank, ?_⟩
      exact congrArg List.head?
        (Pattern.readings_many_of_stuck (readings_choicePattern_of_brace blank tail))
  | cons choice choices ih =>
      obtain ⟨raw, trailing, written, blank', read⟩ := ih choice.isBlank_of_mem_after
      have first := head?_choicePattern choice blank (goesOn_barred choices tail)
      have more := Pattern.head?_readings_many first (by simp) read
      refine ⟨(after ++ '|' :: choice.core) ++ raw, trailing, ?_, blank', ?_⟩
      · rw [barred_cons, List.append_assoc, ← written]
        simp
      · simpa [barred_cons, Reading.andThen] using more

/-- The options are kept up to the blanks behind the last of them. -/
theorem head?_optionsPattern (choices : List PaddedChoice) {after : List Char}
    (blank : ∀ c ∈ after, isBlank c = true) (tail : List Char) :
    ∃ raw trailing parts, after ++ barred choices = raw ++ trailing ∧
      (∀ c ∈ trailing, isBlank c = true) ∧ (parts = [(Part.options, raw)] ∨ parts = [] ∧ raw = []) ∧
      (optionsPattern.readings (after ++ (barred choices ++ '}' :: tail))).head? =
        some ⟨raw, trailing ++ '}' :: tail, parts⟩ := by
  cases choices with
  | nil =>
      refine ⟨[], after, [], by simp [barred], blank, Or.inr ⟨rfl, rfl⟩, ?_⟩
      have stuck := readings_choicePattern_of_brace blank tail
      have none : (Pattern.keep Part.options (.seq choicePattern (.many choicePattern))).readings
          (after ++ '}' :: tail) = [] := by
        simp only [Pattern.readings, stuck, List.flatMap_nil, List.map_nil]
      exact congrArg List.head? (Pattern.readings_either_right none)
  | cons choice choices =>
      obtain ⟨raw, trailing, written, blank', read⟩ :=
        head?_readings_many_choicePattern choices choice.isBlank_of_mem_after tail
      have first := head?_choicePattern choice blank (goesOn_barred choices tail)
      have all := Pattern.head?_readings_seq_of_head? first read
      have shape : after ++ (barred (choice :: choices) ++ '}' :: tail) =
          after ++ '|' :: (choice.core ++ (choice.after ++ (barred choices ++ '}' :: tail))) := by
        simp [barred_cons]
      refine ⟨(after ++ '|' :: choice.core) ++ raw, trailing, _, ?_, blank', Or.inl rfl, ?_⟩
      · rw [barred_cons, List.append_assoc, ← written]
        simp
      · rw [shape]
        refine Pattern.head?_readings_optional ?_
        rw [Pattern.head?_readings_keep, all]
        rfl

theorem head?_bracesPattern {blanks : List Char} (blank : ∀ c ∈ blanks, isBlank c = true)
    (rest : List Char) :
    (bracesPattern.readings (blanks ++ '}' :: '}' :: rest)).head? =
      some ⟨blanks ++ ['}', '}'], rest, []⟩ :=
  Pattern.head?_readings_seq_of_head?
    (Pattern.head?_readings_blanks (γ := Part) blank (Pattern.ends_cons (by decide) _))
    (Pattern.head?_readings_exactly ['}', '}'] rest)

/-- A request is read as it was written, and its options are kept. -/
theorem head?_requestPattern (l : RequestLayout) (rest : List Char) :
    ∃ raw parts, (parts = [(Part.options, raw)] ∨ parts = [] ∧ raw = []) ∧
      readOptions raw = l.options ∧
      (requestPattern.readings (l.print ++ '}' :: '}' :: rest)).head? =
        some ⟨l.print ++ ['}', '}'], rest, (.attr, l.attr.text.toList) :: parts⟩ := by
  obtain ⟨raw, trailing, parts, written, blank, kept, read⟩ :=
    head?_optionsPattern l.choices l.attr.back ('}' :: rest)
  refine ⟨raw, parts, kept, ?_, ?_⟩
  · rw [readOptions_of_barred l.attr.back blank written, collect_eq]
    rfl
  · have behind := Pattern.head?_readings_seq_of_head? read (head?_bracesPattern blank rest)
    have ends := (goesOn_barred l.choices ('}' :: rest)).ends_isWord l.attr.back
    have attr : ((Pattern.keep Part.attr (.run isWord)).readings (l.attr.text.toList ++
        (l.attr.after ++ (barred l.choices ++ '}' :: '}' :: rest)))).head? =
          some ⟨l.attr.text.toList, l.attr.after ++ (barred l.choices ++ '}' :: '}' :: rest),
            [(.attr, l.attr.text.toList)]⟩ := by
      rw [Pattern.head?_readings_keep, head?_word l.attr.fits ends]
      rfl
    have front := Pattern.head?_readings_blanks (γ := Part) l.attr.front
      (ends_isBlank_word l.attr.fits (l.attr.after ++ (barred l.choices ++ '}' :: '}' :: rest)))
    have all := Pattern.head?_readings_seq_of_head? front
      (Pattern.head?_readings_seq_of_head? attr behind)
    have text : l.print ++ '}' :: '}' :: rest = l.attr.before ++ (l.attr.text.toList ++
        (l.attr.after ++ (barred l.choices ++ '}' :: '}' :: rest))) := by
      simp [RequestLayout.print, Padded.print]
    have covered : l.print ++ ['}', '}'] =
        l.attr.before ++ (l.attr.text.toList ++ (raw ++ (trailing ++ ['}', '}']))) := by
      rw [← List.append_assoc raw, ← written]
      simp [RequestLayout.print, Padded.print]
    rw [text, covered]
    refine all.trans ?_
    simp [Reading.andThen]

/-- **The preferred reading of the pattern has the parts that were written.** -/
theorem head?_embedPattern {subject : List Char} (nonempty : subject ≠ [])
    (queried : ∀ c ∈ subject, inQuery c = true) (l : RequestLayout) (rest : List Char) :
    ∃ r, (embedPattern.readings
        ('{' :: '{' :: (subject ++ '|' :: (l.print ++ '}' :: '}' :: rest)))).head? = some r ∧
      r.covered = '{' :: '{' :: (subject ++ '|' :: (l.print ++ ['}', '}'])) ∧
      embedOf r = ⟨String.ofList r.covered, (splitHint subject).1, (splitHint subject).2,
        .embed l.attr.text l.options⟩ := by
  obtain ⟨raw, parts, kept, options, asked⟩ := head?_requestPattern l rest
  have bar := Pattern.head?_readings_exactly (γ := Part) ['|'] (l.print ++ '}' :: '}' :: rest)
  have behind := Pattern.head?_readings_seq_of_head? bar asked
  have ends : Pattern.Ends inQuery ('|' :: (l.print ++ '}' :: '}' :: rest)) :=
    Pattern.ends_cons (by decide) _
  have opening := Pattern.head?_readings_exactly (γ := Part) ['{', '{']
    (subject ++ '|' :: (l.print ++ '}' :: '}' :: rest))
  have attr := trim_of_isWordRun l.attr.fits
  rcases head?_readings_subject nonempty queried ends with
    ⟨word, query, hinted, read⟩ | ⟨unhinted, query, trims, read⟩
  · refine ⟨_, Pattern.head?_readings_seq_of_head? opening
      (Pattern.head?_readings_seq_of_head? read behind), by simp, ?_⟩
    obtain ⟨-, -, -, -, run, -⟩ := id hinted
    rw [splitHint_of_hinted hinted]
    rcases kept with rfl | ⟨rfl, rfl⟩
    all_goals
      simp [embedOf, Reading.part?, Reading.andThen, trimmed, trim_of_isWordRun run, attr, options]
  · refine ⟨_, Pattern.head?_readings_seq_of_head? opening
      (Pattern.head?_readings_seq_of_head? read behind), by simp, ?_⟩
    rw [splitHint_of_unhinted unhinted]
    rcases kept with rfl | ⟨rfl, rfl⟩
    all_goals simp [embedOf, Reading.part?, Reading.andThen, trimmed, trims, attr, options]

/-! ## What is recognized -/

/-- The whole of an embed. -/
def embedText (subject : List Char) (l : RequestLayout) : List Char :=
  '{' :: '{' :: (subject ++ '|' :: (l.print ++ ['}', '}']))

/-- An embed is recognized where a text between two braces is a query, a bar and a request. -/
theorem recognizeEmbed_embedText {subject : List Char} (nonempty : subject ≠ [])
    (queried : ∀ c ∈ subject, inQuery c = true) (l : RequestLayout) (rest : List Char) :
    recognizeEmbed (embedText subject l ++ rest) =
      some (⟨String.ofList (embedText subject l), (splitHint subject).1, (splitHint subject).2,
        .embed l.attr.text l.options⟩, (embedText subject l).length) := by
  have length : (embedText subject l).length = subject.length + l.print.length + 5 := by
    simp only [embedText, List.length_cons, List.length_append, List.length_nil]
    omega
  refine recognizeEmbed_eq_some_iff.mpr ⟨subject, l.print, rest, .embed l.attr.text l.options,
    by simp [embedText], nonempty, queried, l.brace_not_mem_print,
    embedRequest?_eq_some_iff.mpr ⟨l, rfl, rfl⟩, length, ?_⟩
  rw [List.take_left]

/-- **An embed is recognized where the pattern can be read, and as it is read**, with the options
split a second time. -/
theorem recognizeEmbed_eq_head? (s : List Char) :
    recognizeEmbed s =
      (embedPattern.readings s).head?.map fun r => (embedOf r, r.covered.length) := by
  have texts (subject : List Char) (l : RequestLayout) (rest : List Char) :
      '{' :: '{' :: (subject ++ '|' :: (l.print ++ '}' :: '}' :: rest)) =
        embedText subject l ++ rest := by simp [embedText]
  cases recognized : recognizeEmbed s with
  | none =>
      have none : embedPattern.readings s = [] := by
        rw [List.eq_nil_iff_forall_not_mem]
        intro r mem
        obtain ⟨subject, l, rest, rfl, nonempty, queried⟩ := exists_layout_of_mem_readings mem
        rw [texts, recognizeEmbed_embedText nonempty queried] at recognized
        cases recognized
      rw [none]
      rfl
  | some answer =>
      obtain ⟨m, size⟩ := answer
      obtain ⟨subject, tail, rest, request, rfl, nonempty, queried, -, asked, -, -⟩ :=
        recognizeEmbed_eq_some_iff.mp recognized
      obtain ⟨l, rfl, rfl⟩ := embedRequest?_eq_some_iff.mp asked
      obtain ⟨r, read, covered, embed⟩ := head?_embedPattern nonempty queried l rest
      rw [texts, recognizeEmbed_embedText nonempty queried] at recognized
      rw [read, Option.map_some, embed, ← recognized, covered]
      rfl

end Wikilink.Mention
