/-
# Proofs.Mention.LinkReading -- a link is split in one pass

As a pattern a link is two brackets, blanks, a hint if there is one, a query, a label
behind a bar if there is one, blanks and two brackets.  Blanks fit three of these
parts and a word or an arrow two, so there are many readings.  All of them end at the
first closing bracket, and the preferred one is what one pass over the text finds:
the text up to that bracket, cut at its first bar (`recognizeLink_eq_head?`).
-/
import Wikilink.Proofs.Mention.Forms
import Wikilink.Proofs.Mention.Subject

namespace Wikilink.Mention

set_option autoImplicit false

open Text

/-! ## The pattern -/

/-- A bar and a label. -/
def labelPattern : Pattern Part :=
  .seq (.exactly ['|']) (.keep .label (.run (· ≠ ']')))

/-- Blanks and the closing brackets. -/
def bracketsPattern : Pattern Part :=
  .seq .blanks (.exactly [']', ']'])

/-- A link. -/
def linkPattern : Pattern Part :=
  .seq (.exactly ['[', '[']) (.seq subjectPattern (.seq (.optional labelPattern) bracketsPattern))

/-- The link of a reading: the parts without the blanks around them. -/
def linkOf (r : Reading Part) : Mention where
  fullText := String.ofList r.covered
  typeHint := (r.part? .hint).map trimmed
  query := trimmed ((r.part? .query).getD [])
  request := .link ((r.part? .label).map trimmed)

variable {s content rest subject : List Char} {label : Option (List Char)} {r : Reading Part}

/-! ## Every reading is a link -/

theorem of_mem_readings_bracketsPattern (mem : r ∈ bracketsPattern.readings s) :
    ∃ blanks rest, s = blanks ++ ']' :: ']' :: rest ∧ ∀ c ∈ blanks, isBlank c = true := by
  obtain ⟨_, first, _, second, rfl⟩ := Pattern.mem_readings_seq.mp mem
  obtain ⟨blanks, _, rfl, blank, rfl⟩ := Pattern.mem_readings_many_one.mp first
  obtain ⟨rest, rfl, rfl⟩ := Pattern.mem_readings_exactly.mp second
  exact ⟨blanks, rest, rfl, blank⟩

theorem of_mem_readings_labelPattern (mem : r ∈ labelPattern.readings s) :
    ∃ label, s = '|' :: (label ++ r.rest) ∧ label ≠ [] ∧ ']' ∉ label := by
  obtain ⟨_, bar, _, named, rfl⟩ := Pattern.mem_readings_seq.mp mem
  obtain ⟨_, rfl, rfl⟩ := Pattern.mem_readings_exactly.mp bar
  obtain ⟨_, shown, rfl⟩ := Pattern.mem_readings_keep.mp named
  obtain ⟨label, _, rfl, some, inside, rfl⟩ := Pattern.mem_readings_run.mp shown
  exact ⟨label, rfl, some, fun mem => by simpa using inside _ mem⟩

/-- Where the pattern can be read at all, a link is recognized. -/
theorem exists_content_of_mem_readings (mem : r ∈ linkPattern.readings s) :
    ∃ content rest subject label, s = '[' :: '[' :: (content ++ ']' :: ']' :: rest) ∧
      ']' ∉ content ∧ LinkContent content subject label := by
  obtain ⟨query, inner, rfl, nonempty, queried, _, behind⟩ := of_mem_readings_opened mem
  obtain ⟨bracketless, barless⟩ := not_mem_of_inQuery queried
  obtain ⟨labelled, optional, _, closing, rfl⟩ := Pattern.mem_readings_seq.mp behind
  obtain ⟨blanks, rest, closes, blank⟩ := of_mem_readings_bracketsPattern closing
  obtain ⟨blankBracketless, blankBarless⟩ :=
    not_mem_of_inQuery fun c mem => inQuery_of_isBlank (blank c mem)
  rcases Pattern.mem_readings_either.mp optional with given | none
  · obtain ⟨label, starts, some, labelBracketless⟩ := of_mem_readings_labelPattern given
    refine ⟨query ++ '|' :: (label ++ blanks), rest, query, label ++ blanks, ?_, ?_,
      .labelled nonempty barless (by simp [some])⟩
    · simp [starts, closes]
    · simp [bracketless, blankBracketless, labelBracketless]
  · obtain rfl := List.mem_singleton.mp none
    simp only at closes
    refine ⟨query ++ blanks, rest, query ++ blanks, .none, ?_, ?_,
      .bare (by simp [nonempty]) (by simp [barless, blankBarless])⟩
    · simp [closes]
    · simp [bracketless, blankBracketless]

/-! ## The preferred reading -/

theorem head?_bracketsPattern (rest : List Char) :
    (bracketsPattern.readings (']' :: ']' :: rest)).head? = some ⟨[']', ']'], rest, []⟩ := by
  have stops : Pattern.Ends isBlank (']' :: ']' :: rest) := Pattern.ends_cons (by decide) _
  have none : ∀ c ∈ ([] : List Char), isBlank c = true := by simp
  exact Pattern.head?_readings_seq_of_head? (Pattern.head?_readings_blanks (γ := Part) none stops)
    (Pattern.head?_readings_exactly [']', ']'] rest)

/-- Behind the query stand the label, if there is one, and the closing brackets. -/
theorem exists_behind_subject (bracketless : ']' ∉ content)
    (made : LinkContent content subject label) (rest : List Char) :
    ∃ closing, content ++ [']', ']'] = subject ++ closing ∧
      (∀ c ∈ subject, inQuery c = true) ∧ subject ≠ [] ∧ Pattern.Ends inQuery (closing ++ rest) ∧
      ((Pattern.seq (.optional labelPattern) bracketsPattern).readings (closing ++ rest)).head? =
        some ⟨closing, rest, label.toList.map fun text => (.label, text)⟩ := by
  cases made with
  | bare nonempty barless =>
      refine ⟨[']', ']'], rfl, inQuery_of_not_mem bracketless barless, nonempty,
        Pattern.ends_cons (by decide) _, ?_⟩
      have order : (Pattern.optional labelPattern).readings (']' :: ']' :: rest) =
          [] ++ ⟨[], ']' :: ']' :: rest, []⟩ :: [] := by
        simp [Pattern.readings_optional, labelPattern, Pattern.exactly, Pattern.readings]
      exact Pattern.head?_readings_seq order (by simp) (head?_bracketsPattern rest)
  | @labelled query text nonempty barless shown =>
      simp only [List.mem_append, List.mem_cons, not_or] at bracketless
      refine ⟨'|' :: (text ++ [']', ']']), by simp, inQuery_of_not_mem bracketless.1 barless,
        nonempty, Pattern.ends_cons (by decide) _, ?_⟩
      have inside := Text.forall_ne_of_not_mem bracketless.2.2
      have stops : Pattern.Ends (· ≠ ']') (']' :: ']' :: rest) := Pattern.ends_cons (by decide) _
      have named : ((Pattern.keep Part.label (.run (· ≠ ']'))).readings
          (text ++ ']' :: ']' :: rest)).head? =
            some ⟨text, ']' :: ']' :: rest, [(.label, text)]⟩ := by
        rw [Pattern.head?_readings_keep, Pattern.head?_readings_run shown inside stops]
        rfl
      have given : (labelPattern.readings ('|' :: (text ++ ']' :: ']' :: rest))).head? =
          some ⟨'|' :: text, ']' :: ']' :: rest, [(.label, text)]⟩ :=
        Pattern.head?_readings_seq_of_head? (Pattern.head?_readings_exactly ['|'] _) named
      have read := Pattern.head?_readings_seq_of_head? (Pattern.head?_readings_optional given)
        (head?_bracketsPattern rest)
      have same : '|' :: (text ++ [']', ']']) ++ rest = '|' :: (text ++ ']' :: ']' :: rest) := by
        simp
      rw [same]
      exact read

/-- **The preferred reading of the pattern is the link that one pass finds.** -/
theorem head?_linkPattern (bracketless : ']' ∉ content)
    (made : LinkContent content subject label) (rest : List Char) :
    ∃ r, (linkPattern.readings ('[' :: '[' :: (content ++ ']' :: ']' :: rest))).head? = some r ∧
      r.covered = '[' :: '[' :: (content ++ [']', ']']) ∧
      linkOf r = ⟨String.ofList r.covered, (splitHint subject).1, (splitHint subject).2,
        .link (label.map trimmed)⟩ := by
  obtain ⟨closing, split, queried, nonempty, ends, behind⟩ :=
    exists_behind_subject bracketless made rest
  have opening :=
    Pattern.head?_readings_exactly (γ := Part) ['[', '['] (subject ++ (closing ++ rest))
  have same : '[' :: '[' :: (content ++ ']' :: ']' :: rest) =
      ['[', '['] ++ (subject ++ (closing ++ rest)) := by
    rw [← List.append_assoc subject, ← split]
    simp
  rw [same]
  rcases head?_readings_subject nonempty queried ends with
    ⟨word, query, hinted, read⟩ | ⟨unhinted, query, trims, read⟩
  · refine ⟨_, Pattern.head?_readings_seq_of_head? opening
      (Pattern.head?_readings_seq_of_head? read behind), ?_, ?_⟩
    · simp [split]
    · obtain ⟨-, -, -, -, run, -⟩ := id hinted
      rw [splitHint_of_hinted hinted]
      cases label <;> simp [linkOf, Reading.part?, Reading.andThen, trimmed, trim_of_isWordRun run]
  · refine ⟨_, Pattern.head?_readings_seq_of_head? opening
      (Pattern.head?_readings_seq_of_head? read behind), ?_, ?_⟩
    · simp [split]
    · rw [splitHint_of_unhinted unhinted]
      cases label <;> simp [linkOf, Reading.part?, Reading.andThen, trimmed, trims]

/-- A link is recognized where the pattern can be read, and as it is read. -/
theorem recognizeLink_eq_head? (s : List Char) :
    recognizeLink s = (linkPattern.readings s).head?.map fun r => (linkOf r, r.covered.length) := by
  cases recognized : recognizeLink s with
  | none =>
      have none : linkPattern.readings s = [] := by
        rw [List.eq_nil_iff_forall_not_mem]
        intro r mem
        obtain ⟨content, rest, subject, label, whole, bracketless, made⟩ :=
          exists_content_of_mem_readings mem
        have found := recognizeLink_eq_some_iff.mpr
          ⟨content, rest, subject, label, whole, bracketless, made, rfl, rfl⟩
        rw [recognized] at found
        cases found
      rw [none]
      rfl
  | some answer =>
      obtain ⟨m, size⟩ := answer
      obtain ⟨content, rest, subject, label, rfl, bracketless, made, rfl, rfl⟩ :=
        recognizeLink_eq_some_iff.mp recognized
      obtain ⟨r, read, covered, link⟩ := head?_linkPattern bracketless made rest
      rw [read, Option.map_some, link, take_link, covered]
      simp

/-! ## The one-pass split -/

/-- A text that begins with a link: what stands before the next closing bracket, which is doubled,
is the query, or the query, a bar and the label. -/
structure LinkSplit (text content rest query : List Char) (label : Option (List Char)) : Prop where
  whole : text = '[' :: '[' :: (content ++ ']' :: ']' :: rest)
  bracketless : ']' ∉ content
  made : LinkContent content query label

theorem LinkSplit.recognized {text content rest query : List Char} {label : Option (List Char)}
    (split : LinkSplit text content rest query label) :
    recognizeLink text = some (⟨String.ofList ('[' :: '[' :: (content ++ [']', ']'])),
      (splitHint query).1, (splitHint query).2, .link (label.map trimmed)⟩,
        content.length + 4) := by
  refine recognizeLink_eq_some_iff.mpr
    ⟨content, rest, query, label, split.whole, split.bracketless, split.made, rfl, ?_⟩
  rw [split.whole, take_link]

/-- **A link is split in one pass.**  What the pattern prefers to read is what is read; there is a
link at the start of a text exactly if the text can be split; and the parts of the link are those
of the split, with the hint that the text before the first bar gives. -/
theorem parse?_link_split (text : String) :
    Form.link.parse? text = (linkPattern.readings text.toList).head?.map linkOf ∧
    (Form.link.parse? text ≠ none ↔
      ∃ content rest query label, LinkSplit text.toList content rest query label) ∧
    ∀ content rest query label, LinkSplit text.toList content rest query label →
      ∃ m, Form.link.parse? text = some m ∧
        m.fullText = String.ofList ('[' :: '[' :: (content ++ [']', ']'])) ∧
        m.request = .link (label.map trimmed) ∧
        (∀ word behind, Hinted query word behind →
          m.typeHint = some (String.ofList word) ∧ m.query = trimmed behind) ∧
        ((∀ word behind, ¬ Hinted query word behind) →
          m.typeHint = none ∧ m.query = trimmed query) := by
  have read : Form.link.parse? text = (linkPattern.readings text.toList).head?.map linkOf := by
    show (recognizeLink text.toList).map Prod.fst = _
    rw [recognizeLink_eq_head?, Option.map_map]
    rfl
  refine ⟨read, ⟨fun parsed => ?defined, ?undefined⟩, fun content rest query label split => ?parts⟩
  case defined =>
    cases recognized : recognizeLink text.toList with
    | none => exact absurd (congrArg (Option.map Prod.fst) recognized) parsed
    | some answer =>
        obtain ⟨content, rest, query, label, whole, bracketless, made, -⟩ :=
          recognizeLink_eq_some_iff.mp recognized
        exact ⟨content, rest, query, label, whole, bracketless, made⟩
  case undefined =>
    rintro ⟨content, rest, query, label, split⟩
    show (recognizeLink text.toList).map Prod.fst ≠ none
    rw [split.recognized]
    simp
  case parts =>
    refine ⟨_, congrArg (Option.map Prod.fst) split.recognized, rfl, rfl, ?_, ?_⟩
    · intro word behind hinted
      rw [splitHint_of_hinted hinted]
      exact ⟨rfl, rfl⟩
    · intro unhinted
      rw [splitHint_of_unhinted unhinted]
      exact ⟨rfl, rfl⟩

end Wikilink.Mention
