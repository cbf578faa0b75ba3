/-
# Proofs.Mention.Layout -- what an embed asks for, as it is written

What stands between the first bar of an embed and its closing braces is an attribute
and options, each behind a bar, with blanks around each word (`RequestLayout`).  A
text is read as a request exactly if it is written so, and the request is then the
attribute with the options in their order (`embedRequest?_eq_some_iff`): each part is
what is left of its text without the blanks, because no part contains the character
that ends it.
-/
import Mathlib.Data.List.Induction
import Wikilink.Mention.Embed
import Wikilink.Proofs.Text.Split
import Wikilink.Proofs.Text.Trim

namespace Wikilink.Mention

set_option autoImplicit false

open Text

/-! ## Parts and the blanks around them -/

/-- A text that satisfies `Fits`, between blanks. -/
structure Padded (Fits : String → Prop) where
  before : List Char
  text : String
  after : List Char
  front : ∀ c ∈ before, isBlank c = true
  fits : Fits text
  back : ∀ c ∈ after, isBlank c = true

/-- A word as it stands for an attribute or in an option. -/
def IsWord (s : String) : Prop :=
  isWordRun s.toList = true

namespace Padded

variable {Fits : String → Prop}

/-- The text with its blanks. -/
def print (p : Padded Fits) : List Char :=
  p.before ++ p.text.toList ++ p.after

/-- A text between spaces. -/
def spaced (before : Nat) (text : String) (after : Nat) (fits : Fits text) : Padded Fits where
  before := List.replicate before ' '
  text := text
  after := List.replicate after ' '
  front := fun _ mem => List.eq_of_mem_replicate mem ▸ rfl
  fits := fits
  back := fun _ mem => List.eq_of_mem_replicate mem ▸ rfl

theorem trim_print (p : Padded Fits) : trim p.print = trim p.text.toList :=
  trim_padded p.front p.back p.text.toList

theorem mem_print {p : Padded Fits} {c : Char} (mem : c ∈ p.print) :
    isBlank c = true ∨ c ∈ p.text.toList := by
  simp only [print, List.mem_append] at mem
  rcases mem with (mem | mem) | mem
  · exact Or.inl (p.front c mem)
  · exact Or.inr mem
  · exact Or.inl (p.back c mem)

/-- The characters around a word and in it. -/
theorem blank_or_word {p : Padded IsWord} {c : Char} (mem : c ∈ p.print) :
    isBlank c = true ∨ isWord c = true :=
  (mem_print mem).imp_right (isWord_of_mem p.fits)

/-- The text without the blanks behind it. -/
def core (p : Padded Fits) : List Char :=
  p.before ++ p.text.toList

theorem print_eq_core_append (p : Padded Fits) : p.print = p.core ++ p.after := rfl

/-- The text with further blanks behind it. -/
def pad (p : Padded Fits) (blanks : List Char) (blank : ∀ c ∈ blanks, isBlank c = true) :
    Padded Fits :=
  { p with
    after := p.after ++ blanks
    back := fun c mem => (List.mem_append.mp mem).elim (p.back c) (blank c) }

theorem print_pad (p : Padded Fits) {blanks : List Char} (blank : ∀ c ∈ blanks, isBlank c = true) :
    (p.pad blanks blank).print = p.print ++ blanks := by
  simp [print, pad]

theorem equalsless (p : Padded IsWord) : '=' ∉ p.print := fun mem =>
  absurd (blank_or_word mem) (by decide)

theorem trim_word (p : Padded IsWord) : trim p.print = p.text.toList := by
  rw [trim_print, trim_of_isWordRun p.fits]

end Padded

/-- A text is read as a word exactly if it is a word between blanks. -/
theorem word?_eq_some_iff {s : List Char} {word : String} :
    word? s = some word ↔ ∃ p : Padded IsWord, p.print = s ∧ p.text = word := by
  constructor
  · intro read
    rw [word?] at read
    split at read
    · rename_i run
      obtain ⟨before, after, whole, front, back⟩ := exists_padding s
      refine ⟨⟨before, trimmed s, after, front, ?_, back⟩, ?_, Option.some.inj read⟩
      · rwa [IsWord, trimmed, String.toList_ofList]
      · show before ++ (trimmed s).toList ++ after = s
        rw [trimmed, String.toList_ofList]
        exact whole.symm
    · cases read
  · rintro ⟨p, rfl, rfl⟩
    have run : isWordRun p.text.toList = true := p.fits
    rw [word?, trimmed, p.trim_word, if_pos run, String.ofList_toList]

theorem word?_print (p : Padded IsWord) : word? p.print = some p.text :=
  word?_eq_some_iff.mpr ⟨p, rfl, rfl⟩

/-! ## Options -/

/-- An option with the blanks in it. -/
inductive PaddedChoice where
  | bare (value : Padded IsWord)
  | named (name value : Padded IsWord)

namespace PaddedChoice

def print : PaddedChoice → List Char
  | bare value => value.print
  | named name value => name.print ++ '=' :: value.print

/-- The option without the blanks behind it. -/
def core : PaddedChoice → List Char
  | bare value => value.core
  | named name value => name.print ++ '=' :: value.core

/-- The blanks behind the option. -/
def after : PaddedChoice → List Char
  | bare value => value.after
  | named _ value => value.after

theorem print_eq_core_append (p : PaddedChoice) : p.print = p.core ++ p.after := by
  cases p with
  | bare value => exact value.print_eq_core_append
  | named name value => simp [print, core, after, Padded.print_eq_core_append]

theorem isBlank_of_mem_after (p : PaddedChoice) : ∀ c ∈ p.after, isBlank c = true := by
  cases p with
  | bare value => exact value.back
  | named name value => exact value.back

/-- The option with further blanks behind it. -/
def pad (p : PaddedChoice) (blanks : List Char) (blank : ∀ c ∈ blanks, isBlank c = true) :
    PaddedChoice :=
  match p with
  | bare value => bare (value.pad blanks blank)
  | named name value => named name (value.pad blanks blank)

theorem print_pad (p : PaddedChoice) {blanks : List Char}
    (blank : ∀ c ∈ blanks, isBlank c = true) : (p.pad blanks blank).print = p.print ++ blanks := by
  cases p with
  | bare value => exact value.print_pad blank
  | named name value => simp [pad, print, Padded.print_pad]

/-- The option without the blanks. -/
def choice : PaddedChoice → Choice
  | bare value => .bare value.text
  | named name value => .named name.text value.text

theorem mem_print {p : PaddedChoice} {c : Char} (mem : c ∈ p.print) :
    c = '=' ∨ isBlank c = true ∨ isWord c = true := by
  cases p with
  | bare value => exact Or.inr (Padded.blank_or_word mem)
  | named name value =>
      rcases List.mem_append.mp mem with mem | mem
      · exact Or.inr (Padded.blank_or_word mem)
      · exact (List.mem_cons.mp mem).imp_right Padded.blank_or_word

end PaddedChoice

/-- A text is read as an option exactly if it is one with blanks in it. -/
theorem choice?_eq_some_iff {s : List Char} {choice : Choice} :
    choice? s = some choice ↔ ∃ p : PaddedChoice, p.print = s ∧ p.choice = choice := by
  constructor
  · intro read
    rw [choice?] at read
    split at read
    · obtain ⟨word, value, rfl⟩ := Option.map_eq_some_iff.mp read
      obtain ⟨p, rfl, rfl⟩ := word?_eq_some_iff.mp value
      exact ⟨.bare p, rfl, rfl⟩
    · rename_i front back found
      obtain ⟨rfl, -⟩ := splitOnce?_eq_some_iff.mp found
      obtain ⟨_, name, rest⟩ := Option.bind_eq_some_iff.mp read
      obtain ⟨_, value, made⟩ := Option.bind_eq_some_iff.mp rest
      obtain ⟨p, rfl, rfl⟩ := word?_eq_some_iff.mp name
      obtain ⟨q, rfl, rfl⟩ := word?_eq_some_iff.mp value
      exact ⟨.named p q, rfl, Option.some.inj made⟩
  · rintro ⟨p, rfl, rfl⟩
    cases p with
    | bare value =>
        rw [choice?, PaddedChoice.print, splitOnce?_eq_none_iff.mpr value.equalsless]
        simp only [word?_print]
        rfl
    | named name value =>
        rw [choice?, PaddedChoice.print, splitOnce?_append name.equalsless]
        simp only [word?_print]
        rfl

theorem mapM_choice?_eq_some_iff {parts : List (List Char)} {choices : List Choice} :
    parts.mapM choice? = some choices ↔
      ∃ ps : List PaddedChoice, ps.map PaddedChoice.print = parts ∧
        ps.map PaddedChoice.choice = choices := by
  induction parts generalizing choices with
  | nil =>
      rw [List.mapM_nil]
      simp only [List.map_eq_nil_iff, exists_eq_left, List.map_nil]
      exact ⟨fun read => Option.some.inj read, fun none => congrArg some none⟩
  | cons part parts ih =>
      constructor
      · intro read
        rw [List.mapM_cons] at read
        obtain ⟨first, one, rest⟩ := Option.bind_eq_some_iff.mp read
        obtain ⟨others, more, made⟩ := Option.bind_eq_some_iff.mp rest
        obtain ⟨p, rfl, rfl⟩ := choice?_eq_some_iff.mp one
        obtain ⟨ps, rfl, rfl⟩ := ih.mp more
        exact ⟨p :: ps, rfl, Option.some.inj made⟩
      · rintro ⟨ps, prints, rfl⟩
        obtain ⟨p, ps, rfl, rfl, rfl⟩ := List.map_eq_cons_iff.mp prints
        rw [List.mapM_cons, choice?_eq_some_iff.mpr ⟨p, rfl, rfl⟩, ih.mpr ⟨ps, rfl, rfl⟩]
        rfl

/-- The value of a bare option. -/
def Choice.value? : Choice → Option String
  | bare value => some value
  | named _ _ => none

/-- The name and the value of a named option. -/
def Choice.entry? : Choice → Option (String × String)
  | bare _ => none
  | named name value => some (name, value)

theorem collect_concat_bare (choices : List Choice) (value : String) :
    collect (choices ++ [.bare value]) =
      { collect choices with positional := (collect choices).positional ++ [value] } := by
  rw [collect, List.foldl_append]
  rfl

theorem collect_concat_named (choices : List Choice) (name value : String) :
    collect (choices ++ [.named name value]) =
      { collect choices with named := (collect choices).named.insert name value } := by
  rw [collect, List.foldl_append]
  rfl

/-- The bare options stay in their order; the named ones make a table. -/
theorem collect_eq (choices : List Choice) :
    collect choices =
      ⟨choices.filterMap Choice.value?, .ofList (choices.filterMap Choice.entry?)⟩ := by
  induction choices using List.reverseRecOn with
  | nil => rfl
  | append_singleton choices choice ih =>
      rw [List.filterMap_append, List.filterMap_append]
      cases choice with
      | bare value =>
          rw [collect_concat_bare, ih]
          simp only [List.filterMap_cons, Choice.value?, Choice.entry?, List.filterMap_nil,
            List.append_nil]
      | named name value =>
          rw [collect_concat_named, ih]
          simp only [List.filterMap_cons, Choice.value?, Choice.entry?, List.filterMap_nil,
            List.append_nil, Table.ofList, List.foldl_append, List.foldl_cons, List.foldl_nil]

/-! ## Requests -/

/-- The options, each behind a bar. -/
def barred (choices : List PaddedChoice) : List Char :=
  choices.flatMap fun choice => '|' :: choice.print

theorem barred_cons (choice : PaddedChoice) (choices : List PaddedChoice) :
    barred (choice :: choices) = '|' :: (choice.core ++ (choice.after ++ barred choices)) := by
  simp [barred, PaddedChoice.print_eq_core_append]

/-- An attribute and options with the blanks around them. -/
structure RequestLayout where
  attr : Padded IsWord
  choices : List PaddedChoice

namespace RequestLayout

/-- What stands between the first bar and the closing braces. -/
def print (l : RequestLayout) : List Char :=
  l.attr.print ++ barred l.choices

/-- The bare options. -/
def values (l : RequestLayout) : List String :=
  (l.choices.map PaddedChoice.choice).filterMap Choice.value?

/-- The names and values of the named options. -/
def entries (l : RequestLayout) : List (String × String) :=
  (l.choices.map PaddedChoice.choice).filterMap Choice.entry?

/-- The options. -/
def options (l : RequestLayout) : EmbedOptions :=
  ⟨l.values, .ofList l.entries⟩

def parts (l : RequestLayout) : List (List Char) :=
  l.attr.print :: l.choices.map PaddedChoice.print

theorem join_parts (l : RequestLayout) : join '|' l.parts = l.print := by
  rw [parts, print]
  generalize l.attr.print = first
  induction l.choices generalizing first with
  | nil => simp [barred, join]
  | cons choice choices ih =>
      rw [List.map_cons, join_cons (by simp), ih]
      rfl

theorem mem_part {l : RequestLayout} {part : List Char} (mem : part ∈ l.parts) {c : Char}
    (inside : c ∈ part) : c = '=' ∨ isBlank c = true ∨ isWord c = true := by
  rcases List.mem_cons.mp mem with rfl | mem
  · exact Or.inr (Padded.blank_or_word inside)
  · obtain ⟨choice, -, rfl⟩ := List.mem_map.mp mem
    exact PaddedChoice.mem_print inside

theorem split_print (l : RequestLayout) : split '|' l.print = l.parts := by
  rw [← l.join_parts]
  exact split_join (List.cons_ne_nil _ _) fun part inside mem =>
    absurd (mem_part inside mem) (by decide)

/-- The characters of a request. -/
theorem mem_print {l : RequestLayout} {c : Char} (mem : c ∈ l.print) :
    c = '|' ∨ c = '=' ∨ isBlank c = true ∨ isWord c = true := by
  rw [← l.join_parts] at mem
  rcases mem_join mem with bar | ⟨part, inside, mem⟩
  · exact Or.inl bar
  · exact Or.inr (mem_part inside mem)

/-- No brace closes an embed early. -/
theorem brace_not_mem_print (l : RequestLayout) : '}' ∉ l.print := fun mem =>
  absurd (mem_print mem) (by decide)

/-- No bracket stands in a request. -/
theorem bracket_not_mem_print (l : RequestLayout) : ']' ∉ l.print := fun mem =>
  absurd (mem_print mem) (by decide)

end RequestLayout

/-- **A text is read as a request exactly if it is an attribute and options behind bars.** -/
theorem embedRequest?_eq_some_iff {s : List Char} {request : Request} :
    embedRequest? s = some request ↔
      ∃ l : RequestLayout, s = l.print ∧ request = .embed l.attr.text l.options := by
  constructor
  · intro read
    have whole := join_split '|' s
    rw [embedRequest?] at read
    split at read
    · cases read
    · rename_i first others parts
      obtain ⟨_, attr, rest⟩ := Option.bind_eq_some_iff.mp read
      obtain ⟨_, choices, made⟩ := Option.bind_eq_some_iff.mp rest
      obtain ⟨p, rfl, rfl⟩ := word?_eq_some_iff.mp attr
      obtain ⟨ps, rfl, rfl⟩ := mapM_choice?_eq_some_iff.mp choices
      refine ⟨⟨p, ps⟩, ?_, ?_⟩
      · rw [← whole, parts]
        exact RequestLayout.join_parts ⟨p, ps⟩
      · rw [← Option.some.inj made, collect_eq]
        rfl
  · rintro ⟨l, rfl, rfl⟩
    have choices := mapM_choice?_eq_some_iff.mpr ⟨l.choices, rfl, rfl⟩
    rw [embedRequest?, l.split_print]
    simp only [RequestLayout.parts, word?_print, choices, collect_eq]
    rfl

end Wikilink.Mention
