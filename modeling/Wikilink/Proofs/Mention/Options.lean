/-
# Proofs.Mention.Options -- options split a second time

Where a pattern finds options it keeps them as one text, and that text is taken apart
a second time, by other rules: bars and blanks around it are dropped, parts of blanks
are passed over, and a part comes apart at its first equals sign (`readOptions`).
Bars and blanks around the text do not show in its parts (`solidParts_trimBars`), so
what is read is what was written (`readOptions_of_barred`).
-/
import Wikilink.Proofs.Mention.Layout

namespace Wikilink.Mention

set_option autoImplicit false

open Text

/-! ## The second split -/

/-- Whether a character is dropped around the text of the options. -/
def isAround (c : Char) : Bool :=
  c = '|' || isBlank c

/-- The text without the bars and the blanks around it. -/
def trimBars (s : List Char) : List Char :=
  ((s.dropWhile isAround).reverse.dropWhile isAround).reverse

/-- The parts between the bars without the blanks around them; parts of blanks are left out. -/
def solidParts (s : List Char) : List (List Char) :=
  ((split '|' s).map trim).filter (· ≠ [])

/-- The option that a part stands for. -/
def readChoice (part : List Char) : Choice :=
  match splitOnce? '=' part with
  | none => .bare (String.ofList part)
  | some (name, value) => .named (trimmed name) (trimmed value)

/-- The options of a text. -/
def readOptions (s : List Char) : EmbedOptions :=
  collect ((solidParts (trimBars s)).map readChoice)

/-! ## Parts -/

variable {s part : List Char} {c : Char}

theorem solidParts_append (barless : '|' ∉ part) (s : List Char) :
    solidParts (part ++ '|' :: s) = solidParts part ++ solidParts s := by
  simp only [solidParts, split_append barless, split_of_not_mem barless, List.map_cons,
    List.map_nil, ← List.filter_append, List.singleton_append]

theorem solidParts_of_blanks (blanks : ∀ c ∈ s, isBlank c = true) : solidParts s = [] := by
  have barless : '|' ∉ s := fun mem => absurd (blanks _ mem) (by decide)
  simp [solidParts, split_of_not_mem barless, trim_of_blanks blanks]

theorem solidParts_of_solid (barless : '|' ∉ part) (solid : trim part ≠ []) :
    solidParts part = [trim part] := by
  simp [solidParts, split_of_not_mem barless, solid]

/-- A bar or a blank in front does not show. -/
theorem solidParts_cons (around : isAround c = true) (s : List Char) :
    solidParts (c :: s) = solidParts s := by
  by_cases bar : c = '|'
  · subst bar
    have first : solidParts ('|' :: s) = solidParts [] ++ solidParts s :=
      solidParts_append List.not_mem_nil s
    rwa [solidParts_of_blanks (s := []) (by simp)] at first
  · have blank : isBlank c = true := by simpa [isAround, bar] using around
    have blanks : ∀ d ∈ [c], isBlank d = true := by simpa using blank
    obtain ⟨part, parts, shape⟩ := List.exists_cons_of_ne_nil (@split_ne_nil '|' s)
    have same : trim (c :: part) = trim part := trim_blanks_append blanks part
    simp only [solidParts, split_cons_other bar shape, shape, List.map_cons, same]

/-- A bar or a blank at the end does not show. -/
theorem solidParts_concat (around : isAround c = true) (s : List Char) :
    solidParts (s ++ [c]) = solidParts s := by
  induction length : s.length using Nat.strongRecOn generalizing s with
  | ind n ih =>
    rcases split_cases '|' s with ⟨barless, -⟩ | ⟨part, rest, rfl, barless, -⟩
    · by_cases bar : c = '|'
      · rw [bar, solidParts_append barless, solidParts_of_blanks (s := []) (by simp),
          List.append_nil]
      · have blank : isBlank c = true := by simpa [isAround, bar] using around
        have barless' : '|' ∉ s ++ [c] := by simp [barless, Ne.symm bar]
        have none : ∀ d ∈ ([] : List Char), isBlank d = true := by simp
        have blanks : ∀ d ∈ [c], isBlank d = true := by simpa using blank
        have same : trim (s ++ [c]) = trim s := trim_padded none blanks s
        simp only [solidParts, split_of_not_mem barless, split_of_not_mem barless', List.map_cons,
          same]
    · have shorter : rest.length < n := by
        rw [← length, List.length_append, List.length_cons]
        omega
      rw [List.append_assoc, List.cons_append, solidParts_append barless,
        solidParts_append barless, ih rest.length shorter rest rfl]

theorem solidParts_append_around {tail : List Char} (around : ∀ c ∈ tail, isAround c = true)
    (s : List Char) : solidParts (s ++ tail) = solidParts s := by
  induction tail generalizing s with
  | nil => rw [List.append_nil]
  | cons c tail ih =>
      rw [List.append_cons, ih (fun d mem => around d (by simp [mem])),
        solidParts_concat (around c (by simp))]

/-- **Dropping the bars and blanks around a text leaves its parts as they are.** -/
theorem solidParts_trimBars (s : List Char) : solidParts (trimBars s) = solidParts s := by
  have front : solidParts (s.dropWhile isAround) = solidParts s := by
    induction s with
    | nil => rfl
    | cons c s ih =>
        cases around : isAround c with
        | true => rw [List.dropWhile_cons_of_pos around, ih, solidParts_cons around]
        | false => rw [List.dropWhile_cons_of_neg (by simp [around])]
  have whole := List.takeWhile_append_dropWhile (p := isAround)
    (l := (s.dropWhile isAround).reverse)
  have split := congrArg List.reverse whole
  rw [List.reverse_append, List.reverse_reverse] at split
  have around : ∀ c ∈ ((s.dropWhile isAround).reverse.takeWhile isAround).reverse,
      isAround c = true := fun c mem => List.mem_takeWhile_imp (List.mem_reverse.mp mem)
  rw [← front, ← split, solidParts_append_around around]
  rfl

/-! ## What was written -/

/-- A part comes apart at the equals sign that it was written with. -/
theorem readChoice_trim_print (choice : PaddedChoice) :
    readChoice (trim choice.print) = choice.choice := by
  have solid : isBlank '=' = false := by decide
  cases choice with
  | bare value =>
      have free : '=' ∉ value.text.toList := fun mem =>
        absurd (isWord_of_mem value.fits mem) (by decide)
      rw [PaddedChoice.print, value.trim_word, readChoice, splitOnce?_eq_none_iff.mpr free]
      simp only [String.ofList_toList]
      rfl
  | named name value =>
      have free : '=' ∉ trimStart name.print := fun mem =>
        name.equalsless ((List.dropWhile_suffix isBlank).subset mem)
      rw [PaddedChoice.print, trim_append solid, readChoice, splitOnce?_append free]
      simp only [trimmed, trim_trimStart, trim_trimEnd, Padded.trim_word, String.ofList_toList]
      rfl

theorem trim_print_ne_nil (choice : PaddedChoice) : trim choice.print ≠ [] := by
  cases choice with
  | bare value =>
      rw [PaddedChoice.print, value.trim_word]
      exact ne_nil_of_isWordRun value.fits
  | named name value =>
      rw [PaddedChoice.print, trim_append (by decide)]
      simp

theorem solidParts_barred (barless : '|' ∉ part) (choices : List PaddedChoice) :
    solidParts (part ++ barred choices) =
      solidParts part ++ choices.map fun choice => trim choice.print := by
  induction choices generalizing part with
  | nil => simp [barred]
  | cons choice choices ih =>
      have free : '|' ∉ choice.print := fun mem => absurd (PaddedChoice.mem_print mem) (by decide)
      have shape : barred (choice :: choices) = '|' :: (choice.print ++ barred choices) := rfl
      rw [shape, solidParts_append barless, ih free,
        solidParts_of_solid free (trim_print_ne_nil choice), List.map_cons, List.singleton_append]

/-- **What is read a second time is what was written**, whether or not the blanks behind the last
option are left out. -/
theorem readOptions_of_barred {raw trailing after : List Char} {choices : List PaddedChoice}
    (blanks : ∀ c ∈ after, isBlank c = true) (blanks' : ∀ c ∈ trailing, isBlank c = true)
    (written : after ++ barred choices = raw ++ trailing) :
    readOptions raw = collect (choices.map PaddedChoice.choice) := by
  have around : ∀ c ∈ trailing, isAround c = true := fun c mem => by simp [isAround, blanks' c mem]
  have barless : '|' ∉ after := fun mem => absurd (blanks _ mem) (by decide)
  have parts : solidParts raw = choices.map fun choice => trim choice.print := by
    rw [← solidParts_append_around around raw, ← written, solidParts_barred barless,
      solidParts_of_blanks blanks, List.nil_append]
  rw [readOptions, solidParts_trimBars, parts, List.map_map]
  congr 1
  exact List.map_congr_left fun choice _ => readChoice_trim_print choice

end Wikilink.Mention
