/-
# Proofs.Text.Scan -- what a walk over a text finds

`Walks` says what it means to take a text apart: a form stands where the recognizer
answers and no escape character comes before it, and any other character is kept.
The pieces of a text are such a walk (`walks_pieces`).  So the pieces written out
are the text again (`sources_pieces`), each form was recognized where it stands
(`Walks.split`), and whatever can be recognized is escaped or inside a form
(`Walks.escaped_or_covered`).
-/
import Mathlib.Data.List.TakeWhile
import Wikilink.Text.Scan

namespace Wikilink.Text

set_option autoImplicit false

/-! ## Runs of characters -/

theorem takeWhile_run {p : Char → Bool} {run rest : List Char} {c : Char}
    (inside : ∀ d ∈ run, p d = true) (outside : p c = false) :
    (run ++ c :: rest).takeWhile p = run := by
  rw [List.takeWhile_append_of_pos inside, List.takeWhile_cons_of_neg (by simp [outside]),
    List.append_nil]

theorem dropWhile_run {p : Char → Bool} {run rest : List Char} {c : Char}
    (inside : ∀ d ∈ run, p d = true) (outside : p c = false) :
    (run ++ c :: rest).dropWhile p = c :: rest := by
  rw [List.dropWhile_append_of_pos inside, List.dropWhile_cons_of_neg (by simp [outside])]

/-- A text without a character is a run of the others. -/
theorem forall_ne_of_not_mem {s : List Char} {c : Char} (absent : c ∉ s) :
    ∀ d ∈ s, decide (d ≠ c) = true := by
  intro d mem
  have other : d ≠ c := by
    rintro rfl
    exact absent mem
  simpa using other

theorem not_mem_takeWhile_ne (s : List Char) (c : Char) : c ∉ s.takeWhile (· ≠ c) := by
  intro mem
  simpa using List.mem_takeWhile_imp mem

/-- What stands before the first `c` is determined. -/
theorem eq_of_append_cons {s t u v : List Char} {c : Char} (first : c ∉ s) (second : c ∉ t)
    (same : s ++ c :: u = t ++ c :: v) : s = t := by
  have outside : decide (c ≠ c) = false := by simp
  have runs := congrArg (List.takeWhile fun d => decide (d ≠ c)) same
  rwa [takeWhile_run (forall_ne_of_not_mem first) outside,
    takeWhile_run (forall_ne_of_not_mem second) outside] at runs

/-- A place in a text of two parts is behind the first part or inside it. -/
theorem behind_or_inside {s t x y : List Char} (whole : s ++ t = x ++ y) :
    (∃ x', x = s ++ x' ∧ t = x' ++ y) ∨ ∃ c more, s = x ++ c :: more := by
  rcases List.append_eq_append_iff.mp whole with behind | ⟨more, rfl, same⟩
  · exact Or.inl behind
  · cases more with
    | nil => exact Or.inl ⟨[], by simp, same.symm⟩
    | cons c more => exact Or.inr ⟨c, more, rfl⟩

variable {α : Type}

/-! ## Recognizers and pieces -/

/-- The recognizer covers something, and no more than there is. -/
def Recognizer.Covering (recognize : Recognizer α) : Prop :=
  ∀ {s : List Char} {value : α} {size : Nat},
    recognize s = some (value, size) → 0 < size ∧ size ≤ s.length

/-- What the recognizer answers depends only on the text that it covers. -/
def Recognizer.Local (recognize : Recognizer α) : Prop :=
  ∀ {s : List Char} {value : α} {size : Nat} (t : List Char),
    recognize s = some (value, size) → recognize (s.take size ++ t) = some (value, size)

/-- The pieces written out as they stand. -/
def sources (pieces : List (Piece α)) : List Char :=
  pieces.flatMap Piece.source

@[simp] theorem sources_nil : sources ([] : List (Piece α)) = [] := rfl

@[simp] theorem sources_cons (p : Piece α) (ps : List (Piece α)) :
    sources (p :: ps) = p.source ++ sources ps := rfl

@[simp] theorem sources_append (ps qs : List (Piece α)) :
    sources (ps ++ qs) = sources ps ++ sources qs :=
  List.flatMap_append

/-- No piece is a form. -/
def Plain (pieces : List (Piece α)) : Prop :=
  ∀ p ∈ pieces, p.value? = none

theorem locate_eq_nil_iff {offset : Nat} {pieces : List (Piece α)} :
    locate offset pieces = [] ↔ Plain pieces := by
  induction pieces generalizing offset with
  | nil => simp [locate, Plain]
  | cons p ps ih =>
      cases p with
      | char c => simp [locate, ih, Plain, Piece.value?]
      | form covered value => simp [locate, Plain, Piece.value?]

/-! ## Walks -/

section Walk

variable {recognize : Recognizer α} {escape : Option Char}

/-- Whether an escape character comes right before what follows a text. -/
def escapedAfter (escape : Option Char) : Bool → List Char → Bool
  | escaped, [] => escaped
  | _, c :: cs => escapedAfter escape (escape == some c) cs

theorem escapedAfter_append (escaped : Bool) (s t : List Char) :
    escapedAfter escape escaped (s ++ t) = escapedAfter escape (escapedAfter escape escaped s) t := by
  induction s generalizing escaped with
  | nil => rfl
  | cons c s ih => exact ih _

theorem escapedAfter_concat (escaped : Bool) (s : List Char) (c : Char) :
    escapedAfter escape escaped (s ++ [c]) = (escape == some c) := by
  rw [escapedAfter_append]
  rfl

/-- The pieces take the text apart: forms where the recognizer answers, and characters where it
does not or where an escape character comes before. -/
inductive Walks (recognize : Recognizer α) (escape : Option Char) :
    Bool → List Char → List (Piece α) → Prop where
  | nil (escaped : Bool) : Walks recognize escape escaped [] []
  | char {escaped : Bool} {c : Char} {cs : List Char} {ps : List (Piece α)}
      (kept : escaped = true ∨ recognize (c :: cs) = none)
      (rest : Walks recognize escape (escape == some c) cs ps) :
      Walks recognize escape escaped (c :: cs) (.char c :: ps)
  | form {covered s : List Char} {value : α} {ps : List (Piece α)}
      (recognized : recognize (covered ++ s) = some (value, covered.length))
      (rest : Walks recognize escape (escapedAfter escape false covered) s ps) :
      Walks recognize escape false (covered ++ s) (.form covered value :: ps)

theorem piecesAfter_skip (skip : Nat) (escaped : Bool) (s : List Char) :
    piecesAfter recognize escape skip escaped s =
      piecesAfter recognize escape 0 (escapedAfter escape escaped (s.take skip)) (s.drop skip) := by
  induction s generalizing skip escaped with
  | nil => simp [piecesAfter]
  | cons c cs ih =>
      cases skip with
      | zero => rfl
      | succ skip =>
          rw [piecesAfter, ih]
          rfl

theorem walks_piecesAfter (covering : recognize.Covering) (escaped : Bool) (s : List Char) :
    Walks recognize escape escaped s (piecesAfter recognize escape 0 escaped s) := by
  induction length : s.length using Nat.strongRecOn generalizing escaped s with
  | _ n ih =>
    cases s with
    | nil =>
        rw [piecesAfter]
        exact .nil escaped
    | cons c cs =>
        rw [piecesAfter]
        split
        · rename_i value size found
          have unescaped : escaped = false := by
            cases escaped with
            | false => rfl
            | true => simp at found
          subst unescaped
          simp only [Bool.false_eq_true, if_false] at found
          obtain ⟨positive, within⟩ := covering found
          obtain ⟨size, rfl⟩ : ∃ k, size = k + 1 := ⟨size - 1, by omega⟩
          have whole : (c :: cs).take (size + 1) ++ cs.drop size = c :: cs :=
            List.take_append_drop (size + 1) (c :: cs)
          have covered : ((c :: cs).take (size + 1)).length = size + 1 := by
            rw [List.length_take]
            omega
          have shorter : (cs.drop size).length < n := by
            rw [List.length_drop]
            simp only [List.length_cons] at length
            omega
          have rest := ih _ shorter (escapedAfter escape false ((c :: cs).take (size + 1)))
            (cs.drop size) rfl
          rw [Nat.add_sub_cancel, piecesAfter_skip]
          have walk := Walks.form (by rw [whole, covered]; exact found) rest
          rw [whole] at walk
          exact walk
        · rename_i none
          have kept : escaped = true ∨ recognize (c :: cs) = .none := by
            cases escaped with
            | false => exact Or.inr (by simpa using none)
            | true => exact Or.inl rfl
          refine .char kept (ih cs.length ?_ _ cs rfl)
          simp only [List.length_cons] at length
          omega

/-- **The pieces of a text take it apart.** -/
theorem walks_pieces (covering : recognize.Covering) (s : List Char) :
    Walks recognize escape false s (pieces recognize escape s) :=
  walks_piecesAfter covering false s

theorem Walks.sources_eq {escaped : Bool} {s : List Char} {ps : List (Piece α)}
    (walk : Walks recognize escape escaped s ps) : sources ps = s := by
  induction walk with
  | nil => rfl
  | char _ _ ih => rw [sources_cons, ih]; rfl
  | form _ _ ih => rw [sources_cons, ih]; rfl

theorem sources_pieces (covering : recognize.Covering) (s : List Char) :
    sources (pieces recognize escape s) = s :=
  (walks_pieces covering s).sources_eq

theorem Walks.uncons_form {escaped : Bool} {s covered : List Char} {value : α}
    {ps : List (Piece α)} (walk : Walks recognize escape escaped s (.form covered value :: ps)) :
    escaped = false ∧ ∃ t, s = covered ++ t ∧
      recognize (covered ++ t) = some (value, covered.length) := by
  cases walk with
  | form recognized rest => exact ⟨rfl, _, rfl, recognized⟩

/-- A walk goes on behind any of its pieces. -/
theorem Walks.split {escaped : Bool} {s : List Char} {ps qs : List (Piece α)}
    (walk : Walks recognize escape escaped s (ps ++ qs)) :
    ∃ rest, s = sources ps ++ rest ∧
      Walks recognize escape (escapedAfter escape escaped (sources ps)) rest qs := by
  induction ps generalizing escaped s with
  | nil => exact ⟨s, rfl, walk⟩
  | cons p ps ih =>
      cases walk with
      | char kept rest =>
          obtain ⟨tail, rfl, later⟩ := ih rest
          exact ⟨tail, rfl, later⟩
      | form recognized rest =>
          obtain ⟨tail, rfl, later⟩ := ih rest
          refine ⟨tail, by simp [Piece.source], ?_⟩
          rw [sources_cons, Piece.source, escapedAfter_append]
          exact later

/-- **A walk passes over nothing that can be recognized**: a place where the recognizer answers is
escaped, or it lies inside a form of the walk. -/
theorem Walks.escaped_or_covered {escaped : Bool} {s : List Char} {ps : List (Piece α)}
    (walk : Walks recognize escape escaped s ps) {x y : List Char} {value : α} {size : Nat}
    (whole : s = x ++ y) (nonempty : y ≠ []) (recognized : recognize y = some (value, size)) :
    escapedAfter escape escaped x = true ∨
      ∃ front inside more found back, ps = front ++ .form (inside ++ more) found :: back ∧
        x = sources front ++ inside ∧ more ≠ [] := by
  induction walk generalizing x with
  | nil =>
      have none : y = [] := (List.append_eq_nil_iff.mp whole.symm).2
      exact absurd none nonempty
  | @char escaped c cs ps kept rest ih =>
      cases x with
      | nil =>
          rcases kept with escaped | none
          · exact Or.inl escaped
          · rw [List.nil_append] at whole
            rw [whole, recognized] at none
            cases none
      | cons d x =>
          rw [List.cons_append, List.cons.injEq] at whole
          obtain ⟨rfl, whole⟩ := whole
          rcases ih whole with escaped | ⟨front, inside, more, found, back, split, rfl, left⟩
          · exact Or.inl escaped
          · exact Or.inr
              ⟨.char c :: front, inside, more, found, back, by rw [split]; rfl, rfl, left⟩
  | @form covered s found ps _ rest ih =>
      rcases behind_or_inside whole with ⟨x', rfl, behind⟩ | ⟨c, more, rfl⟩
      · rcases ih behind with escaped | ⟨front, inside, more, later, back, split, rfl, left⟩
        · exact Or.inl (by rw [escapedAfter_append]; exact escaped)
        · refine Or.inr ⟨.form covered found :: front, inside, more, later, back,
            by rw [split]; rfl, ?_, left⟩
          rw [sources_cons, List.append_assoc]
          rfl
      · exact Or.inr ⟨[], x, c :: more, found, ps, rfl, rfl, List.cons_ne_nil c more⟩

/-- Where a walk keeps every character, only escaped forms were there. -/
theorem Walks.escaped_of_recognized {escaped : Bool} {s : List Char} {ps : List (Piece α)}
    (walk : Walks recognize escape escaped s ps) (plain : Plain ps) {x y : List Char} {value : α}
    {size : Nat} (whole : s = x ++ y) (nonempty : y ≠ [])
    (recognized : recognize y = some (value, size)) : escapedAfter escape escaped x = true := by
  rcases walk.escaped_or_covered whole nonempty recognized with
    escaped | ⟨front, inside, more, found, back, rfl, -, -⟩
  · exact escaped
  · have none := plain (.form (inside ++ more) found) (by simp)
    cases none

end Walk

/-! ## Writing the pieces -/

section Substitute

variable {ε : Type} {write : α → Except ε String}

theorem substitute_char {c : Char} {ps : List (Piece α)} {text : String} :
    substitute write (.char c :: ps) = .ok text ↔
      ∃ rest, substitute write ps = .ok rest ∧ text = String.singleton c ++ rest := by
  rw [substitute]
  cases substitute write ps with
  | error e => simp [bind, Except.bind]
  | ok rest => simp [bind, Except.bind, pure, Except.pure, eq_comm]

theorem substitute_form {covered : List Char} {value : α} {ps : List (Piece α)} {text : String} :
    substitute write (.form covered value :: ps) = .ok text ↔
      ∃ written rest, write value = .ok written ∧ substitute write ps = .ok rest ∧
        text = written ++ rest := by
  rw [substitute]
  cases write value with
  | error e => simp [bind, Except.bind]
  | ok written =>
      cases substitute write ps with
      | error e => simp [bind, Except.bind]
      | ok rest => simp [bind, Except.bind, pure, Except.pure, eq_comm]

theorem substitute_append {ps qs : List (Piece α)} {text : String} :
    substitute write (ps ++ qs) = .ok text ↔
      ∃ front back, substitute write ps = .ok front ∧ substitute write qs = .ok back ∧
        text = front ++ back := by
  induction ps generalizing text with
  | nil => simp [substitute]
  | cons p ps ih =>
      cases p with
      | char c =>
          rw [List.cons_append, substitute_char]
          constructor
          · rintro ⟨rest, done, rfl⟩
            obtain ⟨front, back, first, second, rfl⟩ := ih.mp done
            exact ⟨_, back, substitute_char.mpr ⟨front, first, rfl⟩, second,
              (String.append_assoc ..).symm⟩
          · rintro ⟨front, back, first, second, rfl⟩
            obtain ⟨rest, done, rfl⟩ := substitute_char.mp first
            exact ⟨rest ++ back, ih.mpr ⟨rest, back, done, second, rfl⟩, String.append_assoc ..⟩
      | form covered value =>
          rw [List.cons_append, substitute_form]
          constructor
          · rintro ⟨written, rest, wrote, done, rfl⟩
            obtain ⟨front, back, first, second, rfl⟩ := ih.mp done
            exact ⟨_, back, substitute_form.mpr ⟨written, front, wrote, first, rfl⟩, second,
              (String.append_assoc ..).symm⟩
          · rintro ⟨front, back, first, second, rfl⟩
            obtain ⟨written, rest, wrote, done, rfl⟩ := substitute_form.mp first
            exact ⟨written, rest ++ back, wrote, ih.mpr ⟨rest, back, done, second, rfl⟩,
              String.append_assoc ..⟩

/-- Forms written as what they cover leave the text as it is. -/
theorem substitute_of_sources {ps : List (Piece α)}
    (same : ∀ covered value, .form covered value ∈ ps → write value = .ok (String.ofList covered)) :
    substitute write ps = .ok (String.ofList (sources ps)) := by
  induction ps with
  | nil => rfl
  | cons p ps ih =>
      have later := ih fun covered value mem => same covered value (List.mem_cons_of_mem p mem)
      cases p with
      | char c =>
          refine substitute_char.mpr ⟨_, later, ?_⟩
          apply String.toList_injective
          simp [Piece.source]
      | form covered value =>
          refine substitute_form.mpr ⟨_, _, same covered value (by simp), later, ?_⟩
          apply String.toList_injective
          simp [Piece.source]

/-- Characters are written as they are. -/
theorem substitute_of_plain {ps : List (Piece α)} (plain : Plain ps) :
    substitute write ps = .ok (String.ofList (sources ps)) := by
  apply substitute_of_sources
  intro covered value mem
  have none := plain (.form covered value) mem
  cases none

/-- Forms written as nothing leave a shorter text. -/
theorem plain_of_length_substitute {recognize : Recognizer α} {escape : Option Char}
    {escaped : Bool} {s : List Char} {ps : List (Piece α)} {text : String}
    (covering : recognize.Covering) (walk : Walks recognize escape escaped s ps)
    (blanked : substitute (fun _ => (.ok "" : Except ε String)) ps = .ok text) :
    text.toList.length ≤ s.length ∧ (text.toList.length = s.length → Plain ps) := by
  induction walk generalizing text with
  | nil =>
      cases blanked
      exact ⟨by simp, fun _ p mem => absurd mem List.not_mem_nil⟩
  | @char escaped c cs ps kept rest ih =>
      obtain ⟨tail, later, rfl⟩ := substitute_char.mp blanked
      obtain ⟨shorter, plain⟩ := ih later
      simp only [String.toList_append, String.toList_singleton, List.length_append,
        List.length_cons, List.length_nil]
      refine ⟨by omega, fun same p mem => ?_⟩
      rcases List.mem_cons.mp mem with rfl | mem
      · rfl
      · exact plain (by omega) p mem
  | @form covered s value ps recognized rest ih =>
      obtain ⟨written, tail, wrote, later, rfl⟩ := substitute_form.mp blanked
      cases wrote
      obtain ⟨shorter, -⟩ := ih later
      have positive := (covering recognized).1
      simp only [String.toList_append, List.length_append]
      have none : "".toList.length = 0 := rfl
      exact ⟨by omega, fun same => by omega⟩

end Substitute

end Wikilink.Text
