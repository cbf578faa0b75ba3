/-
# Proofs.Text.Writing -- what is written in place of the forms, and when that fails

The pieces of a text are written from left to right, so writing fails where a form
cannot be written, and with the failure of the first such form
(`substitute_eq_error_iff`).  What is written is built up from the front as well:
characters that begin no form are kept (`pieces_append_of_idle`), and behind a form
at the start of a text stand the pieces of the rest (`pieces_append_of_recognized`).
Where nothing is escaped and no form reaches from one text into the next, the pieces
of the two texts stand one behind the other (`pieces_append_of_apart`).
-/
import Wikilink.Proofs.Text.Scan

namespace Wikilink.Text

set_option autoImplicit false

variable {α ε : Type}

/-! ## Forms -/

/-- The forms among the pieces. -/
def forms (pieces : List (Piece α)) : List α :=
  pieces.filterMap Piece.value?

@[simp] theorem forms_char (c : Char) (ps : List (Piece α)) : forms (.char c :: ps) = forms ps :=
  rfl

@[simp] theorem forms_form (covered : List Char) (value : α) (ps : List (Piece α)) :
    forms (.form covered value :: ps) = value :: forms ps := rfl

@[simp] theorem forms_append (ps qs : List (Piece α)) : forms (ps ++ qs) = forms ps ++ forms qs :=
  List.filterMap_append

/-- The forms that are located are the forms among the pieces, in their order. -/
theorem map_value_locate (offset : Nat) (pieces : List (Piece α)) :
    (locate offset pieces).map Located.value = forms pieces := by
  induction pieces generalizing offset with
  | nil => rfl
  | cons p ps ih =>
      cases p with
      | char c => exact ih _
      | form covered value =>
          rw [locate, List.map_cons, ih, forms_form]

/-! ## Failures -/

section Failure

variable {write : α → Except ε String} {e : ε}

theorem substitute_char_eq_error {c : Char} {ps : List (Piece α)} :
    substitute write (.char c :: ps) = .error e ↔ substitute write ps = .error e := by
  rw [substitute]
  cases substitute write ps with
  | error f => simp [bind, Except.bind]
  | ok text => simp [bind, Except.bind, pure, Except.pure]

theorem substitute_form_of_error {covered : List Char} {value : α} {ps : List (Piece α)}
    (failed : write value = .error e) :
    substitute write (.form covered value :: ps) = .error e := by
  rw [substitute, failed]
  rfl

theorem substitute_form_eq_error {covered : List Char} {value : α} {ps : List (Piece α)}
    {written : String} (wrote : write value = .ok written) :
    substitute write (.form covered value :: ps) = .error e ↔ substitute write ps = .error e := by
  rw [substitute, wrote]
  cases substitute write ps with
  | error f => simp [bind, Except.bind]
  | ok text => simp [bind, Except.bind, pure, Except.pure]

/-- **Writing fails with the first form that cannot be written.** -/
theorem substitute_eq_error_iff {ps : List (Piece α)} :
    substitute write ps = .error e ↔
      ∃ front value back, forms ps = front ++ value :: back ∧
        (∀ v ∈ front, ∃ written, write v = .ok written) ∧ write value = .error e := by
  induction ps with
  | nil => simp [substitute, forms]
  | cons p ps ih =>
      cases p with
      | char c => rw [substitute_char_eq_error, ih, forms_char]
      | form covered value =>
          cases outcome : write value with
          | error f =>
              rw [substitute_form_of_error outcome, forms_form]
              constructor
              · intro same
                exact ⟨[], value, forms ps, rfl, by simp, same ▸ outcome⟩
              · rintro ⟨front, v, back, split, wrote, failed⟩
                cases front with
                | nil =>
                    obtain ⟨rfl, -⟩ := List.cons.inj split
                    exact congrArg Except.error (Except.error.inj (outcome.symm.trans failed))
                | cons u front =>
                    obtain ⟨rfl, -⟩ := List.cons.inj split
                    obtain ⟨written, done⟩ := wrote value (by simp)
                    rw [outcome] at done
                    cases done
          | ok text =>
              rw [substitute_form_eq_error outcome, ih, forms_form]
              constructor
              · rintro ⟨front, v, back, split, wrote, failed⟩
                refine ⟨value :: front, v, back, by rw [split]; rfl, ?_, failed⟩
                intro u mem
                rcases List.mem_cons.mp mem with rfl | mem
                · exact ⟨text, outcome⟩
                · exact wrote u mem
              · rintro ⟨front, v, back, split, wrote, failed⟩
                cases front with
                | nil =>
                    obtain ⟨rfl, -⟩ := List.cons.inj split
                    rw [outcome] at failed
                    cases failed
                | cons u front =>
                    obtain ⟨-, split⟩ := List.cons.inj split
                    exact ⟨front, v, back, split, fun w mem => wrote w (by simp [mem]), failed⟩

/-- Where writing does not fail, every form was written. -/
theorem exists_written_of_substitute {ps : List (Piece α)} {text : String}
    (written : substitute write ps = .ok text) :
    ∀ value ∈ forms ps, ∃ shown, write value = .ok shown := by
  induction ps generalizing text with
  | nil => simp [forms]
  | cons p ps ih =>
      cases p with
      | char c =>
          obtain ⟨_, later, -⟩ := substitute_char.mp written
          exact ih later
      | form covered value =>
          obtain ⟨shown, _, wrote, later, -⟩ := substitute_form.mp written
          rw [forms_form]
          exact List.forall_mem_cons.mpr ⟨⟨shown, wrote⟩, ih later⟩

end Failure

/-! ## From the front -/

section Front

variable {recognize : Recognizer α} {escape : Option Char} {write : α → Except ε String}

/-- No character of the text begins a form or escapes one. -/
def Idle (recognize : Recognizer α) (escape : Option Char) (s : List Char) : Prop :=
  ∀ c ∈ s, (escape == some c) = false ∧ ∀ tail, recognize (c :: tail) = none

/-- Characters that begin no form are pieces of their own. -/
theorem pieces_append_of_idle {s : List Char} (idle : Idle recognize escape s)
    (rest : List Char) :
    pieces recognize escape (s ++ rest) = s.map .char ++ pieces recognize escape rest := by
  induction s with
  | nil => rfl
  | cons c s ih =>
      obtain ⟨unescaping, none⟩ := idle c (by simp)
      have later := ih fun d mem => idle d (by simp [mem])
      rw [pieces] at later ⊢
      rw [List.cons_append, piecesAfter, if_neg Bool.false_ne_true, none, unescaping, later]
      rfl

/-- Behind a form at the start of a text stand the pieces of the rest, unless the form ends in an
escape character. -/
theorem pieces_append_of_recognized {covered rest : List Char} {value : α}
    (nonempty : covered ≠ [])
    (recognized : recognize (covered ++ rest) = some (value, covered.length))
    (unescaping : escapedAfter escape false covered = false) :
    pieces recognize escape (covered ++ rest) =
      .form covered value :: pieces recognize escape rest := by
  obtain ⟨c, cs, rfl⟩ := List.exists_cons_of_ne_nil nonempty
  have inside : (cs ++ rest).take cs.length = cs := List.take_left' rfl
  have behind : (cs ++ rest).drop cs.length = rest := List.drop_left' rfl
  have whole : (c :: (cs ++ rest)).take (cs.length + 1) = c :: cs := by
    rw [List.take_succ_cons, inside]
  rw [List.cons_append, List.length_cons] at recognized
  rw [pieces, List.cons_append, piecesAfter, if_neg Bool.false_ne_true, recognized]
  simp only [whole, Nat.add_sub_cancel]
  rw [piecesAfter_skip, inside, behind]
  exact congrArg
    (fun escaped => .form (c :: cs) value :: piecesAfter recognize escape 0 escaped rest) unescaping

/-! ### Without escapes -/

theorem escapedAfter_none (s : List Char) : escapedAfter none false s = false := by
  induction s with
  | nil => rfl
  | cons c s ih => exact ih

theorem pieces_cons_of_none {c : Char} {s : List Char} (unrecognized : recognize (c :: s) = none) :
    pieces recognize none (c :: s) = .char c :: pieces recognize none s := by
  rw [pieces, piecesAfter, if_neg Bool.false_ne_true, unrecognized]
  rfl

/-- What begins at the start of a text does not depend on what follows the text, unless it reaches
that far. -/
theorem Recognizer.Local.append_eq (isLocal : recognize.Local) {s rest : List Char}
    (within : ∀ value size, recognize (s ++ rest) = some (value, size) → size ≤ s.length) :
    recognize (s ++ rest) = recognize s := by
  cases here : recognize (s ++ rest) with
  | some answer =>
      obtain ⟨value, size⟩ := answer
      have short := within value size here
      have alone := isLocal (s.drop size) here
      rw [List.take_append_of_le_length short, List.take_append_drop] at alone
      exact alone.symm
  | none =>
      cases alone : recognize s with
      | none => rfl
      | some answer =>
          obtain ⟨value, size⟩ := answer
          have longer := isLocal (s.drop size ++ rest) alone
          rw [← List.append_assoc, List.take_append_drop, here] at longer
          cases longer

/-- Where no form reaches from one text into the next, their pieces stand one behind the other. -/
theorem pieces_append_of_apart (isLocal : recognize.Local) (covering : recognize.Covering)
    {s rest : List Char}
    (apart : ∀ x y, s = x ++ y → y ≠ [] → ∀ value size,
      recognize (y ++ rest) = some (value, size) → size ≤ y.length) :
    pieces recognize none (s ++ rest) = pieces recognize none s ++ pieces recognize none rest := by
  induction length : s.length using Nat.strongRecOn generalizing s with
  | _ n ih =>
    cases s with
    | nil => rfl
    | cons c s =>
        have first := isLocal.append_eq (apart [] (c :: s) rfl (List.cons_ne_nil c s))
        rw [List.cons_append] at first
        cases here : recognize (c :: s) with
        | none =>
            rw [List.cons_append, pieces_cons_of_none (first.trans here),
              pieces_cons_of_none here, List.cons_append]
            refine congrArg _ (ih s.length ?_ (fun x y split => ?_) rfl)
            · rw [← length, List.length_cons]
              omega
            · exact apart (c :: x) y (by rw [split]; rfl)
        | some answer =>
            obtain ⟨value, size⟩ := answer
            obtain ⟨positive, short⟩ := covering here
            have whole := List.take_append_drop size (c :: s)
            have taken : ((c :: s).take size).length = size := List.length_take_of_le short
            have nonempty : (c :: s).take size ≠ [] := List.ne_nil_of_length_pos (by omega)
            -- The form is at the start of the text alone, and of the text with the rest.
            have alone : recognize ((c :: s).take size ++ (c :: s).drop size) =
                some (value, ((c :: s).take size).length) := by
              rw [whole, taken, here]
            have longer : recognize ((c :: s).take size ++ ((c :: s).drop size ++ rest)) =
                some (value, ((c :: s).take size).length) := by
              rw [← List.append_assoc, whole, taken, List.cons_append, first, here]
            rw [← whole, List.append_assoc,
              pieces_append_of_recognized nonempty longer (escapedAfter_none _),
              pieces_append_of_recognized nonempty alone (escapedAfter_none _), List.cons_append]
            refine congrArg _ (ih ((c :: s).drop size).length ?_ (fun x y split => ?_) rfl)
            · rw [← length, List.length_drop]
              omega
            · exact apart ((c :: s).take size ++ x) y (by rw [List.append_assoc, ← split, whole])

/-! ### Characters -/

/-- Characters move the places of the forms behind them by their bytes. -/
theorem locate_chars_append (offset : Nat) (s : List Char) (ps : List (Piece α)) :
    locate offset (s.map .char ++ ps) = locate (offset + byteLength s) ps := by
  induction s generalizing offset with
  | nil => rfl
  | cons c s ih =>
      rw [List.map_cons, List.cons_append, locate, ih, byteLength, Nat.add_assoc]

/-- Characters are copied, and do not change the rest. -/
theorem substitute_chars_append (s : List Char) (ps : List (Piece α)) :
    substitute write (s.map .char ++ ps) =
      (substitute write ps).map fun text => String.ofList s ++ text := by
  induction s with
  | nil =>
      rw [List.map_nil, List.nil_append]
      cases substitute write ps with
      | error e => rfl
      | ok text => exact congrArg Except.ok (String.empty_append).symm
  | cons c s ih =>
      rw [List.map_cons, List.cons_append, substitute, ih]
      cases substitute write ps with
      | error e => rfl
      | ok text =>
          show Except.ok (String.singleton c ++ (String.ofList s ++ text)) =
            Except.ok (String.ofList (c :: s) ++ text)
          rw [String.ofList_cons, String.append_assoc]

end Front

end Wikilink.Text
