/-
# Proofs.LinkField.Input -- what becomes of a value that is put in

A link field accepts values that begin with a link or with an embed.  Input is put in
brackets unless it begins with one, so a link that is put in stays as it is, blanks
around it aside (`normalize_of_link`).  An embed begins with a brace.  It is put in
brackets as bare text would be, and what is in the brackets is then read as a link:
the braces become part of the query, and the attribute becomes the label
(`of_recognizeLink_wrapped`).  It is even refused if a single closing bracket follows
it (`exists_recognizeLink_wrapped_iff`).  So input keeps its meaning exactly if it is
a link (`ofInput_keeps_iff`).
-/
import Wikilink.Proofs.LinkField.Agreement
import Wikilink.Proofs.Mention.Layout

namespace Wikilink

set_option autoImplicit false

open Text

namespace Mention

/-! ## Links with a label -/

/-- The first closing bracket is followed by another one. -/
def ClosesDouble (s : List Char) : Prop :=
  ∃ front back, s = front ++ ']' :: ']' :: back ∧ ']' ∉ front

theorem closesDouble_append_iff {front s : List Char} (bracketless : ']' ∉ front) :
    ClosesDouble (front ++ s) ↔ ClosesDouble s := by
  constructor
  · rintro ⟨inside, back, whole, first⟩
    rcases List.append_eq_append_iff.mp whole with ⟨more, rfl, rest⟩ | ⟨more, rfl, rest⟩
    · exact ⟨more, back, rest, fun mem => first (by simp [mem])⟩
    · cases more with
      | nil => exact ⟨[], back, rest.symm, by simp⟩
      | cons c more =>
          obtain ⟨rfl, -⟩ := List.cons.inj rest
          exact absurd (by simp) bracketless
  · rintro ⟨inside, back, rfl, first⟩
    refine ⟨front ++ inside, back, by simp, fun mem => ?_⟩
    exact (List.mem_append.mp mem).elim bracketless first

variable {query rest : List Char} {n : Mention} {size : Nat}

/-- What stands between the opening brackets and the first bar is the query of a link. -/
theorem of_recognizeLink_of_bar (queried : ∀ c ∈ query, inQuery c = true)
    (recognized : recognizeLink ('[' :: '[' :: (query ++ '|' :: rest)) = some (n, size)) :
    ClosesDouble rest ∧ n.typeHint = (splitHint query).1 ∧ n.query = (splitHint query).2 := by
  obtain ⟨content, behind, subject, label, whole, bracketless, made, -, rfl⟩ :=
    recognizeLink_eq_some_iff.mp recognized
  have inner : query ++ '|' :: rest = content ++ ']' :: ']' :: behind :=
    (List.cons.inj (List.cons.inj whole).2).2
  have bar : inQuery '|' = false := by decide
  have closes : inQuery ']' = false := by decide
  have first : query = (content ++ ']' :: ']' :: behind).takeWhile inQuery := by
    rw [← inner, takeWhile_run queried bar]
  cases made with
  | bare nonempty barless =>
      rw [takeWhile_run (inQuery_of_not_mem bracketless barless) closes] at first
      subst first
      have clash := (List.cons.inj (List.append_cancel_left inner)).1
      exact absurd clash (by decide)
  | @labelled subject label nonempty barless shown =>
      have outside : ']' ∉ subject ∧ ']' ∉ label := by
        simp only [List.mem_append, List.mem_cons, not_or] at bracketless
        exact ⟨bracketless.1, bracketless.2.2⟩
      have split : subject ++ '|' :: label ++ ']' :: ']' :: behind =
          subject ++ '|' :: (label ++ ']' :: ']' :: behind) := by simp
      rw [split, takeWhile_run (inQuery_of_not_mem outside.1 barless) bar] at first
      subst first
      rw [split] at inner
      exact ⟨⟨label, behind, (List.cons.inj (List.append_cancel_left inner)).2, outside.2⟩,
        rfl, rfl⟩

/-- A query and a label make a link if the first closing bracket behind the bar is doubled. -/
theorem exists_recognizeLink_of_bar (nonempty : query ≠ [])
    (queried : ∀ c ∈ query, inQuery c = true) {label behind : List Char} (shown : label ≠ [])
    (bracketless : ']' ∉ label) :
    ∃ answer, recognizeLink
      ('[' :: '[' :: (query ++ '|' :: (label ++ ']' :: ']' :: behind))) = some answer := by
  obtain ⟨closeless, barless⟩ := not_mem_of_inQuery queried
  refine ⟨(_, _), recognizeLink_eq_some_iff.mpr ⟨query ++ '|' :: label, behind, query, some label,
    by simp, ?_, .labelled nonempty barless shown, rfl, rfl⟩⟩
  simp [closeless, bracketless]

/-! ## Embeds in brackets -/

/-- An embed: the text before its first bar, what it asks for, and what follows it. -/
structure EmbedShape (s subject asked rest : List Char) : Prop where
  whole : s = '{' :: '{' :: (subject ++ '|' :: (asked ++ rest))
  queried : ∀ c ∈ subject, inQuery c = true
  nonempty : asked ≠ []
  bracketless : ']' ∉ asked

theorem exists_embedShape {s : List Char} {m : Mention}
    (recognized : recognizeEmbed s = some (m, size)) :
    ∃ subject asked rest, EmbedShape s subject asked rest := by
  obtain ⟨subject, tail, rest, request, whole, -, queried, -, asked, -, -⟩ :=
    recognizeEmbed_eq_some_iff.mp recognized
  obtain ⟨layout, rfl, -⟩ := embedRequest?_eq_some_iff.mp asked
  refine ⟨subject, layout.print ++ ['}', '}'], rest, by simpa using whole, queried, by simp, ?_⟩
  simpa using layout.bracket_not_mem_print

/-- The text in brackets, as input is put in brackets. -/
def wrapped (s : List Char) : List Char :=
  "[[ ".toList ++ s ++ " ]]".toList

theorem wrapped_eq (s : List Char) :
    wrapped s = '[' :: '[' :: ' ' :: (s ++ [' ', ']', ']']) := rfl

variable {s subject asked after : List Char}

theorem EmbedShape.wrapped_eq (shape : EmbedShape s subject asked after) :
    wrapped s = '[' :: '[' :: ((' ' :: '{' :: '{' :: subject) ++
      '|' :: (asked ++ (after ++ [' ', ']', ']']))) := by
  rw [Mention.wrapped_eq, shape.whole]
  simp

theorem EmbedShape.inQuery_opened (shape : EmbedShape s subject asked after) :
    ∀ c ∈ ' ' :: '{' :: '{' :: subject, inQuery c = true := by
  intro c mem
  simp only [List.mem_cons] at mem
  rcases mem with rfl | rfl | rfl | mem
  · decide
  · decide
  · decide
  · exact shape.queried c mem

/-- No hint stands behind a brace. -/
theorem splitHint_opened (subject : List Char) :
    splitHint (' ' :: '{' :: '{' :: subject) =
      (none, String.ofList ('{' :: '{' :: trimEnd subject)) := by
  have brace : isBlank '{' = false := by decide
  have start : (' ' :: '{' :: '{' :: subject).dropWhile isBlank = '{' :: '{' :: subject := by
    rw [List.dropWhile_cons_of_pos (by decide), List.dropWhile_cons_of_neg (by simp [brace])]
  have wordless : ('{' :: '{' :: subject).takeWhile isWord = [] :=
    List.takeWhile_cons_of_neg (by decide)
  have query : trim (' ' :: '{' :: '{' :: subject) = '{' :: '{' :: trimEnd subject :=
    trim_append brace [' ', '{'] subject
  simp only [splitHint, start, wordless, trimmed, query]

/-- **An embed in brackets can only be read as a link**, with the braces in its query. -/
theorem of_recognizeLink_wrapped (shape : EmbedShape s subject asked after)
    (recognized : recognizeLink (wrapped s) = some (n, size)) :
    n.typeHint = none ∧ n.query = String.ofList ('{' :: '{' :: trimEnd subject) := by
  rw [shape.wrapped_eq] at recognized
  obtain ⟨-, hint, query⟩ := of_recognizeLink_of_bar shape.inQuery_opened recognized
  rw [splitHint_opened] at hint query
  exact ⟨hint, query⟩

/-- It is read as one exactly if the first closing bracket is doubled. -/
theorem exists_recognizeLink_wrapped_iff (shape : EmbedShape s subject asked after) :
    (∃ answer, recognizeLink (wrapped s) = some answer) ↔ ClosesDouble (s ++ " ]]".toList) := by
  have front : s ++ " ]]".toList =
      ('{' :: '{' :: (subject ++ '|' :: asked)) ++ (after ++ [' ', ']', ']']) := by
    have closing : " ]]".toList = [' ', ']', ']'] := rfl
    rw [shape.whole, closing]
    simp
  have bracketless : ']' ∉ '{' :: '{' :: (subject ++ '|' :: asked) := by
    simp [(not_mem_of_inQuery shape.queried).1, shape.bracketless]
  rw [front, closesDouble_append_iff bracketless, shape.wrapped_eq]
  constructor
  · rintro ⟨⟨n, size⟩, recognized⟩
    have closes := (of_recognizeLink_of_bar shape.inQuery_opened recognized).1
    exact (closesDouble_append_iff shape.bracketless).mp closes
  · rintro ⟨more, back, whole, first⟩
    have split : asked ++ (after ++ [' ', ']', ']']) = (asked ++ more) ++ ']' :: ']' :: back := by
      rw [whole, List.append_assoc]
    rw [split]
    refine exists_recognizeLink_of_bar (List.cons_ne_nil _ _) shape.inQuery_opened ?_ ?_
    · simp [shape.nonempty]
    · simp [shape.bracketless, first]

/-! ## Links and embeds -/

theorem isEmbed_of_recognizeLink (recognized : recognizeLink s = some (n, size)) :
    n.isEmbed = false := by
  obtain ⟨_, _, _, _, _, _, _, _, rfl⟩ := recognizeLink_eq_some_iff.mp recognized
  rfl

theorem isEmbed_of_recognizeEmbed (recognized : recognizeEmbed s = some (n, size)) :
    n.isEmbed = true := by
  obtain ⟨_, _, _, _, _, _, _, _, asked, _, rfl⟩ := recognizeEmbed_eq_some_iff.mp recognized
  obtain ⟨layout, -, rfl⟩ := embedRequest?_eq_some_iff.mp asked
  rfl

/-- What a text begins with: a link, or an embed and no link. -/
theorem parse?_ofList_eq_some_iff {m : Mention} :
    parse? (String.ofList s) = some m ↔
      (∃ size, recognizeLink s = some (m, size)) ∨
        recognizeLink s = none ∧ ∃ size, recognizeEmbed s = some (m, size) := by
  rw [parse?, Form.parse?_ofList, Form.parse?_ofList]
  simp only [Form.recognizer]
  cases recognizeLink s with
  | some answer => cases answer; simp
  | none =>
      cases recognizeEmbed s with
      | some answer => cases answer; simp
      | none => simp

/-- What an embed in brackets is read as is a link: it begins with a bracket. -/
theorem EmbedShape.parse?_wrapped_iff (shape : EmbedShape s subject asked after) :
    parse? (String.ofList (wrapped s)) = some n ↔
      ∃ size, recognizeLink (wrapped s) = some (n, size) := by
  have bracket : wrapped s = '[' :: _ := shape.wrapped_eq
  have never : recognizeEmbed (wrapped s) = none := by
    rw [bracket]
    exact recognizeEmbed_of_ne (by decide) _
  rw [parse?_ofList_eq_some_iff, never]
  simp

end Mention

/-! ## Input -/

namespace LinkField

open Mention

variable {input : List Char} {m : Mention}

theorem normalize_of_bracket {cs : List Char} (bracket : trim input = '[' :: cs) :
    normalize input = trim input := by
  unfold normalize
  rw [bracket]
  rfl

theorem normalize_of_ne {c : Char} {cs : List Char} (start : trim input = c :: cs)
    (other : c ≠ '[') : normalize input = wrapped (trim input) := by
  unfold normalize
  rw [start]
  split
  · rename_i none
    cases none
  · rename_i bracket
    exact absurd (List.cons.inj bracket).1 other
  · rfl

/-- Nothing is left to be trimmed. -/
theorem trim_normalize (input : List Char) : trim (normalize input) = normalize input := by
  unfold normalize
  split
  · rfl
  · rename_i cs bracket
    rw [← bracket, trim_trim]
  · have opens : isBlank '[' = false := by decide
    have closes : isBlank ']' = false := by decide
    have ends : ∀ cs : List Char, "[[ ".toList ++ cs ++ " ]]".toList =
        '[' :: (['[', ' '] ++ cs ++ [' ', ']']) ++ [']'] := by
      intro cs
      show ['[', '[', ' '] ++ cs ++ [' ', ']', ']'] = _
      simp
    rw [ends]
    exact trim_between opens closes _

/-- A link that is put in stays as it is. -/
theorem normalize_of_link {size : Nat} (recognized : recognizeLink (trim input) = some (m, size)) :
    normalize input = trim input := by
  obtain ⟨_, _, _, _, whole, _⟩ := recognizeLink_eq_some_iff.mp recognized
  exact normalize_of_bracket whole

/-- An embed that is put in is put in brackets. -/
theorem normalize_of_embed {size : Nat}
    (recognized : recognizeEmbed (trim input) = some (m, size)) :
    normalize input = wrapped (trim input) := by
  obtain ⟨subject, asked, rest, shape⟩ := exists_embedShape recognized
  exact normalize_of_ne shape.whole (by decide)

section Site

variable {ι : Type} [DecidableEq ι] {s : Site ι} {value : String}

/-- A value that need not lead to an object is accepted if it is empty or begins with a mention. -/
theorem validate_lenient_iff :
    validate s false value = .ok () ↔
      trim value.toList = [] ∨ ∃ m, Mention.parse? (trimmed value.toList) = some m := by
  unfold validate
  simp only [trimmed, List.isEmpty_iff]
  split
  · rename_i none
    simp [none]
  · rename_i filled
    cases Mention.parse? (String.ofList (trim value.toList)) with
    | none => simp [filled]
    | some m => simp

theorem ofInput_raw_toList (value : String) :
    (ofInput value).raw.toList = normalize value.toList := by
  rw [ofInput, String.toList_ofList]

/-- What was put in is accepted exactly if it begins with a mention. -/
theorem validate_ofInput_iff (filled : trim value.toList ≠ []) :
    validate s false (ofInput value).raw = .ok () ↔
      ∃ m, Mention.parse? (ofInput value).raw = some m := by
  have whole : trimmed (ofInput value).raw.toList = (ofInput value).raw := by
    rw [trimmed, ofInput_raw_toList, trim_normalize]
    rfl
  rw [validate_lenient_iff, whole, ofInput_raw_toList, trim_normalize]
  have nonempty : normalize value.toList ≠ [] := by
    intro none
    unfold normalize at none
    split at none
    · rename_i empty
      exact filled empty
    · cases none
    · cases none
  simp [nonempty]

theorem ofInput_of_link {size : Nat}
    (recognized : recognizeLink (trim value.toList) = some (m, size)) :
    (ofInput value).raw = trimmed value.toList := by
  rw [ofInput, normalize_of_link recognized]
  rfl

/-- An embed that is put in is accepted if the first closing bracket is doubled, and is read as a
link with the braces in its query. -/
theorem ofInput_of_embed {size : Nat}
    (recognized : recognizeEmbed (trim value.toList) = some (m, size)) :
    (ofInput value).raw = "[[ " ++ trimmed value.toList ++ " ]]" ∧
    ((∃ n, Mention.parse? (ofInput value).raw = some n) ↔
      ClosesDouble (trim value.toList ++ " ]]".toList)) ∧
    ∀ n, Mention.parse? (ofInput value).raw = some n →
      n.isEmbed = false ∧ n.typeHint = none ∧ ['{', '{'] <+: n.query.toList := by
  have raw : (ofInput value).raw = String.ofList (wrapped (trim value.toList)) := by
    rw [ofInput, normalize_of_embed recognized]
  obtain ⟨subject, asked, rest, shape⟩ := exists_embedShape recognized
  refine ⟨?_, ?_, fun n parsed => ?_⟩
  · rw [raw]
    apply String.toList_injective
    simp [wrapped, trimmed]
  · rw [← exists_recognizeLink_wrapped_iff shape, raw]
    simp only [shape.parse?_wrapped_iff, Prod.exists]
  · rw [raw] at parsed
    obtain ⟨size, link⟩ := shape.parse?_wrapped_iff.mp parsed
    obtain ⟨hint, query⟩ := of_recognizeLink_wrapped shape link
    refine ⟨isEmbed_of_recognizeLink link, hint, trimEnd subject, ?_⟩
    rw [query, String.toList_ofList]
    rfl

/-- **Input keeps its meaning exactly if it is a link.**  A value that the field accepts begins with
a link or with an embed.  A link is kept as it is written, without the blanks around it, and is
read as before.  An embed is put in brackets; it is then accepted only if the first closing bracket
is doubled, and it is read as a link, without a type hint and with the braces in its query. -/
theorem ofInput_keeps_iff (s : Site ι) {value : String}
    (accepted : validate s false value = .ok ()) (filled : trim value.toList ≠ []) :
    ∃ m, Mention.parse? (trimmed value.toList) = some m ∧
      (m.isEmbed = false → (ofInput value).raw = trimmed value.toList) ∧
      (m.isEmbed = true →
        (ofInput value).raw = "[[ " ++ trimmed value.toList ++ " ]]" ∧
        (validate s false (ofInput value).raw = .ok () ↔
          ClosesDouble (trim value.toList ++ " ]]".toList)) ∧
        ∀ n, Mention.parse? (ofInput value).raw = some n →
          n.isEmbed = false ∧ n.typeHint = none ∧ ['{', '{'] <+: n.query.toList) ∧
      (validate s false (ofInput value).raw = .ok () ∧
        Mention.parse? (ofInput value).raw = some m ↔ m.isEmbed = false) := by
  obtain ⟨m, read⟩ := (validate_lenient_iff.mp accepted).resolve_left filled
  refine ⟨m, read, ?_⟩
  rw [validate_ofInput_iff filled]
  rcases parse?_ofList_eq_some_iff.mp read with ⟨size, link⟩ | ⟨-, size, embed⟩
  · have plain : m.isEmbed = false := isEmbed_of_recognizeLink link
    have kept : (ofInput value).raw = trimmed value.toList := ofInput_of_link link
    refine ⟨fun _ => kept, fun braced => absurd (plain.symm.trans braced) (by decide), ?_⟩
    rw [kept]
    exact iff_of_true ⟨⟨m, read⟩, read⟩ plain
  · have braced : m.isEmbed = true := isEmbed_of_recognizeEmbed embed
    have opened := ofInput_of_embed embed
    refine ⟨fun plain => absurd (plain.symm.trans braced) (by decide), fun _ => opened, ?_, ?_⟩
    · rintro ⟨-, parsed⟩
      exact (opened.2.2 m parsed).1
    · intro plain
      exact absurd (plain.symm.trans braced) (by decide)

/-- A link between blanks, and an embed. -/
theorem ofInput_keeps_iff_films :
    (ofInput " [[ m->Mad Max | it ]] ").raw = "[[ m->Mad Max | it ]]" ∧
    (ofInput "{{ Mad Max | image }}").raw = "[[ {{ Mad Max | image }} ]]" := by
  have link := @ofInput_keeps_iff _ _ films " [[ m->Mad Max | it ]] " rfl (by decide)
  have embed := @ofInput_keeps_iff _ _ films "{{ Mad Max | image }}" rfl (by decide)
  obtain ⟨m, read, kept, -⟩ := link
  obtain ⟨n, shown, -, opened, -⟩ := embed
  cases read
  cases shown
  exact ⟨kept rfl, (opened rfl).1⟩

/-- The image of a film is a valid value.  Put in, it is a link that is labelled with the name of
the attribute and the closing braces. -/
theorem embed_put_in_becomes_link :
    validate films false "{{ Mad Max | image }}" = .ok () ∧
    (∃ m, Mention.parse? "{{ Mad Max | image }}" = some m ∧
      m.query = "Mad Max" ∧ m.request = .embed "image" {}) ∧
    validate films false (ofInput "{{ Mad Max | image }}").raw = .ok () ∧
    ∃ m, Mention.parse? (ofInput "{{ Mad Max | image }}").raw = some m ∧
      m.query = "\x7b\x7b Mad Max" ∧ m.request = .link (some "image \x7d\x7d") := by
  exact ⟨rfl, ⟨_, rfl, rfl, rfl⟩, rfl, ⟨_, rfl, rfl, rfl⟩⟩

end Site

end LinkField

end Wikilink
