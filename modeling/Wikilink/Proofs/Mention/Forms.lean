/-
# Proofs.Mention.Forms -- what a link and an embed are made of

A link is two brackets around a text that ends at the first closing bracket and is a
query, or a query, a bar and a label (`recognizeLink_eq_some_iff`).  An embed is two
braces around a query, a bar and a request that ends at the first closing brace
(`recognizeEmbed_eq_some_iff`).  Both are recognized by their own characters alone,
whatever follows (`local_recognizeLink`, `local_recognizeEmbed`), and these are known by
their brackets (`covered_of_recognizeLink`, `covered_of_recognizeEmbed`).
-/
import Wikilink.Mention.Search
import Wikilink.Proofs.Mention.Hint

namespace Wikilink.Mention

set_option autoImplicit false

/-! ## Embeds -/

/-- The parts of an embed stand one after the other up to the closing braces. -/
theorem embedParts?_eq_some_iff {inner subject : List Char} {request : Request} {size : Nat} :
    embedParts? inner = some (subject, request, size) ↔
      subject ≠ [] ∧ (∀ c ∈ subject, inQuery c = true) ∧
        ∃ tail rest, inner = subject ++ '|' :: (tail ++ '}' :: '}' :: rest) ∧ '}' ∉ tail ∧
          embedRequest? tail = some request ∧ size = subject.length + 1 + tail.length := by
  constructor
  · intro parts
    have whole := List.takeWhile_append_dropWhile (p := inQuery) (l := inner)
    have queried : ∀ c ∈ inner.takeWhile inQuery, inQuery c = true :=
      fun c mem => List.mem_takeWhile_imp mem
    simp only [embedParts?] at parts
    split at parts
    · cases parts
    · rename_i nonempty
      split at parts
      · rename_i rest bar
        split at parts
        · rename_i after closed
          have inside :=
            List.takeWhile_append_dropWhile (p := fun c => decide (c ≠ '}')) (l := rest)
          cases asked : embedRequest? (rest.takeWhile fun c => decide (c ≠ '}')) with
          | none => rw [asked] at parts; cases parts
          | some r =>
              rw [asked] at parts
              cases parts
              refine ⟨by simpa using nonempty, queried, _, after, ?_,
                Text.not_mem_takeWhile_ne rest '}', asked, rfl⟩
              rw [← closed, inside, ← bar, whole]
        · cases parts
      · cases parts
  · rintro ⟨nonempty, queried, tail, rest, rfl, braceless, asked, rfl⟩
    have bar : inQuery '|' = false := by decide
    have inside := Text.forall_ne_of_not_mem braceless
    have brace : decide ('}' ≠ '}') = false := by decide
    simp only [embedParts?, Text.takeWhile_run queried bar, Text.dropWhile_run queried bar,
      Text.takeWhile_run inside brace, Text.dropWhile_run inside brace, asked]
    rw [if_neg (by simpa using nonempty)]
    rfl

/-- **An embed is two braces around its parts.** -/
theorem recognizeEmbed_eq_some_iff {s : List Char} {m : Mention} {size : Nat} :
    recognizeEmbed s = some (m, size) ↔
      ∃ subject tail rest request,
        s = '{' :: '{' :: (subject ++ '|' :: (tail ++ '}' :: '}' :: rest)) ∧
        subject ≠ [] ∧ (∀ c ∈ subject, inQuery c = true) ∧ '}' ∉ tail ∧
        embedRequest? tail = some request ∧ size = subject.length + tail.length + 5 ∧
        m = ⟨String.ofList (s.take size), (splitHint subject).1, (splitHint subject).2,
          request⟩ := by
  constructor
  · intro recognized
    unfold recognizeEmbed at recognized
    split at recognized
    · rename_i inner
      cases parts : embedParts? inner with
      | none => rw [parts] at recognized; cases recognized
      | some found =>
          obtain ⟨subject, request, length⟩ := found
          rw [parts] at recognized
          cases recognized
          obtain ⟨nonempty, queried, tail, rest, rfl, braceless, asked, rfl⟩ :=
            embedParts?_eq_some_iff.mp parts
          exact ⟨subject, tail, rest, request, rfl, nonempty, queried, braceless, asked, by omega,
            rfl⟩
    · cases recognized
  · rintro ⟨subject, tail, rest, request, rfl, nonempty, queried, braceless, asked, rfl, rfl⟩
    have parts := embedParts?_eq_some_iff.mpr
      ⟨nonempty, queried, tail, rest, rfl, braceless, asked, rfl⟩
    have length : subject.length + tail.length + 5 = subject.length + 1 + tail.length + 4 := by
      omega
    rw [length]
    simp only [recognizeEmbed, parts]
    rfl

theorem covering_recognizeEmbed : Text.Recognizer.Covering recognizeEmbed := by
  intro s m size recognized
  obtain ⟨subject, tail, rest, request, rfl, -, -, -, -, rfl, -⟩ :=
    recognizeEmbed_eq_some_iff.mp recognized
  simp only [List.length_cons, List.length_append]
  omega

/-- What an embed covers of a text that begins with it. -/
theorem take_embed (subject tail rest : List Char) :
    ('{' :: '{' :: (subject ++ '|' :: (tail ++ '}' :: '}' :: rest))).take
      (subject.length + tail.length + 5) =
        '{' :: '{' :: (subject ++ '|' :: (tail ++ ['}', '}'])) := by
  have split : '{' :: '{' :: (subject ++ '|' :: (tail ++ '}' :: '}' :: rest)) =
      ('{' :: '{' :: (subject ++ '|' :: (tail ++ ['}', '}']))) ++ rest := by simp
  rw [split, List.take_left' (by simp; omega)]

/-- An embed is recognized by its own characters. -/
theorem local_recognizeEmbed : Text.Recognizer.Local recognizeEmbed := by
  intro s m size t recognized
  obtain ⟨subject, tail, rest, request, rfl, nonempty, queried, braceless, asked, rfl, rfl⟩ :=
    recognizeEmbed_eq_some_iff.mp recognized
  have whole : ('{' :: '{' :: (subject ++ '|' :: (tail ++ ['}', '}']))) ++ t =
      '{' :: '{' :: (subject ++ '|' :: (tail ++ '}' :: '}' :: t)) := by simp
  rw [take_embed, whole]
  exact recognizeEmbed_eq_some_iff.mpr
    ⟨subject, tail, t, request, rfl, nonempty, queried, braceless, asked, rfl, by rw [take_embed]⟩

/-! ## Links -/

/-- What stands between the brackets of a link: a query, or a query, a bar and a label. -/
inductive LinkContent : List Char → List Char → Option (List Char) → Prop where
  | bare {query : List Char} (nonempty : query ≠ []) (barless : '|' ∉ query) :
      LinkContent query query none
  | labelled {query label : List Char} (nonempty : query ≠ []) (barless : '|' ∉ query)
      (shown : label ≠ []) : LinkContent (query ++ '|' :: label) query (some label)

/-- The content of a link is taken apart at its first bar. -/
theorem linkParts?_append {content subject : List Char} {label : Option (List Char)}
    (bracketless : ']' ∉ content) (made : LinkContent content subject label) (rest : List Char) :
    linkParts? (content ++ ']' :: ']' :: rest) = some (subject, label, content.length) := by
  have closes : inQuery ']' = false := by decide
  have bar : inQuery '|' = false := by decide
  have bracket : decide (']' ≠ ']') = false := by decide
  cases made with
  | bare nonempty barless =>
      have queried := inQuery_of_not_mem bracketless barless
      simp only [linkParts?, Text.takeWhile_run queried closes, Text.dropWhile_run queried closes]
      rw [if_neg (by simpa using nonempty)]
  | @labelled query label nonempty barless shown =>
      simp only [List.mem_append, List.mem_cons, not_or] at bracketless
      have queried := inQuery_of_not_mem bracketless.1 barless
      have inside := Text.forall_ne_of_not_mem bracketless.2.2
      simp only [List.append_assoc, List.cons_append, linkParts?,
        Text.takeWhile_run queried bar, Text.dropWhile_run queried bar,
        Text.takeWhile_run inside bracket, Text.dropWhile_run inside bracket]
      rw [if_neg (by simpa using nonempty), if_neg (by simpa using shown)]
      simp only [List.length_append, List.length_cons, Option.some.injEq, Prod.mk.injEq, true_and]
      omega

/-- The parts of a link make up what stands before its first closing bracket. -/
theorem linkParts?_eq_some_iff {inner subject : List Char} {label : Option (List Char)}
    {size : Nat} :
    linkParts? inner = some (subject, label, size) ↔
      ∃ content rest, inner = content ++ ']' :: ']' :: rest ∧ ']' ∉ content ∧
        LinkContent content subject label ∧ size = content.length := by
  constructor
  · intro parts
    have whole := List.takeWhile_append_dropWhile (p := inQuery) (l := inner)
    have bracketless : ']' ∉ inner.takeWhile inQuery :=
      fun mem => absurd (List.mem_takeWhile_imp mem) (by decide)
    have barless : '|' ∉ inner.takeWhile inQuery :=
      fun mem => absurd (List.mem_takeWhile_imp mem) (by decide)
    simp only [linkParts?] at parts
    split at parts
    · cases parts
    · rename_i nonempty
      have nonempty : inner.takeWhile inQuery ≠ [] := by simpa using nonempty
      split at parts
      · rename_i rest closed
        cases parts
        exact ⟨_, rest, by rw [← closed, whole], bracketless, .bare nonempty barless, rfl⟩
      · rename_i rest bar
        split at parts
        · cases parts
        · rename_i shown
          have shown : rest.takeWhile (fun c => decide (c ≠ ']')) ≠ [] := by simpa using shown
          split at parts
          · rename_i after closed
            cases parts
            have inside :=
              List.takeWhile_append_dropWhile (p := fun c => decide (c ≠ ']')) (l := rest)
            refine ⟨_, after, ?_, ?_, .labelled nonempty barless shown, ?_⟩
            · rw [List.append_assoc, List.cons_append, ← closed, inside, ← bar, whole]
            · simp only [List.mem_append, List.mem_cons, not_or]
              exact ⟨bracketless, by decide, Text.not_mem_takeWhile_ne rest ']'⟩
            · simp only [List.length_append, List.length_cons]
              omega
          · cases parts
      · cases parts
  · rintro ⟨content, rest, rfl, bracketless, made, rfl⟩
    exact linkParts?_append bracketless made rest

/-- **A link is two brackets around its parts**, up to the first closing bracket. -/
theorem recognizeLink_eq_some_iff {s : List Char} {m : Mention} {size : Nat} :
    recognizeLink s = some (m, size) ↔
      ∃ content rest subject label, s = '[' :: '[' :: (content ++ ']' :: ']' :: rest) ∧
        ']' ∉ content ∧ LinkContent content subject label ∧ size = content.length + 4 ∧
        m = ⟨String.ofList (s.take size), (splitHint subject).1, (splitHint subject).2,
          .link (label.map trimmed)⟩ := by
  constructor
  · intro recognized
    unfold recognizeLink at recognized
    split at recognized
    · rename_i inner
      cases parts : linkParts? inner with
      | none => rw [parts] at recognized; cases recognized
      | some found =>
          obtain ⟨subject, label, length⟩ := found
          rw [parts] at recognized
          cases recognized
          obtain ⟨content, rest, rfl, bracketless, made, rfl⟩ := linkParts?_eq_some_iff.mp parts
          exact ⟨content, rest, subject, label, rfl, bracketless, made, rfl, rfl⟩
    · cases recognized
  · rintro ⟨content, rest, subject, label, rfl, bracketless, made, rfl, rfl⟩
    have parts := linkParts?_eq_some_iff.mpr ⟨content, rest, rfl, bracketless, made, rfl⟩
    simp only [recognizeLink, parts]
    rfl

theorem covering_recognizeLink : Text.Recognizer.Covering recognizeLink := by
  intro s m size recognized
  obtain ⟨content, rest, -, -, rfl, -, -, rfl, -⟩ := recognizeLink_eq_some_iff.mp recognized
  simp only [List.length_cons, List.length_append]
  omega

/-- What a link covers of a text that begins with it. -/
theorem take_link (content rest : List Char) :
    ('[' :: '[' :: (content ++ ']' :: ']' :: rest)).take (content.length + 4) =
      '[' :: '[' :: (content ++ [']', ']']) := by
  have split : '[' :: '[' :: (content ++ ']' :: ']' :: rest) =
      ('[' :: '[' :: (content ++ [']', ']'])) ++ rest := by simp
  rw [split, List.take_left' (by simp)]

/-- A link is recognized by its own characters. -/
theorem local_recognizeLink : Text.Recognizer.Local recognizeLink := by
  intro s m size t recognized
  obtain ⟨content, rest, subject, label, rfl, bracketless, made, rfl, rfl⟩ :=
    recognizeLink_eq_some_iff.mp recognized
  have whole : ('[' :: '[' :: (content ++ [']', ']'])) ++ t =
      '[' :: '[' :: (content ++ ']' :: ']' :: t) := by simp
  rw [take_link, whole]
  exact recognizeLink_eq_some_iff.mpr
    ⟨content, t, subject, label, rfl, bracketless, made, rfl, by rw [take_link]⟩

/-! ## Covered characters -/

section Covered

variable {covered rest : List Char} {m : Mention}

/-- A link covers two brackets on each side of a text without a closing bracket. -/
theorem covered_of_recognizeLink
    (recognized : recognizeLink (covered ++ rest) = some (m, covered.length)) :
    ∃ content, covered = '[' :: '[' :: (content ++ [']', ']']) ∧ ']' ∉ content := by
  obtain ⟨content, after, -, -, whole, bracketless, -, length, -⟩ :=
    recognizeLink_eq_some_iff.mp recognized
  have same : (covered ++ rest).take covered.length = covered := List.take_left
  rw [whole, length, take_link] at same
  exact ⟨content, same.symm, bracketless⟩

/-- An embed covers two braces on each side of a query, a bar and a text without a closing
brace. -/
theorem covered_of_recognizeEmbed
    (recognized : recognizeEmbed (covered ++ rest) = some (m, covered.length)) :
    ∃ subject tail, covered = '{' :: '{' :: (subject ++ '|' :: (tail ++ ['}', '}'])) ∧
      (∀ c ∈ subject, inQuery c = true) ∧ '}' ∉ tail := by
  obtain ⟨subject, tail, after, -, whole, -, queried, braceless, -, length, -⟩ :=
    recognizeEmbed_eq_some_iff.mp recognized
  have same : (covered ++ rest).take covered.length = covered := List.take_left
  rw [whole, length, take_embed] at same
  exact ⟨subject, tail, same.symm, queried, braceless⟩

end Covered

end Wikilink.Mention
