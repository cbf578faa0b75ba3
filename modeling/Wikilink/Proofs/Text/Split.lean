/-
# Proofs.Text.Split -- parts and separators

Splitting a text gives parts without the separator, and joining them gives the text
again (`join_split`, `split_join`).  The text up to the first separator and the text
behind it are what one split gives (`splitOnce?_eq_some_iff`).
-/
import Wikilink.Content.Path
import Wikilink.Proofs.Text.Scan

namespace Wikilink

set_option autoImplicit false

namespace Text

variable {separator : Char}

/-! ## Splitting -/

theorem split_cons_separator (s : List Char) :
    split separator (separator :: s) = [] :: split separator s :=
  if_pos rfl

theorem split_ne_nil (s : List Char) : split separator s ≠ [] := by
  cases s with
  | nil => simp [split]
  | cons c s =>
      unfold split
      split
      · simp
      · split <;> simp

theorem split_cons_other {c : Char} (other : c ≠ separator) {s part : List Char}
    {parts : List (List Char)} (rest : split separator s = part :: parts) :
    split separator (c :: s) = (c :: part) :: parts := by
  rw [split, if_neg other, rest]

/-- A text starts with its first part. -/
theorem split_append {part : List Char} (free : separator ∉ part) (s : List Char) :
    split separator (part ++ separator :: s) = part :: split separator s := by
  induction part with
  | nil => exact split_cons_separator s
  | cons c part ih =>
      rw [List.mem_cons, not_or] at free
      exact split_cons_other (fun same => free.1 same.symm) (ih free.2)

theorem split_of_not_mem {s : List Char} (free : separator ∉ s) : split separator s = [s] := by
  induction s with
  | nil => rfl
  | cons c s ih =>
      rw [List.mem_cons, not_or] at free
      exact split_cons_other (fun same => free.1 same.symm) (ih free.2)

/-- The parts before a separator and those behind it. -/
theorem split_append_separator (s t : List Char) :
    split separator (s ++ separator :: t) = split separator s ++ split separator t := by
  induction s with
  | nil => exact split_cons_separator t
  | cons c s ih =>
      by_cases same : c = separator
      · subst same
        rw [List.cons_append, split_cons_separator, split_cons_separator, ih, List.cons_append]
      · cases whole : split separator s with
        | nil => exact absurd whole (split_ne_nil s)
        | cons part parts =>
            rw [whole, List.cons_append] at ih
            rw [List.cons_append, split_cons_other same ih, split_cons_other same whole]
            rfl

/-- A text is its first part, or its first part before a separator and the other parts. -/
theorem split_cases (separator : Char) (s : List Char) :
    separator ∉ s ∧ split separator s = [s] ∨
      ∃ part rest, s = part ++ separator :: rest ∧ separator ∉ part ∧
        split separator s = part :: split separator rest := by
  by_cases present : separator ∈ s
  · obtain ⟨part, rest, rfl, free⟩ := List.eq_append_cons_of_mem present
    exact Or.inr ⟨part, rest, rfl, free, split_append free rest⟩
  · exact Or.inl ⟨present, split_of_not_mem present⟩

theorem join_cons {part : List Char} {parts : List (List Char)} (more : parts ≠ []) :
    join separator (part :: parts) = part ++ separator :: join separator parts := by
  cases parts with
  | nil => exact absurd rfl more
  | cons next parts => rfl

theorem mem_join {separator c : Char} {parts : List (List Char)}
    (mem : c ∈ join separator parts) : c = separator ∨ ∃ part ∈ parts, c ∈ part := by
  induction parts with
  | nil => exact absurd mem List.not_mem_nil
  | cons part parts ih =>
      by_cases last : parts = []
      · subst last
        exact Or.inr ⟨part, by simp, mem⟩
      · rw [join_cons last, List.mem_append, List.mem_cons] at mem
        rcases mem with mem | rfl | mem
        · exact Or.inr ⟨part, by simp, mem⟩
        · exact Or.inl rfl
        · rcases ih mem with same | ⟨p, inside, mem⟩
          · exact Or.inl same
          · exact Or.inr ⟨p, by simp [inside], mem⟩

/-- **The parts with the separators between them are the text.** -/
theorem join_split (separator : Char) (s : List Char) : join separator (split separator s) = s := by
  induction length : s.length using Nat.strongRecOn generalizing s with
  | _ n ih =>
    rcases split_cases separator s with ⟨-, whole⟩ | ⟨part, rest, rfl, -, whole⟩
    · rw [whole]
      rfl
    · rw [whole, join_cons (split_ne_nil rest), ih rest.length ?_ rest rfl]
      rw [← length, List.length_append, List.length_cons]
      omega

/-- **Parts without the separator are the parts of what they are joined to.** -/
theorem split_join {parts : List (List Char)} (nonempty : parts ≠ [])
    (free : ∀ part ∈ parts, separator ∉ part) : split separator (join separator parts) = parts := by
  induction parts with
  | nil => exact absurd rfl nonempty
  | cons part parts ih =>
      cases parts with
      | nil => exact split_of_not_mem (free part (by simp))
      | cons next parts =>
          rw [join_cons (by simp), split_append (free part (by simp)),
            ih (by simp) fun p mem => free p (by simp [mem])]

/-! ## The first separator -/

theorem splitOnce?_eq_none_iff {s : List Char} : splitOnce? separator s = none ↔ separator ∉ s := by
  rw [splitOnce?]
  split
  · rename_i none
    rw [List.dropWhile_eq_nil_iff] at none
    exact ⟨fun _ mem => absurd (none separator mem) (by simp), fun _ => rfl⟩
  · rename_i c after rest
    have present : separator ∈ s := by
      by_contra free
      rw [List.dropWhile_eq_nil_iff.mpr (forall_ne_of_not_mem free)] at rest
      cases rest
    simpa using present

theorem splitOnce?_append {before : List Char} (free : separator ∉ before) (after : List Char) :
    splitOnce? separator (before ++ separator :: after) = some (before, after) := by
  have inside := forall_ne_of_not_mem free
  have stop : decide (separator ≠ separator) = false := by simp
  simp only [splitOnce?, dropWhile_run inside stop, takeWhile_run inside stop]

/-- A text comes apart at its first separator. -/
theorem splitOnce?_eq_some_iff {s before after : List Char} :
    splitOnce? separator s = some (before, after) ↔
      s = before ++ separator :: after ∧ separator ∉ before := by
  constructor
  · intro found
    have present : separator ∈ s := by
      by_contra free
      rw [splitOnce?_eq_none_iff.mpr free] at found
      cases found
    obtain ⟨front, back, rfl, free⟩ := List.eq_append_cons_of_mem present
    rw [splitOnce?_append free] at found
    cases found
    exact ⟨rfl, free⟩
  · rintro ⟨rfl, free⟩
    exact splitOnce?_append free after

end Text

/-! ## Paths -/

theorem toList_intercalate_dot {words : List String} :
    (".".intercalate words).toList = Text.join '.' (words.map String.toList) := by
  induction words with
  | nil => simp [Text.join]
  | cons word words ih =>
      cases words with
      | nil => simp [Text.join]
      | cons next words =>
          have joined :=
            @Text.join_cons '.' word.toList ((next :: words).map String.toList) (by simp)
          show _ = Text.join '.' (word.toList :: (next :: words).map String.toList)
          rw [String.intercalate_cons_cons, String.toList_append, String.toList_append, ih, joined,
            List.append_assoc]
          rfl

/-- The segments of a path that is joined from segments. -/
theorem pathSegments_intercalate {segments : List String} (nonempty : segments ≠ [])
    (free : ∀ segment ∈ segments, '.' ∉ segment.toList) :
    pathSegments (".".intercalate segments) = segments := by
  rw [pathSegments, toList_intercalate_dot, Text.split_join (by simpa using nonempty)]
  · rw [List.map_map]
    simp
  · intro part mem
    obtain ⟨segment, inside, rfl⟩ := List.mem_map.mp mem
    exact free segment inside

theorem pathSegments_ne_nil (path : String) : pathSegments path ≠ [] := by
  simpa [pathSegments] using Text.split_ne_nil path.toList

theorem intercalate_pathSegments (path : String) : ".".intercalate (pathSegments path) = path := by
  apply String.toList_injective
  rw [toList_intercalate_dot, pathSegments, List.map_map]
  have same : (String.toList ∘ String.ofList) = id := by
    funext s
    simp
  rw [same, List.map_id, Text.join_split]

end Wikilink
