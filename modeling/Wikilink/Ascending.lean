/-
# Ascending -- lists kept in order without repetition

A finite set or table whose order shows in answers is a list in strictly
ascending order.  Insertion keeps the order, and an element that ties with the
new one is replaced by it, so a later entry under an old key wins.
-/

namespace Wikilink

set_option autoImplicit false

namespace Ascending

variable {α : Type} (before : α → α → Prop) [DecidableRel before]

/-- The list with `x` at its place; an element neither before nor after `x` gives way to it. -/
def insert (x : α) : List α → List α
  | [] => [x]
  | y :: ys =>
      if before x y then x :: y :: ys
      else if before y x then y :: insert x ys
      else x :: ys

/-- The elements in ascending order; of elements that tie, the last one stays. -/
def ofList (xs : List α) : List α :=
  xs.foldl (fun sorted x => insert before x sorted) []

/-! ## Order -/

section Order

variable {before}

theorem eq_or_mem_of_mem_insert {x y : α} {ys : List α} (mem : y ∈ insert before x ys) :
    y = x ∨ y ∈ ys := by
  induction ys with
  | nil => simpa [insert] using mem
  | cons z zs ih =>
      simp only [insert] at mem
      split at mem
      · simpa using mem
      · split at mem
        · rcases List.mem_cons.mp mem with rfl | mem
          · simp
          · rcases ih mem with rfl | mem
            · simp
            · simp [mem]
        · rcases List.mem_cons.mp mem with rfl | mem
          · simp
          · simp [mem]

/-- Insertion keeps a list ascending if elements that tie stand before the same elements. -/
theorem pairwise_insert (trans : ∀ {a b c : α}, before a b → before b c → before a c)
    (tie : ∀ {a b c : α}, ¬ before a b → ¬ before b a → before b c → before a c)
    (x : α) {ys : List α} (ascending : ys.Pairwise before) :
    (insert before x ys).Pairwise before := by
  induction ascending with
  | nil => simp [insert]
  | @cons y ys first rest ih =>
      simp only [insert]
      split
      · rename_i here
        refine List.pairwise_cons.mpr ⟨?_, List.pairwise_cons.mpr ⟨first, rest⟩⟩
        intro z mem
        rcases List.mem_cons.mp mem with rfl | mem
        · exact here
        · exact trans here (first z mem)
      · rename_i notHere
        split
        · rename_i later
          refine List.pairwise_cons.mpr ⟨?_, ih⟩
          intro z mem
          rcases eq_or_mem_of_mem_insert mem with rfl | mem
          · exact later
          · exact first z mem
        · rename_i notLater
          exact List.pairwise_cons.mpr ⟨fun z mem => tie notHere notLater (first z mem), rest⟩

end Order

end Ascending

end Wikilink
