/-
# Proofs.Ascending -- ascending lists as finite sets

Under a strict total order an ascending list is determined by its elements
(`eq_of_mem_iff`).  `insert` adds one element (`mem_insert`) and `ofList` keeps
the elements of any list (`mem_ofList`), so two lists with the same elements
make the same ascending list, whatever their order and repetitions.

A scan of an ascending list that skips to a first element and stops behind the
last one that it is after reads a filter of the list (`scan_eq_filter`).
-/
import Mathlib.Data.List.Sort
import Wikilink.Ascending

namespace Wikilink.Ascending

set_option autoImplicit false

/-- Ordering by one part and then by another is total if the two parts make up the whole. -/
theorem isStrictTotalOrder_lex {α β γ : Type} {r : β → β → Prop} {t : γ → γ → Prop}
    [IsStrictTotalOrder β r] [IsStrictTotalOrder γ t] (f : α → β) (g : α → γ)
    (whole : ∀ {a b : α}, f a = f b → g a = g b → a = b) :
    IsStrictTotalOrder α fun a b => r (f a) (f b) ∨ f a = f b ∧ t (g a) (g b) where
  trichotomous a b notBefore notAfter := by
    rw [not_or] at notBefore notAfter
    have first : f a = f b := Std.Trichotomous.trichotomous _ _ notBefore.1 notAfter.1
    have second : g a = g b :=
      Std.Trichotomous.trichotomous _ _ (fun h => notBefore.2 ⟨first, h⟩)
        (fun h => notAfter.2 ⟨first.symm, h⟩)
    exact whole first second
  irrefl a before := by
    rcases before with h | ⟨-, h⟩
    · exact irrefl_of r _ h
    · exact irrefl_of t _ h
  trans a b c ab bc := by
    rcases ab with ab | ⟨eab, ab⟩ <;> rcases bc with bc | ⟨ebc, bc⟩
    · exact Or.inl (trans_of r ab bc)
    · exact Or.inl (ebc ▸ ab)
    · exact Or.inl (eab ▸ bc)
    · exact Or.inr ⟨eab.trans ebc, trans_of t ab bc⟩

/-- Where elements are ordered by a key, insertion replaces the element of the same key. -/
theorem mem_insert_of_key {α β : Type} [LinearOrder β] {before : α → α → Prop}
    [DecidableRel before] {key : α → β} (keyed : ∀ a b, before a b ↔ key a < key b) {x y : α}
    {ys : List α} (ascending : ys.Pairwise before) :
    y ∈ insert before x ys ↔ y = x ∨ y ∈ ys ∧ key y ≠ key x := by
  induction ascending with
  | nil => simp [insert]
  | @cons z zs first later ih =>
      have beyond : ∀ w ∈ zs, key z < key w := fun w mem => (keyed z w).mp (first w mem)
      simp only [insert, keyed]
      split
      · rename_i here
        have apart : ∀ w ∈ z :: zs, key w ≠ key x := by
          intro w mem
          rcases List.mem_cons.mp mem with rfl | mem
          · exact ne_of_gt here
          · exact ne_of_gt (lt_trans here (beyond w mem))
        rw [List.mem_cons]
        exact or_congr_right ⟨fun mem => ⟨mem, apart y mem⟩, fun h => h.1⟩
      · rename_i notBefore
        split
        · rename_i after
          simp only [List.mem_cons, ih]
          constructor
          · rintro (rfl | rfl | ⟨mem, apart⟩)
            · exact Or.inr ⟨Or.inl rfl, ne_of_lt after⟩
            · exact Or.inl rfl
            · exact Or.inr ⟨Or.inr mem, apart⟩
          · rintro (rfl | ⟨rfl | mem, apart⟩)
            · exact Or.inr (Or.inl rfl)
            · exact Or.inl rfl
            · exact Or.inr (Or.inr ⟨mem, apart⟩)
        · rename_i notAfter
          have tie : key z = key x := le_antisymm (not_lt.mp notBefore) (not_lt.mp notAfter)
          simp only [List.mem_cons]
          constructor
          · rintro (rfl | mem)
            · exact Or.inl rfl
            · exact Or.inr ⟨Or.inr mem, ne_of_gt (tie ▸ beyond y mem)⟩
          · rintro (rfl | ⟨rfl | mem, apart⟩)
            · exact Or.inl rfl
            · exact absurd tie apart
            · exact Or.inr mem

section Total

variable {α : Type} {before : α → α → Prop} [DecidableRel before] [IsStrictTotalOrder α before]

/-! ## Elements and order -/

theorem mem_insert {x y : α} {ys : List α} : y ∈ insert before x ys ↔ y = x ∨ y ∈ ys := by
  induction ys with
  | nil => simp [insert]
  | cons z zs ih =>
      simp only [insert]
      split
      · simp
      · rename_i notBefore
        split
        · simp only [List.mem_cons, ih]
          tauto
        · rename_i notAfter
          have tie : x = z := Std.Trichotomous.trichotomous _ _ notBefore notAfter
          simp [tie]

theorem ascending_insert (x : α) {ys : List α} (ascending : ys.Pairwise before) :
    (insert before x ys).Pairwise before := by
  refine @pairwise_insert α before _ (fun ab bc => trans_of before ab bc) ?_ x ys ascending
  intro a b c notBefore notAfter bc
  have tie : a = b := Std.Trichotomous.trichotomous _ _ notBefore notAfter
  exact tie ▸ bc

theorem mem_foldl_insert {y : α} (xs : List α) (sorted : List α) :
    y ∈ xs.foldl (fun sorted x => insert before x sorted) sorted ↔ y ∈ xs ∨ y ∈ sorted := by
  induction xs generalizing sorted with
  | nil => simp
  | cons x xs ih =>
      rw [List.foldl_cons, ih, mem_insert, List.mem_cons]
      tauto

theorem ascending_foldl_insert (xs : List α) {sorted : List α}
    (ascending : sorted.Pairwise before) :
    (xs.foldl (fun sorted x => insert before x sorted) sorted).Pairwise before := by
  induction xs generalizing sorted with
  | nil => exact ascending
  | cons x xs ih => exact ih (ascending_insert x ascending)

theorem mem_ofList {y : α} {xs : List α} : y ∈ ofList before xs ↔ y ∈ xs := by
  simp [ofList, mem_foldl_insert]

theorem ascending_ofList (xs : List α) : (ofList before xs).Pairwise before :=
  ascending_foldl_insert xs List.Pairwise.nil

omit [DecidableRel before] in
theorem nodup {xs : List α} (ascending : xs.Pairwise before) : xs.Nodup := by
  refine List.Pairwise.imp ?_ ascending
  rintro a b ab rfl
  exact irrefl_of before a ab

omit [DecidableRel before] in
/-- **An ascending list is determined by its elements.** -/
theorem eq_of_mem_iff {xs ys : List α} (ascX : xs.Pairwise before) (ascY : ys.Pairwise before)
    (same : ∀ a, a ∈ xs ↔ a ∈ ys) : xs = ys :=
  List.Pairwise.eq_of_mem_iff ascX ascY same

/-! ## Scans -/

/-- Skipping to `first` and stopping at the first element outside of `inside` reads the elements
inside, if none of them stands before `first` and none follows an element outside. -/
theorem scan_eq_filter {first : α} {inside : α → Bool} {xs : List α}
    (ascending : xs.Pairwise before)
    (reached : ∀ x, inside x = true → ¬ before x first)
    (closed : ∀ x y, ¬ before x first → before x y → inside y = true → inside x = true) :
    (xs.dropWhile fun x => decide (before x first)).takeWhile inside = xs.filter inside := by
  induction ascending with
  | nil => rfl
  | @cons x xs later ascending ih =>
      by_cases skipped : before x first
      · have outside : inside x = false := by
          by_contra h
          exact reached x (by simpa using h) skipped
        rw [List.dropWhile_cons_of_pos (by simpa using skipped), ih,
          List.filter_cons_of_neg (by simp [outside])]
      · rw [List.dropWhile_cons_of_neg (by simpa using skipped)]
        have rest : (xs.dropWhile fun y => decide (before y first)) = xs := by
          cases xs with
          | nil => rfl
          | cons y ys =>
              refine List.dropWhile_cons_of_neg ?_
              intro before_first
              have xy : before x y := later y (by simp)
              exact skipped (trans_of before xy (by simpa using before_first))
        rw [rest] at ih
        by_cases within : inside x = true
        · rw [List.takeWhile_cons_of_pos within, List.filter_cons_of_pos within, ih]
        · rw [List.takeWhile_cons_of_neg within, List.filter_cons_of_neg within]
          have none : xs.filter inside = [] := by
            refine List.filter_eq_nil_iff.mpr ?_
            intro y mem yInside
            exact within (closed x y skipped (later y mem) yInside)
          exact none.symm

end Total

end Wikilink.Ascending
