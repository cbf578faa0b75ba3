/-
# Proofs.Source -- a source as a finite map

A source holds at most one object under an id (`get?_eq_some_iff`).  Inserting an
object changes what its own id leads to (`get?_insert`), erasing an id leaves
nothing under it (`get?_erase`), and neither reaches any other id.  An object may be
indexed if its id leads to it and it is in scope (`mem_all_iff`).
-/
import Mathlib.Data.List.Nodup
import Wikilink.Content.Source
import Wikilink.Proofs.Ascending

namespace Wikilink.Source

set_option autoImplicit false

variable {s : Source} {o p : Item} {id : Nat}

theorem eq_of_id (memO : o ∈ s.objects) (memP : p ∈ s.objects) (same : o.id = p.id) : o = p := by
  have ids : (s.objects.map Item.id).Nodup :=
    List.pairwise_map.mpr (s.ascending.imp fun before => Nat.ne_of_lt before)
  exact List.inj_on_of_nodup_map ids memO memP same

theorem get?_eq_some_iff : s.get? id = some o ↔ o ∈ s.objects ∧ o.id = id := by
  constructor
  · intro found
    exact ⟨List.mem_of_find?_eq_some found, by simpa using List.find?_some found⟩
  · rintro ⟨mem, rfl⟩
    cases found : s.get? o.id with
    | none => simpa using List.find?_eq_none.mp found o mem
    | some p =>
        have same : p.id = o.id := by simpa using List.find?_some found
        rw [eq_of_id (List.mem_of_find?_eq_some found) mem same]

/-! ## Changes -/

/-- An insertion keeps the objects of other ids. -/
theorem mem_insert : p ∈ (s.insert o).objects ↔ p = o ∨ p ∈ s.objects ∧ p.id ≠ o.id :=
  Ascending.mem_insert_of_key (fun _ _ => Iff.rfl) s.ascending

theorem get?_insert : (s.insert o).get? id = if id = o.id then some o else s.get? id := by
  by_cases same : id = o.id
  · rw [if_pos same]
    exact get?_eq_some_iff.mpr ⟨mem_insert.mpr (Or.inl rfl), same.symm⟩
  · rw [if_neg same]
    refine Option.ext fun p => ?_
    rw [get?_eq_some_iff, get?_eq_some_iff, mem_insert]
    constructor
    · rintro ⟨rfl | ⟨mem, -⟩, found⟩
      · exact absurd found.symm same
      · exact ⟨mem, found⟩
    · rintro ⟨mem, rfl⟩
      exact ⟨Or.inr ⟨mem, same⟩, rfl⟩

theorem get?_erase {erased : Nat} :
    (s.erase erased).get? id = if id = erased then none else s.get? id := by
  refine Option.ext fun p => ?_
  rw [get?_eq_some_iff]
  simp only [erase, List.mem_filter, decide_eq_true_eq]
  split
  · rename_i same
    simp only [reduceCtorEq, iff_false, not_and]
    intro mem found
    exact mem.2 (found.trans same)
  · rename_i other
    rw [get?_eq_some_iff]
    constructor
    · rintro ⟨⟨mem, -⟩, found⟩
      exact ⟨mem, found⟩
    · rintro ⟨mem, rfl⟩
      exact ⟨⟨mem, other⟩, rfl⟩

@[simp] theorem inScope_insert : (s.insert o).inScope = s.inScope := rfl

@[simp] theorem inScope_erase : (s.erase id).inScope = s.inScope := rfl

@[simp] theorem indexesScopeOnly_insert : (s.insert o).indexesScopeOnly = s.indexesScopeOnly := rfl

@[simp] theorem indexesScopeOnly_erase : (s.erase id).indexesScopeOnly = s.indexesScopeOnly := rfl

/-! ## Scope -/

theorem mem_all_iff : o ∈ s.all ↔ s.get? o.id = some o ∧ s.inScope o = true := by
  rw [get?_eq_some_iff, all, List.mem_filter]
  simp

theorem nodup_ids (s : Source) : (s.all.map Item.id).Nodup := by
  refine List.pairwise_map.mpr ?_
  exact (s.ascending.filter _).imp fun before => Nat.ne_of_lt before

theorem indexable?_congr {t : Source} (found : s.get? id = t.get? id) (inScope : s.inScope = t.inScope)
    (scopeOnly : s.indexesScopeOnly = t.indexesScopeOnly) : s.indexable? id = t.indexable? id := by
  rw [indexable?, indexable?, found, inScope, scopeOnly]

/-- An object in scope may be indexed, whichever way the source looks for it. -/
theorem indexable?_of_mem_all (mem : o ∈ s.all) : s.indexable? o.id = some o := by
  obtain ⟨found, inScope⟩ := mem_all_iff.mp mem
  simp [indexable?, found, inScope]

/-- Where only objects in scope are found for indexing, those are the objects listed. -/
theorem indexable?_eq_some_iff (scopeOnly : s.indexesScopeOnly = true) :
    s.indexable? id = some o ↔ o ∈ s.all ∧ o.id = id := by
  rw [mem_all_iff, indexable?, Option.filter_eq_some_iff]
  simp only [scopeOnly, Bool.not_true, Bool.false_or]
  constructor
  · rintro ⟨found, inScope⟩
    have same := (get?_eq_some_iff.mp found).2
    exact ⟨⟨same ▸ found, inScope⟩, same⟩
  · rintro ⟨⟨found, inScope⟩, rfl⟩
    exact ⟨found, inScope⟩

end Wikilink.Source
