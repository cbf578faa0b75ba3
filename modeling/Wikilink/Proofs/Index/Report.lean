/-
# Proofs.Index.Report -- the two tables and what is reported of them

The rows of an owner are listed from the table of the owners and looked up in the
table of the keys, and the sizes are counted over the table of the keys.  In a
well-formed index the two agree: the rows of an owner are all its rows, once each in
the order of their bytes (`mem_entriesOf`, `ascending_entriesOf`), and the sizes are
the sums of their numbers (`stats_entries`, `stats_byType`, `stats_objects`).  So it
is after every run of operations (`agreeing_afterAll`).
-/
import Mathlib.Algebra.BigOperators.Group.Finset.Basic
import Mathlib.Algebra.GroupWithZero.Nat
import Wikilink.Index.Report
import Wikilink.Proofs.Index.Operations
import Wikilink.Proofs.Table
import Wikilink.Proofs.Text.Bytes

namespace Wikilink

set_option autoImplicit false

open scoped BigOperators

/-! ## Counting under names -/

namespace Index

/-- The names of a table of counts stand in order. -/
abbrev CountsOrdered (counts : Table Nat) : Prop :=
  counts.Pairwise fun a b => a.1 < b.1

theorem ordered_countMore {counts : Table Nat} (ordered : CountsOrdered counts) (name : String) :
    CountsOrdered (countMore counts name) := by
  refine @Ascending.pairwise_insert (String × Nat) (fun a b => a.1 < b.1) _
    (fun ab bc => lt_trans ab bc) ?_ _ _ ordered
  intro a b c notBefore notAfter bc
  have tie : a.1 = b.1 := le_antisymm (not_lt.mp notAfter) (not_lt.mp notBefore)
  exact tie ▸ bc

theorem sum_countMore {counts : Table Nat} (ordered : CountsOrdered counts) (name : String) :
    ((countMore counts name).map Prod.snd).sum = (counts.map Prod.snd).sum + 1 := by
  induction ordered with
  | nil => rfl
  | @cons y ys first ordered ih =>
      obtain ⟨key, count⟩ := y
      simp only [countMore, Table.insert, Ascending.insert]
      split
      · rename_i before
        have beyond : ∀ entry ∈ (key, count) :: ys, name < entry.1 := by
          intro entry mem
          rcases List.mem_cons.mp mem with rfl | mem
          · exact before
          · exact lt_trans before (first entry mem)
        rw [Table.find?_of_before beyond]
        simp only [List.map_cons, List.sum_cons, Option.getD_none]
        omega
      · split
        · rename_i notBefore after
          rw [Table.find?_cons, if_neg (ne_of_gt after)]
          have later : ((Ascending.insert (fun a b => a.1 < b.1)
              (name, (Table.find? ys name).getD 0 + 1) ys).map Prod.snd).sum = _ := ih
          simp only [List.map_cons, List.sum_cons, later]
          omega
        · rename_i notBefore notAfter
          have tie : name = key := le_antisymm (not_lt.mp notAfter) (not_lt.mp notBefore)
          rw [Table.find?_cons, if_pos tie]
          simp only [List.map_cons, List.sum_cons, Option.getD_some]
          omega

theorem find?_countMore {counts : Table Nat} {name other : String} :
    ((countMore counts name).find? other).getD 0 =
      (counts.find? other).getD 0 + if other = name then 1 else 0 := by
  rw [countMore, Table.find?_insert]
  split
  · rename_i same
    rw [same, Option.getD_some]
  · rfl

/-- Counting the names of a list adds to each count how often the name stands there. -/
theorem foldl_countMore (names : List String) {counts : Table Nat}
    (ordered : CountsOrdered counts) :
    (∀ name, ((names.foldl countMore counts).find? name).getD 0 =
      (counts.find? name).getD 0 + names.count name) ∧
    ((names.foldl countMore counts).map Prod.snd).sum =
      (counts.map Prod.snd).sum + names.length := by
  induction names generalizing counts with
  | nil => exact ⟨fun name => rfl, rfl⟩
  | cons first names ih =>
      obtain ⟨each, all⟩ := ih (ordered_countMore ordered first)
      rw [List.foldl_cons]
      refine ⟨fun name => ?_, ?_⟩
      · rw [each, find?_countMore, List.count_cons]
        by_cases same : name = first
        · rw [if_pos same, if_pos (by simp [same])]
          omega
        · rw [if_neg same, if_neg (by simpa using Ne.symm same)]
          omega
      · rw [all, sum_countMore ordered, List.length_cons]
        omega

/-! ## The rows of an owner -/

variable {ix : Index} {owner : Owner}

/-- The rows of an owner are those of the table of the owners. -/
theorem entriesOf_eq_filter (well : ix.WellFormed) (owner : Owner) :
    ix.entriesOf owner = ix.byOwner.filter (·.owner = owner) := by
  have own : ∀ r ∈ ix.byOwner.filter (·.owner = owner), (⟨r.key, owner⟩ : Row) = r := by
    intro r mem
    have same : r.owner = owner := by simpa using (List.mem_filter.mp mem).2
    exact Row.eq_of_parts rfl same.symm
  have rows : (ix.keysOf owner).map (fun key => (⟨key, owner⟩ : Row)) =
      ix.byOwner.filter (·.owner = owner) := by
    rw [keysOf, List.map_map]
    exact (List.map_congr_left own).trans (List.map_id _)
  rw [entriesOf, rows, List.filter_eq_self]
  intro r mem
  have stored := (well.sameRows r).mpr (List.mem_of_mem_filter mem)
  simpa using stored

/-- **All rows of the owner are listed**, and no others. -/
theorem mem_entriesOf (well : ix.WellFormed) {r : Row} :
    r ∈ ix.entriesOf owner ↔ r ∈ ix ∧ r.owner = owner := by
  rw [entriesOf_eq_filter well, List.mem_filter, ← well.sameRows, mem_def, decide_eq_true_eq]

/-- **They are listed in the order of their bytes**, and so once each. -/
theorem ascending_entriesOf (well : ix.WellFormed) :
    (ix.entriesOf owner).Pairwise fun a b => Text.bytes a.key < Text.bytes b.key := by
  have rows := well.ownerAscending.filter (·.owner = owner)
  rw [entriesOf_eq_filter well]
  refine rows.imp_of_mem fun {a b} memA memB before => Text.bytes_lt_bytes_iff.mpr ?_
  have ownA : a.owner = owner := by simpa using (List.mem_filter.mp memA).2
  have ownB : b.owner = owner := by simpa using (List.mem_filter.mp memB).2
  rcases before with before | ⟨-, less⟩
  · rw [ownA, ownB] at before
    exact (irrefl_of Owner.Before owner before).elim
  · exact less

theorem length_entriesOf (well : ix.WellFormed) (owner : Owner) :
    (ix.entriesOf owner).length = (ix.byKey.map Row.owner).count owner := by
  have perm : ix.byOwner.Perm ix.byKey :=
    (List.perm_ext_iff_of_nodup (Ascending.nodup well.ownerAscending)
      (Ascending.nodup well.keyAscending)).mpr fun r => (well.sameRows r).symm
  rw [entriesOf_eq_filter well, (perm.filter _).length_eq, List.count_eq_length_filter,
    List.filter_map, List.length_map]
  rfl

/-! ## Sizes -/

/-- The objects that have a row. -/
def owners (ix : Index) : Finset Owner :=
  (ix.byKey.map Row.owner).toFinset

theorem mem_owners (well : ix.WellFormed) : owner ∈ ix.owners ↔ ix.entriesOf owner ≠ [] := by
  rw [← List.length_pos_iff, length_entriesOf well, List.count_pos_iff, owners, List.mem_toFinset]

/-- The rows are those of the objects that have one. -/
theorem stats_entries (well : ix.WellFormed) :
    ix.stats.entries = ∑ owner ∈ ix.owners, (ix.entriesOf owner).length := by
  simp only [length_entriesOf well]
  rw [owners, List.sum_toFinset_count_eq_length, List.length_map]
  rfl

theorem foldl_countMore_rows (rows : List Row) (counts : Table Nat) :
    rows.foldl (fun counts r => countMore counts r.owner.contentType) counts =
      (rows.map (·.owner.contentType)).foldl countMore counts :=
  List.foldl_map.symm

/-- The counts of the content types add up to the number of rows. -/
theorem sum_byType : (ix.stats.byType.map Prod.snd).sum = ix.stats.entries := by
  rw [stats, foldl_countMore_rows, (foldl_countMore _ List.Pairwise.nil).2]
  simp

/-- The count of a content type is the number of the rows of its objects. -/
theorem stats_byType (well : ix.WellFormed) (contentType : String) :
    (ix.stats.byType.find? contentType).getD 0 =
      ∑ owner ∈ ix.owners with owner.contentType = contentType, (ix.entriesOf owner).length := by
  have counted : (ix.stats.byType.find? contentType).getD 0 =
      (ix.byKey.map (·.owner.contentType)).count contentType := by
    rw [stats, foldl_countMore_rows, (foldl_countMore _ List.Pairwise.nil).1]
    exact Nat.zero_add _
  simp only [length_entriesOf well]
  rw [counted, owners, Finset.sum_filter_count_eq_countP, List.count_eq_countP, List.countP_map,
    List.countP_map]
  rfl

theorem stats_objects : ix.stats.objects = ix.owners.card := by
  have members : (Ascending.ofList Owner.Before (ix.byKey.map Row.owner)).toFinset = ix.owners := by
    ext owner
    rw [List.mem_toFinset, Ascending.mem_ofList, owners, List.mem_toFinset]
  rw [← members, List.toFinset_card_of_nodup (Ascending.nodup (Ascending.ascending_ofList _))]
  rfl

/-! ## Runs -/

/-- What the tables, the reports on objects and the sizes say of one another. -/
structure Agreeing (ix : Index) : Prop where
  /-- Both tables hold the same rows. -/
  sameRows : ∀ row, row ∈ ix.byKey ↔ row ∈ ix.byOwner
  /-- Neither holds a row twice. -/
  distinct : ix.byKey.Nodup ∧ ix.byOwner.Nodup
  /-- Stored keys are search keys. -/
  keyed : ∀ row ∈ ix.byKey, row.key ≠ "" ∧ searchKey row.key = row.key ∧
    row.key.length ≤ SearchKey.maxLength
  /-- The rows of an object are all reported, and no others. -/
  reported : ∀ owner row, row ∈ ix.entriesOf owner ↔ row ∈ ix.byKey ∧ row.owner = owner
  /-- They are reported once each, in the order of their bytes. -/
  ordered : ∀ owner, (ix.entriesOf owner).Pairwise fun a b => Text.bytes a.key < Text.bytes b.key
  /-- The objects with a row are those that rows are reported of. -/
  owners : ∀ owner, owner ∈ ix.owners ↔ ix.entriesOf owner ≠ []
  /-- The number of rows is the sum of the numbers of rows reported. -/
  entries : ix.stats.entries = ∑ owner ∈ ix.owners, (ix.entriesOf owner).length
  /-- So is the number of rows of a content type, over its objects. -/
  byType : ∀ contentType, (ix.stats.byType.find? contentType).getD 0 =
    ∑ owner ∈ ix.owners with owner.contentType = contentType, (ix.entriesOf owner).length
  /-- The numbers of the content types add up to the number of rows. -/
  total : (ix.stats.byType.map Prod.snd).sum = ix.stats.entries
  /-- The number of objects is that of the objects with a row. -/
  objects : ix.stats.objects = ix.owners.card

theorem WellFormed.agreeing (well : ix.WellFormed) : ix.Agreeing where
  sameRows := well.sameRows
  distinct := ⟨Ascending.nodup well.keyAscending, Ascending.nodup well.ownerAscending⟩
  keyed row mem := by
    obtain ⟨nonempty, own⟩ := well.keyed row mem
    exact ⟨nonempty, own, own ▸ length_searchKey_le row.key⟩
  reported _ _ := mem_entriesOf well
  ordered _ := ascending_entriesOf well
  owners _ := mem_owners well
  entries := stats_entries well
  byType := stats_byType well
  total := sum_byType
  objects := stats_objects

/-- **After every run of operations the two tables agree**, and so do the reports made of them. -/
theorem agreeing_afterAll (operations : List Operation) : (afterAll operations).Agreeing :=
  (wellFormed_afterAll operations).agreeing

end Index

end Wikilink
