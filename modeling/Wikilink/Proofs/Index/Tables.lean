/-
# Proofs.Index.Tables -- what the operations do to the rows

An index is *well-formed* if each table is in its order, both hold the same rows,
and every key is a search key.  Such an index is determined by its rows
(`WellFormed.ext`).  Every operation keeps it well-formed, and each is described by
the rows it leaves:

* `insertKeys_of_fresh` -- new keys of an owner are added, and nothing else changes;
* `mem_deleteFor` -- exactly the rows of the owner are gone;
* `replaceFor_ok` -- the owner has the given keys, and the other rows stay
  (`Reassigned`).

A replacement cannot fail, because the deletion before it, which is driven by the
table of the owners, leaves no row that the insertion, which looks into the table of
the keys, could clash with.
-/
import Wikilink.Proofs.SearchKey

namespace Wikilink

set_option autoImplicit false

/-! ## Orders -/

instance : IsStrictTotalOrder Owner Owner.Before :=
  Ascending.isStrictTotalOrder_lex Owner.contentType Owner.id fun {a b} type id => by
    cases a
    cases b
    simp_all

theorem Row.eq_of_parts {a b : Row} (key : a.key = b.key) (owner : a.owner = b.owner) : a = b := by
  cases a
  cases b
  simp_all

instance : IsStrictTotalOrder Row Row.Before :=
  Ascending.isStrictTotalOrder_lex Row.key Row.owner fun key owner => Row.eq_of_parts key owner

instance : IsStrictTotalOrder Row Row.OwnerBefore :=
  Ascending.isStrictTotalOrder_lex Row.owner Row.key fun owner key => Row.eq_of_parts key owner

namespace Index

instance : Membership Row Index :=
  ⟨fun ix row => row ∈ ix.byKey⟩

theorem mem_def {ix : Index} {row : Row} : row ∈ ix ↔ row ∈ ix.byKey :=
  Iff.rfl

@[simp] theorem not_mem_empty (row : Row) : row ∉ Index.empty :=
  List.not_mem_nil

/-- Both tables are in order and hold the same rows, all under search keys. -/
structure WellFormed (ix : Index) : Prop where
  keyAscending : ix.byKey.Pairwise Row.Before
  ownerAscending : ix.byOwner.Pairwise Row.OwnerBefore
  sameRows : ∀ row, row ∈ ix.byKey ↔ row ∈ ix.byOwner
  keyed : ∀ row ∈ ix, row.key ≠ "" ∧ searchKey row.key = row.key

theorem wellFormed_empty : WellFormed .empty where
  keyAscending := List.Pairwise.nil
  ownerAscending := List.Pairwise.nil
  sameRows _ := Iff.rfl
  keyed row mem := (not_mem_empty row mem).elim

/-- **Well-formed indexes with the same rows are the same index.** -/
theorem WellFormed.ext {ix jx : Index} (wellI : ix.WellFormed) (wellJ : jx.WellFormed)
    (same : ∀ row, row ∈ ix ↔ row ∈ jx) : ix = jx := by
  have keys : ix.byKey = jx.byKey :=
    Ascending.eq_of_mem_iff wellI.keyAscending wellJ.keyAscending same
  have owners : ix.byOwner = jx.byOwner := by
    refine Ascending.eq_of_mem_iff wellI.ownerAscending wellJ.ownerAscending ?_
    intro row
    rw [← wellI.sameRows, ← wellJ.sameRows]
    exact same row
  cases ix
  cases jx
  simp_all

variable {ix : Index} {owner : Owner}

/-! ## Rows under some keys -/

/-- The rows of an owner under some keys. -/
def rowsUnder (owner : Owner) (keys : List String) : List Row :=
  keys.map fun key => ⟨key, owner⟩

theorem mem_rowsUnder {keys : List String} {r : Row} :
    r ∈ rowsUnder owner keys ↔ r.owner = owner ∧ r.key ∈ keys := by
  simp only [rowsUnder, List.mem_map]
  constructor
  · rintro ⟨key, mem, rfl⟩
    exact ⟨rfl, mem⟩
  · rintro ⟨own, mem⟩
    exact ⟨r.key, mem, Row.eq_of_parts rfl own.symm⟩

theorem nodup_rowsUnder {keys : List String} (owner : Owner) (distinct : keys.Nodup) :
    (rowsUnder owner keys).Nodup :=
  distinct.map fun _ _ same => congrArg Row.key same

/-! ## Insertion -/

theorem insertRow_of_fresh {row : Row} (well : ix.WellFormed) (fresh : row ∉ ix)
    (keyed : row.key ≠ "" ∧ searchKey row.key = row.key) :
    ∃ jx, ix.insertRow row = .ok jx ∧ jx.WellFormed ∧ ∀ r, r ∈ jx ↔ r = row ∨ r ∈ ix := by
  refine ⟨_, if_neg fresh, ?_, fun r => Ascending.mem_insert⟩
  constructor
  · exact Ascending.ascending_insert row well.keyAscending
  · exact Ascending.ascending_insert row well.ownerAscending
  · intro r
    rw [Ascending.mem_insert, Ascending.mem_insert, well.sameRows]
  · intro r mem
    rcases Ascending.mem_insert.mp mem with rfl | old
    · exact keyed
    · exact well.keyed r old

/-- Distinct keys that the owner does not have yet are added, and nothing else changes. -/
theorem insertKeys_of_fresh {keys : List String} (well : ix.WellFormed) (distinct : keys.Nodup)
    (keyed : ∀ key ∈ keys, key ≠ "" ∧ searchKey key = key)
    (fresh : ∀ key ∈ keys, (⟨key, owner⟩ : Row) ∉ ix) :
    ∃ jx, ix.insertKeys owner keys = .ok jx ∧ jx.WellFormed ∧
      ∀ r, r ∈ jx ↔ (r.owner = owner ∧ r.key ∈ keys) ∨ r ∈ ix := by
  induction keys generalizing ix with
  | nil => exact ⟨ix, rfl, well, by simp⟩
  | cons key keys ih =>
      obtain ⟨first, rest⟩ := List.nodup_cons.mp distinct
      obtain ⟨jx, inserted, wellJ, memJ⟩ :=
        insertRow_of_fresh well (fresh key (by simp)) (keyed key (by simp))
      have freshJ : ∀ k ∈ keys, (⟨k, owner⟩ : Row) ∉ jx := by
        intro k mem old
        rcases (memJ _).mp old with same | old
        · cases same
          exact first mem
        · exact fresh k (by simp [mem]) old
      obtain ⟨kx, others, wellK, memK⟩ := ih wellJ rest (fun k mem => keyed k (by simp [mem])) freshJ
      refine ⟨kx, ?_, wellK, ?_⟩
      · rw [insertKeys, List.foldlM_cons, inserted]
        exact others
      · intro r
        rw [memK, memJ, List.mem_cons]
        constructor
        · rintro (⟨same, mem⟩ | rfl | old)
          · exact Or.inl ⟨same, Or.inr mem⟩
          · exact Or.inl ⟨rfl, Or.inl rfl⟩
          · exact Or.inr old
        · rintro (⟨rfl, rfl | mem⟩ | old)
          · exact Or.inr (Or.inl rfl)
          · exact Or.inl ⟨rfl, mem⟩
          · exact Or.inr (Or.inr old)

/-- The index has no row of the owner. -/
def Bare (ix : Index) (owner : Owner) : Prop :=
  ∀ r ∈ ix, r.owner ≠ owner

/-- The second index gives the owner exactly the keys, and has the rows of the first otherwise. -/
def Reassigned (owner : Owner) (keys : List String) (ix jx : Index) : Prop :=
  ∀ r, r ∈ jx ↔ (r.owner = owner ∧ r.key ∈ keys) ∨ (r ∈ ix ∧ r.owner ≠ owner)

theorem Reassigned.own {jx : Index} {keys : List String} (given : Reassigned owner keys ix jx)
    {r : Row} (same : r.owner = owner) : r ∈ jx ↔ r.key ∈ keys := by
  simp [given r, same]

theorem Reassigned.other {jx : Index} {keys : List String} (given : Reassigned owner keys ix jx)
    {r : Row} (other : r.owner ≠ owner) : r ∈ jx ↔ r ∈ ix := by
  simp [given r, other]

theorem Bare.reassigned (bare : ix.Bare owner) : Reassigned owner [] ix ix := by
  intro r
  simp only [List.not_mem_nil, and_false, false_or]
  exact ⟨fun mem => ⟨mem, bare r mem⟩, And.left⟩

/-- An owner without rows is given the search keys of the texts. -/
theorem insertFor_of_bare (texts : List String) (well : ix.WellFormed) (bare : ix.Bare owner) :
    ∃ jx, ix.insertFor owner texts = .ok jx ∧ jx.WellFormed ∧
      Reassigned owner (storedKeys texts) ix jx := by
  have fresh : ∀ key ∈ storedKeys texts, (⟨key, owner⟩ : Row) ∉ ix :=
    fun key _ old => bare _ old rfl
  obtain ⟨jx, inserted, wellJ, memJ⟩ :=
    insertKeys_of_fresh well (nodup_storedKeys texts) (keyed_storedKeys texts) fresh
  refine ⟨jx, inserted, wellJ, fun r => ?_⟩
  rw [memJ]
  exact or_congr_right ⟨fun old => ⟨old, bare r old⟩, And.left⟩

/-! ## Deletion -/

theorem mem_keysOf (well : ix.WellFormed) {key : String} :
    key ∈ ix.keysOf owner ↔ (⟨key, owner⟩ : Row) ∈ ix := by
  rw [mem_def, well.sameRows]
  simp only [keysOf, List.mem_map, List.mem_filter, decide_eq_true_eq]
  constructor
  · rintro ⟨r, ⟨mem, rfl⟩, rfl⟩
    exact mem
  · intro mem
    exact ⟨_, ⟨mem, rfl⟩, rfl⟩

theorem foldl_erase_eq_filter {rows : List Row} (distinct : rows.Nodup) (keys : List String) :
    keys.foldl (fun rows key => rows.erase ⟨key, owner⟩) rows =
      rows.filter fun r => ¬ (r.owner = owner ∧ r.key ∈ keys) := by
  induction keys generalizing rows with
  | nil => simp
  | cons key keys ih =>
      rw [List.foldl_cons, ih (distinct.erase _), distinct.erase_eq_filter, List.filter_filter]
      refine List.filter_congr ?_
      intro r _
      cases r
      simp only [List.mem_cons, bne, Row.mk.injEq, beq_eq_decide]
      grind

theorem deleteFor_byKey (well : ix.WellFormed) :
    (ix.deleteFor owner).1.byKey = ix.byKey.filter (·.owner ≠ owner) := by
  simp only [deleteFor]
  rw [foldl_erase_eq_filter (Ascending.nodup well.keyAscending)]
  refine List.filter_congr ?_
  intro r mem
  by_cases own : r.owner = owner
  · have listed : r.key ∈ ix.keysOf owner := (mem_keysOf well).mpr (own ▸ mem)
    simp [own, listed]
  · simp [own]

theorem mem_deleteFor (well : ix.WellFormed) {r : Row} :
    r ∈ (ix.deleteFor owner).1 ↔ r ∈ ix ∧ r.owner ≠ owner := by
  rw [mem_def, deleteFor_byKey well]
  simp [mem_def]

theorem reassigned_deleteFor (owner : Owner) (well : ix.WellFormed) :
    Reassigned owner [] ix (ix.deleteFor owner).1 := by
  intro r
  simp [mem_deleteFor well]

theorem wellFormed_deleteFor (owner : Owner) (well : ix.WellFormed) :
    (ix.deleteFor owner).1.WellFormed where
  keyAscending := by
    rw [deleteFor_byKey well]
    exact well.keyAscending.filter _
  ownerAscending := well.ownerAscending.filter _
  sameRows r := by
    rw [deleteFor_byKey well]
    simp only [deleteFor, List.mem_filter, well.sameRows]
  keyed r mem := well.keyed r ((mem_deleteFor well).mp mem).1

/-! ## Replacement -/

/-- **A replacement never fails**, and leaves the owner exactly the search keys of the texts. -/
theorem replaceFor_ok (owner : Owner) (texts : List String) (well : ix.WellFormed) :
    ∃ jx, ix.replaceFor owner texts = .ok jx ∧ jx.WellFormed ∧
      Reassigned owner (storedKeys texts) ix jx := by
  have emptied : (ix.deleteFor owner).1.Bare owner :=
    fun r mem => ((mem_deleteFor well).mp mem).2
  obtain ⟨jx, inserted, wellJ, given⟩ :=
    insertFor_of_bare texts (wellFormed_deleteFor owner well) emptied
  refine ⟨jx, inserted, wellJ, fun r => ?_⟩
  rw [given, mem_deleteFor well]
  tauto

end Index

end Wikilink
