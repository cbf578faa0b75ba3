/-
# Proofs.Index.Atomicity -- a write takes effect as a whole or not at all

The keys of an insertion are written one after the other, and the writing ends at the
first that the owner has already.  What has been written by then is the keys before
that one, in both tables (`mem_tables_of_clash`); the transaction is given up with
them, so an insertion that fails leaves no row (`insertFor_eq_outcome`).  A
replacement writes its keys behind a deletion, which leaves nothing that they could
clash with.

For each of the four writes this is said of every index that operations lead to, and
only with the set of the search keys of the texts: which texts they come from, and how
often, makes no difference (`writes_atomic`).
-/
import Mathlib.Data.Set.Card
import Wikilink.Proofs.Index.Clash
import Wikilink.Proofs.Index.Operations
import Wikilink.Proofs.Text.Bytes

namespace Wikilink.Index

set_option autoImplicit false

/-! ## Transactions -/

/-- The tables as a transaction has written them, and the error that ended it. -/
structure Transaction where
  tables : Index
  error? : Option Error

/-- The transaction that writes the keys one after the other, up to the first that is there. -/
def writing (ix : Index) (owner : Owner) : List String → Transaction
  | [] => ⟨ix, none⟩
  | key :: keys =>
      match ix.insertRow ⟨key, owner⟩ with
      | .ok jx => jx.writing owner keys
      | .error e => ⟨ix, some e⟩

/-- What a transaction comes to: its tables count if no error ended it. -/
def Transaction.outcome (t : Transaction) : Except Error Index :=
  match t.error? with
  | none => .ok t.tables
  | some e => .error e

variable {ix jx : Index} {owner : Owner} {key : String} {keys texts : List String}

/-- **An insertion is the outcome of a transaction** that writes row by row. -/
theorem insertKeys_eq_outcome : ix.insertKeys owner keys = (ix.writing owner keys).outcome := by
  induction keys generalizing ix with
  | nil => rfl
  | cons key keys ih =>
      rw [insertKeys, List.foldlM_cons, writing]
      cases ix.insertRow ⟨key, owner⟩ with
      | error e => rfl
      | ok jx => exact ih

theorem insertFor_eq_outcome :
    ix.insertFor owner texts = (ix.writing owner (storedKeys texts)).outcome :=
  insertKeys_eq_outcome

/-- Keys that can be inserted are written before the others. -/
theorem writing_append {front back : List String} (inserted : ix.insertKeys owner front = .ok jx) :
    ix.writing owner (front ++ back) = jx.writing owner back := by
  induction front generalizing ix with
  | nil =>
      cases inserted
      rfl
  | cons key front ih =>
      rw [insertKeys, List.foldlM_cons] at inserted
      rw [List.cons_append, writing]
      cases first : ix.insertRow ⟨key, owner⟩ with
      | error e =>
          rw [first] at inserted
          cases inserted
      | ok kx =>
          rw [first] at inserted
          exact ih inserted

/-! ## Keys of texts -/

/-- The search keys that texts are stored under. -/
def keySet (texts : List String) : Set String :=
  {key | key ≠ "" ∧ ∃ text ∈ texts, searchKey text = key}

theorem mem_storedKeys_iff_mem_keySet : key ∈ storedKeys texts ↔ key ∈ keySet texts :=
  mem_storedKeys

/-- What is stored depends only on the set of the search keys. -/
theorem storedKeys_congr {others : List String} (same : keySet others = keySet texts) :
    storedKeys others = storedKeys texts := by
  refine Ascending.eq_of_mem_iff (Ascending.ascending_ofList _) (Ascending.ascending_ofList _) ?_
  intro key
  rw [mem_storedKeys_iff_mem_keySet, mem_storedKeys_iff_mem_keySet, same]

/-- The key of a clash stands behind the lesser keys and before the greater ones. -/
theorem lt_iff_mem_front {front back : List String}
    (order : storedKeys texts = front ++ key :: back) {k : String} :
    k ∈ front ↔ k ∈ keySet texts ∧ k < key := by
  have ascending : (front ++ key :: back).Pairwise (· < ·) :=
    order ▸ Ascending.ascending_ofList _
  obtain ⟨-, behind, across⟩ := List.pairwise_append.mp ascending
  rw [← mem_storedKeys_iff_mem_keySet, order]
  constructor
  · intro mem
    exact ⟨List.mem_append_left _ mem, across k mem key (by simp)⟩
  · rintro ⟨mem, less⟩
    rcases List.mem_append.mp mem with front | mem
    · exact front
    · rcases List.mem_cons.mp mem with rfl | later
      · exact absurd less (lt_irrefl _)
      · exact absurd less (lt_asymm ((List.pairwise_cons.mp behind).1 k later))

/-! ## Clashes -/

/-- The least key of the set, in the order of the bytes, that the owner has already. -/
structure LeastClash (ix : Index) (owner : Owner) (keys : Set String) (key : String) : Prop where
  mem : key ∈ keys
  stored : (⟨key, owner⟩ : Row) ∈ ix
  least : ∀ k ∈ keys, (⟨k, owner⟩ : Row) ∈ ix → k ≠ key → Text.bytes key < Text.bytes k

theorem leastClash_of_clash (clash : ix.clash? owner (storedKeys texts) = some key) :
    ix.LeastClash owner (keySet texts) key := by
  obtain ⟨stored, front, back, order, fresh⟩ := clash?_eq_some_iff.mp clash
  refine ⟨mem_storedKeys_iff_mem_keySet.mp (by simp [order]), stored, ?_⟩
  intro k mem clashes other
  refine Text.bytes_lt_bytes_iff.mpr (lt_of_le_of_ne (not_lt.mp fun less => ?_) other.symm)
  exact fresh k ((lt_iff_mem_front order).mpr ⟨mem, less⟩) clashes

/-- **A transaction that ends in a clash has written the lesser keys.** -/
theorem mem_tables_of_clash (well : ix.WellFormed)
    (clash : ix.clash? owner (storedKeys texts) = some key) {r : Row} :
    r ∈ (ix.writing owner (storedKeys texts)).tables ↔
      (r.owner = owner ∧ r.key ∈ keySet texts ∧ Text.bytes r.key < Text.bytes key) ∨ r ∈ ix := by
  obtain ⟨stored, front, back, order, fresh⟩ := clash?_eq_some_iff.mp clash
  have distinct : (front ++ key :: back).Nodup := order ▸ nodup_storedKeys texts
  have keyed : ∀ k ∈ front, k ≠ "" ∧ searchKey k = k := fun k mem =>
    keyed_storedKeys texts k (by simp [order, mem])
  obtain ⟨jx, inserted, -, memJ⟩ :=
    insertKeys_of_fresh well (List.nodup_append.mp distinct).1 keyed fresh
  have still : (⟨key, owner⟩ : Row) ∈ jx := (memJ _).mpr (Or.inr stored)
  have written : (ix.writing owner (storedKeys texts)).tables = jx := by
    rw [order, writing_append inserted, writing, insertRow_of_mem still]
  rw [written, memJ, lt_iff_mem_front order, Text.bytes_lt_bytes_iff]

theorem insertFor_eq_error_iff (well : ix.WellFormed) {e : Error} :
    ix.insertFor owner texts = .error e ↔
      ∃ key, ix.clash? owner (storedKeys texts) = some key ∧
        e = .duplicateRow key owner.contentType owner.id := by
  cases clash : ix.clash? owner (storedKeys texts) with
  | some key =>
      rw [insertFor_of_clash well clash]
      simp [eq_comm]
  | none =>
      obtain ⟨jx, inserted, -⟩ := insertFor_of_clashless well clash
      simp [inserted]

/-- An insertion is refused exactly if the owner has one of its keys. -/
theorem exists_insertFor_eq_error_iff (well : ix.WellFormed) :
    (∃ e, ix.insertFor owner texts = .error e) ↔
      ∃ key ∈ keySet texts, (⟨key, owner⟩ : Row) ∈ ix := by
  simp only [insertFor_eq_error_iff well, exists_comm (α := Error), exists_and_left, exists_eq,
    and_true, exists_clash_iff, mem_storedKeys_iff_mem_keySet]

/-! ## Other owners -/

/-- The owner that an operation writes rows of. -/
def Operation.owner? : Operation → Option Owner
  | .put _ owner | .insert owner _ | .replace owner _ | .delete owner => some owner
  | .deleteAll | .reopen _ => none

theorem mem_after_insert_of_other (well : ix.WellFormed) {r : Row} (other : r.owner ≠ owner) :
    r ∈ ix.after (.insert owner texts) ↔ r ∈ ix := by
  rw [after, perform]
  cases clash : ix.clash? owner (storedKeys texts) with
  | some key =>
      rw [insertFor_of_clash well clash]
      rfl
  | none =>
      obtain ⟨jx, inserted, -, given⟩ := insertFor_of_clashless well clash
      rw [inserted]
      exact given.other other

/-- **An operation on one owner changes no row of another.** -/
theorem mem_after_of_other (well : ix.WellFormed) {operation : Operation}
    (own : operation.owner? = some owner) {r : Row} (other : r.owner ≠ owner) :
    r ∈ ix.after operation ↔ r ∈ ix := by
  cases operation with
  | put text writer =>
      cases own
      have kept : r ∈ ix.after (.insert owner [text]) ↔ r ∈ ix :=
        mem_after_insert_of_other well other
      exact kept
  | insert writer texts =>
      cases own
      exact mem_after_insert_of_other well other
  | replace writer texts =>
      cases own
      obtain ⟨jx, replaced, -, given⟩ := replaceFor_ok owner texts well
      rw [after, perform, replaced]
      exact given.other other
  | delete writer =>
      cases own
      exact (reassigned_deleteFor owner well).other other
  | deleteAll => cases own
  | reopen version => cases own

/-! ## Deletion -/

/-- A deletion answers with the number of the rows that it takes away. -/
theorem deleteFor_count (well : ix.WellFormed) (owner : Owner) :
    (ix.deleteFor owner).2 = {r : Row | r ∈ ix ∧ r.owner = owner}.ncard := by
  have distinct : (ix.keysOf owner).Nodup := by
    refine List.Nodup.map_on ?_ ((Ascending.nodup well.ownerAscending).filter _)
    intro r inR t inT same
    have ownR : r.owner = owner := by simpa using (List.mem_filter.mp inR).2
    have ownT : t.owner = owner := by simpa using (List.mem_filter.mp inT).2
    exact Row.eq_of_parts same (ownR.trans ownT.symm)
  have rows : {r : Row | r ∈ ix ∧ r.owner = owner} =
      ((rowsUnder owner (ix.keysOf owner)).toFinset : Set Row) := by
    ext r
    simp only [Set.mem_ofPred_eq, List.coe_toFinset, mem_rowsUnder, mem_keysOf well]
    constructor
    · rintro ⟨stored, rfl⟩
      exact ⟨rfl, stored⟩
    · rintro ⟨rfl, stored⟩
      exact ⟨stored, rfl⟩
  rw [rows, Set.ncard_coe_finset, List.toFinset_card_of_nodup (nodup_rowsUnder owner distinct),
    rowsUnder, List.length_map]
  rfl

/-! ## Writes -/

/-- What the four writes make of the rows of an owner, given texts to be stored. -/
structure WritesWhole (ix : Index) (owner : Owner) (texts : List String) : Prop where
  /-- One text is put as it is inserted. -/
  put : ∀ text, ix.put text owner = ix.insertFor owner [text]
  /-- Texts count by their search keys: a key that several have counts once, and no key at all
  counts for nothing. -/
  keyed : ∀ others, keySet others = keySet texts →
    ix.insertFor owner others = ix.insertFor owner texts ∧
    ix.replaceFor owner others = ix.replaceFor owner texts
  /-- An insertion is the outcome of a transaction that writes key by key. -/
  inserted : ix.insertFor owner texts = (ix.writing owner (storedKeys texts)).outcome
  /-- It is refused exactly if the owner has one of the keys. -/
  refused : (∃ e, ix.insertFor owner texts = .error e) ↔
    ∃ key ∈ keySet texts, (⟨key, owner⟩ : Row) ∈ ix
  /-- It names the least of them, and the lesser keys, which were written before it, are gone. -/
  rolledBack : ∀ e, ix.insertFor owner texts = .error e → ∃ key,
    ix.LeastClash owner (keySet texts) key ∧ e = .duplicateRow key owner.contentType owner.id ∧
    (∀ r, r ∈ (ix.writing owner (storedKeys texts)).tables ↔
      (r.owner = owner ∧ r.key ∈ keySet texts ∧ Text.bytes r.key < Text.bytes key) ∨ r ∈ ix) ∧
    ix.after (.insert owner texts) = ix
  /-- An insertion that is not refused adds exactly the keys. -/
  added : ∀ jx, ix.insertFor owner texts = .ok jx →
    ix.after (.insert owner texts) = jx ∧
    ∀ r, r ∈ jx ↔ (r.owner = owner ∧ r.key ∈ keySet texts) ∨ r ∈ ix
  /-- A replacement is never refused and leaves exactly the keys. -/
  replaced : ∃ jx, ix.replaceFor owner texts = .ok jx ∧
    ∀ key, (⟨key, owner⟩ : Row) ∈ jx ↔ key ∈ keySet texts
  /-- A deletion answers with the number of rows, and leaves none. -/
  deleted : (ix.deleteFor owner).2 = {r : Row | r ∈ ix ∧ r.owner = owner}.ncard ∧
    ∀ key, (⟨key, owner⟩ : Row) ∉ (ix.deleteFor owner).1
  /-- Rows of other owners stay, whether the write takes effect or not. -/
  others : ∀ operation : Operation, operation.owner? = some owner →
    ∀ r : Row, r.owner ≠ owner → (r ∈ ix.after operation ↔ r ∈ ix)

theorem WellFormed.writesWhole (well : ix.WellFormed) (owner : Owner) (texts : List String) :
    ix.WritesWhole owner texts where
  put _ := rfl
  keyed others same := by
    have stored := storedKeys_congr same
    constructor
    · rw [insertFor, stored, insertFor]
    · rw [replaceFor, insertFor, stored, replaceFor, insertFor]
  inserted := insertFor_eq_outcome
  refused := exists_insertFor_eq_error_iff well
  rolledBack e failed := by
    obtain ⟨key, clash, rfl⟩ := (insertFor_eq_error_iff well).mp failed
    refine ⟨key, leastClash_of_clash clash, rfl, fun r => mem_tables_of_clash well clash, ?_⟩
    rw [after, perform, failed]
    rfl
  added jx inserted := by
    have clashless : ix.clash? owner (storedKeys texts) = none := by
      cases clash : ix.clash? owner (storedKeys texts) with
      | none => rfl
      | some key => cases (insertFor_of_clash well clash).symm.trans inserted
    obtain ⟨kx, again, -, given⟩ := insertFor_of_clashless well clashless
    obtain rfl : kx = jx := Except.ok.inj (again.symm.trans inserted)
    refine ⟨?_, fun r => ?_⟩
    · rw [after, perform, inserted]
      rfl
    · rw [given r, mem_storedKeys_iff_mem_keySet]
  replaced := by
    obtain ⟨jx, done, -, given⟩ := replaceFor_ok owner texts well
    refine ⟨jx, done, fun key => ?_⟩
    rw [given.own rfl, mem_storedKeys_iff_mem_keySet]
  deleted := by
    refine ⟨deleteFor_count well owner, fun key stored => ?_⟩
    exact ((mem_deleteFor well).mp stored).2 rfl
  others _ own _ other := mem_after_of_other well own other

/-- **In every index that operations lead to, a write takes effect as a whole or not at all.** -/
theorem writes_atomic (operations : List Operation) (owner : Owner) (texts : List String) :
    (afterAll operations).WritesWhole owner texts :=
  (wellFormed_afterAll operations).writesWhole owner texts

/-- The key before the one that clashes is written, and the key behind it is not. -/
example :
    ((afterAll [.put "Mad Max" ⟨"movie", 1⟩]).writing ⟨"movie", 1⟩
      (storedKeys ["The Road", "Mad Max!", "Furiosa"])).tables.byKey =
      [⟨"furiosa", "movie", 1⟩, ⟨"madmax", "movie", 1⟩] := by
  decide

end Wikilink.Index
