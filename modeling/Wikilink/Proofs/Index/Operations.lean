/-
# Proofs.Index.Operations -- runs of operations on an index

An index comes from the empty one by any sequence of operations, each of which takes
effect or fails and leaves the index as it was; closing an index and opening it
again is one of them.  Every operation keeps an index well-formed, also one that
fails (`wellFormed_after`), so every index that a run leads to is well-formed
(`wellFormed_afterAll`).
-/
import Wikilink.Index.Stored
import Wikilink.Proofs.Index.Tables

namespace Wikilink.Index

set_option autoImplicit false

/-! ## Operations -/

/-- What can be done to an index. -/
inductive Operation where
  | put (key : String) (owner : Owner)
  | insert (owner : Owner) (texts : List String)
  | replace (owner : Owner) (texts : List String)
  | delete (owner : Owner)
  | deleteAll
  /-- Closed and opened again, with a text in place of its layout version. -/
  | reopen (version : Option String)

/-- What an operation makes of an index, or why it fails. -/
def perform (ix : Index) : Operation → Except Error Index
  | .put key owner => ix.put key owner
  | .insert owner texts => ix.insertFor owner texts
  | .replace owner texts => ix.replaceFor owner texts
  | .delete owner => .ok (ix.deleteFor owner).1
  | .deleteAll => .ok .empty
  | .reopen version => (StoredIndex.mk ix version).open?

/-- The index after an operation. -/
def after (ix : Index) (operation : Operation) : Index :=
  (ix.perform operation).toOption.getD ix

/-- The index after a run of operations on an empty one. -/
def afterAll (operations : List Operation) : Index :=
  operations.foldl after .empty

/-! ## What a step keeps -/

variable {ix jx : Index} {owner : Owner}

theorem not_mem_of_insertRow {row : Row} (inserted : ix.insertRow row = .ok jx) : row ∉ ix := by
  unfold insertRow at inserted
  split at inserted
  · cases inserted
  · assumption

theorem wellFormed_insertKeys {keys : List String} (well : ix.WellFormed)
    (keyed : ∀ key ∈ keys, key ≠ "" ∧ searchKey key = key)
    (inserted : ix.insertKeys owner keys = .ok jx) : jx.WellFormed := by
  induction keys generalizing ix with
  | nil =>
      cases inserted
      exact well
  | cons key keys ih =>
      rw [insertKeys, List.foldlM_cons] at inserted
      cases first : ix.insertRow ⟨key, owner⟩ with
      | error e =>
          rw [first] at inserted
          cases inserted
      | ok kx =>
          rw [first] at inserted
          have fresh := not_mem_of_insertRow first
          obtain ⟨lx, same, wellL, -⟩ := insertRow_of_fresh well fresh (keyed key (by simp))
          rw [first, Except.ok.injEq] at same
          exact ih (same ▸ wellL) (fun k mem => keyed k (by simp [mem])) inserted

theorem wellFormed_insertFor {texts : List String} (well : ix.WellFormed)
    (inserted : ix.insertFor owner texts = .ok jx) : jx.WellFormed :=
  wellFormed_insertKeys well (keyed_storedKeys texts) inserted

theorem eq_of_open? {stored : StoredIndex} (opened : stored.open? = .ok jx) :
    jx = stored.index := by
  unfold StoredIndex.open? at opened
  simp only at opened
  split at opened
  · exact (Except.ok.inj opened).symm
  · cases opened

/-- An operation that takes effect keeps the index well-formed. -/
theorem wellFormed_perform {operation : Operation} (well : ix.WellFormed)
    (done : ix.perform operation = .ok jx) : jx.WellFormed := by
  cases operation with
  | put key owner => exact wellFormed_insertFor well done
  | insert owner texts => exact wellFormed_insertFor well done
  | replace owner texts => exact wellFormed_insertFor (wellFormed_deleteFor owner well) done
  | delete owner =>
      cases done
      exact wellFormed_deleteFor owner well
  | deleteAll =>
      cases done
      exact wellFormed_empty
  | reopen version =>
      rw [eq_of_open? done]
      exact well

/-! ## What a run keeps -/

theorem wellFormed_after (well : ix.WellFormed) (operation : Operation) :
    (ix.after operation).WellFormed := by
  unfold after
  cases done : ix.perform operation with
  | error e => exact well
  | ok jx => exact wellFormed_perform well done

theorem wellFormed_foldl_after (well : ix.WellFormed) (operations : List Operation) :
    (operations.foldl after ix).WellFormed := by
  induction operations generalizing ix with
  | nil => exact well
  | cons operation operations ih => exact ih (wellFormed_after well operation)

/-- **Every run of operations leads to a well-formed index.** -/
theorem wellFormed_afterAll (operations : List Operation) : (afterAll operations).WellFormed :=
  wellFormed_foldl_after wellFormed_empty operations

end Wikilink.Index
