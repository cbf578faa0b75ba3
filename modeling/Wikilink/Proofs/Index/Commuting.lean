/-
# Proofs.Index.Commuting -- writes to different objects commute

A write sees the rows of its owner and no others: on two indexes that agree on these it
answers alike, and leaves rows of the owner that agree again (`seesOwnOnly`).  It
changes no row of another owner (`agreeOn_after`).  So what a run of writes makes of
the rows of an owner is what the writes of this owner in it make of them
(`agreeOn_foldl_after`), and as an index is determined by its rows, two runs that have
the same writes of each owner in the same order lead to the same index
(`foldl_after_eq_of_writesOf`).  Two writes with different owners are the shortest such
runs (`writes_commute`).  Writes that fail are no exception, since they leave everything
as it was.
-/
import Wikilink.Proofs.Index.Atomicity

namespace Wikilink.Index

set_option autoImplicit false

/-! ## Answers -/

/-- What an operation answers unless it fails: a deletion the number of rows that it takes away,
any other nothing. -/
def Operation.count? (ix : Index) : Operation → Option Nat
  | .delete owner => some (ix.deleteFor owner).2
  | _ => none

/-- What an operation answers, or the error that it fails with. -/
def answer (ix : Index) (operation : Operation) : Except Error (Option Nat) :=
  (ix.perform operation).map fun _ => operation.count? ix

/-- The two indexes have the same rows of an owner. -/
def AgreeOn (owner : Owner) (ix jx : Index) : Prop :=
  ∀ r : Row, r.owner = owner → (r ∈ ix ↔ r ∈ jx)

variable {ix jx : Index} {owner other : Owner} {operation first second : Operation}
  {keys texts : List String}

theorem agreeOn_after (well : ix.WellFormed) (own : operation.owner? = some other)
    (apart : owner ≠ other) : AgreeOn owner ix (ix.after operation) := by
  intro r same
  have foreign : r.owner ≠ other := same ▸ apart
  exact (mem_after_of_other well own foreign).symm

/-! ## What a write sees -/

theorem clash?_congr (agree : AgreeOn owner ix jx) :
    ix.clash? owner keys = jx.clash? owner keys := by
  have same : (fun key => decide ((⟨key, owner⟩ : Row) ∈ ix.byKey)) =
      fun key => decide ((⟨key, owner⟩ : Row) ∈ jx.byKey) := by
    funext key
    exact decide_eq_decide.mpr (agree ⟨key, owner⟩ rfl)
  rw [clash?, clash?, same]

/-- What is left of the rows of the owner after a write, and what the write answers, when the same
write is made in two indexes. -/
structure Alike (owner : Owner) (operation : Operation) (ix jx : Index) : Prop where
  answer : ix.answer operation = jx.answer operation
  rows : AgreeOn owner (ix.after operation) (jx.after operation)

theorem alike_insert (wellI : ix.WellFormed) (wellJ : jx.WellFormed)
    (agree : AgreeOn owner ix jx) : Alike owner (.insert owner texts) ix jx := by
  have same := @clash?_congr ix jx owner (storedKeys texts) agree
  cases clash : ix.clash? owner (storedKeys texts) with
  | some key =>
      have failedI := insertFor_of_clash wellI clash
      have failedJ := insertFor_of_clash wellJ (same ▸ clash)
      constructor
      · simp only [answer, perform, failedI, failedJ, Except.map]
      · simp only [after, perform, failedI, failedJ]
        exact agree
  | none =>
      obtain ⟨ix', insertedI, -, givenI⟩ := insertFor_of_clashless wellI clash
      obtain ⟨jx', insertedJ, -, givenJ⟩ := insertFor_of_clashless wellJ (same ▸ clash)
      constructor
      · simp only [answer, perform, insertedI, insertedJ, Except.map, Operation.count?]
      · simp only [after, perform, insertedI, insertedJ]
        intro r own
        have left : r ∈ ix' ↔ r ∈ jx' := by rw [givenI r, givenJ r, agree r own]
        exact left

theorem alike_replace (wellI : ix.WellFormed) (wellJ : jx.WellFormed) :
    Alike owner (.replace owner texts) ix jx := by
  obtain ⟨ix', doneI, -, givenI⟩ := replaceFor_ok owner texts wellI
  obtain ⟨jx', doneJ, -, givenJ⟩ := replaceFor_ok owner texts wellJ
  constructor
  · simp only [answer, perform, doneI, doneJ, Except.map, Operation.count?]
  · simp only [after, perform, doneI, doneJ]
    intro r own
    have left : r ∈ ix' ↔ r ∈ jx' := by rw [givenI.own own, givenJ.own own]
    exact left

theorem alike_delete (wellI : ix.WellFormed) (wellJ : jx.WellFormed)
    (agree : AgreeOn owner ix jx) : Alike owner (.delete owner) ix jx := by
  have rows : {r : Row | r ∈ ix ∧ r.owner = owner} = {r : Row | r ∈ jx ∧ r.owner = owner} := by
    ext r
    exact and_congr_left (agree r)
  constructor
  · simp only [answer, perform, Except.map, Operation.count?, deleteFor_count wellI,
      deleteFor_count wellJ, rows]
  · intro r own
    have left : r ∈ (ix.deleteFor owner).1 ↔ r ∈ (jx.deleteFor owner).1 := by
      simp [mem_deleteFor wellI, mem_deleteFor wellJ, own]
    exact left

/-- **A write sees the rows of its owner only.** -/
theorem seesOwnOnly (wellI : ix.WellFormed) (wellJ : jx.WellFormed)
    (own : operation.owner? = some owner) (agree : AgreeOn owner ix jx) :
    Alike owner operation ix jx := by
  cases operation with
  | put text writer =>
      cases own
      have inserted := @alike_insert ix jx owner [text] wellI wellJ agree
      exact ⟨inserted.answer, inserted.rows⟩
  | insert writer texts =>
      cases own
      exact alike_insert wellI wellJ agree
  | replace writer texts =>
      cases own
      exact alike_replace wellI wellJ
  | delete writer =>
      cases own
      exact alike_delete wellI wellJ agree
  | deleteAll => cases own
  | reopen version => cases own

/-- A write of another owner before it does not show in what a write answers. -/
theorem answer_after_of_apart (well : ix.WellFormed) (ownFirst : first.owner? = some owner)
    (ownSecond : second.owner? = some other) (apart : owner ≠ other) :
    (ix.after second).answer first = ix.answer first := by
  have agree := agreeOn_after well ownSecond apart
  exact (seesOwnOnly well (wellFormed_after well second) ownFirst agree).answer.symm

/-! ## Runs of writes -/

/-- The writes of an owner in a run. -/
def writesOf (owner : Owner) (run : List Operation) : List Operation :=
  run.filter fun operation => operation.owner? = some owner

/-- What a run of writes makes of the rows of an owner is what the writes of the owner make of
them. -/
theorem agreeOn_foldl_after {run : List Operation} (wellI : ix.WellFormed) (wellJ : jx.WellFormed)
    (writes : ∀ operation ∈ run, operation.owner? ≠ none) (agree : AgreeOn owner ix jx) :
    AgreeOn owner (run.foldl after ix) ((writesOf owner run).foldl after jx) := by
  induction run generalizing ix jx with
  | nil => exact agree
  | cons operation run ih =>
      have later : ∀ operation ∈ run, operation.owner? ≠ none :=
        fun operation mem => writes operation (List.mem_cons_of_mem _ mem)
      have wellI' := wellFormed_after wellI operation
      rw [List.foldl_cons, writesOf]
      by_cases own : operation.owner? = some owner
      · rw [List.filter_cons_of_pos (by simpa using own), List.foldl_cons]
        exact ih wellI' (wellFormed_after wellJ operation) later
          (seesOwnOnly wellI wellJ own agree).rows
      · rw [List.filter_cons_of_neg (by simpa using own)]
        obtain ⟨writer, writes⟩ := Option.ne_none_iff_exists'.mp (writes operation (by simp))
        have apart : owner ≠ writer := by
          rintro rfl
          exact own writes
        refine ih wellI' wellJ later fun r same => ?_
        rw [← agree r same, agreeOn_after wellI writes apart r same]

/-- **Only the order among the writes of each owner counts.** -/
theorem foldl_after_eq_of_writesOf {left right : List Operation} (well : ix.WellFormed)
    (writesLeft : ∀ operation ∈ left, operation.owner? ≠ none)
    (writesRight : ∀ operation ∈ right, operation.owner? ≠ none)
    (same : ∀ owner, writesOf owner left = writesOf owner right) :
    left.foldl after ix = right.foldl after ix := by
  refine WellFormed.ext (wellFormed_foldl_after well left) (wellFormed_foldl_after well right) ?_
  intro r
  have mine : AgreeOn r.owner ix ix := fun _ _ => Iff.rfl
  rw [agreeOn_foldl_after well well writesLeft mine r rfl, same,
    agreeOn_foldl_after well well writesRight mine r rfl]

theorem writesOf_swap (ownFirst : first.owner? = some owner)
    (ownSecond : second.owner? = some other) (apart : owner ≠ other) (one : Owner) :
    writesOf one [first, second] = writesOf one [second, first] := by
  by_cases mine : owner = one
  · subst mine
    simp [writesOf, ownFirst, ownSecond, apart.symm]
  · simp [writesOf, ownFirst, mine, List.filter_cons]

/-- **Writes to different objects commute.**  In every index that operations lead to, each of two
writes with different owners answers the same, or fails with the same error, whether it comes
before the other or behind it.  In either order they leave the same index, and so does every run
that goes on from there. -/
theorem writes_commute (operations : List Operation) (ownFirst : first.owner? = some owner)
    (ownSecond : second.owner? = some other) (apart : owner ≠ other) :
    ((afterAll operations).after second).answer first = (afterAll operations).answer first ∧
    ((afterAll operations).after first).answer second = (afterAll operations).answer second ∧
    ∀ later, afterAll (operations ++ first :: second :: later) =
      afterAll (operations ++ second :: first :: later) := by
  have well := wellFormed_afterAll operations
  refine ⟨answer_after_of_apart well ownFirst ownSecond apart,
    answer_after_of_apart well ownSecond ownFirst apart.symm, fun later => ?_⟩
  have swapped : [first, second].foldl after (afterAll operations) =
      [second, first].foldl after (afterAll operations) := by
    refine foldl_after_eq_of_writesOf well ?_ ?_ (writesOf_swap ownFirst ownSecond apart)
    · simp [ownFirst, ownSecond]
    · simp [ownFirst, ownSecond]
  have split (a b : Operation) : afterAll (operations ++ a :: b :: later) =
      later.foldl after ([a, b].foldl after (afterAll operations)) := by
    rw [afterAll, List.foldl_append]
    rfl
  rw [split, split, swapped]

/-- An insertion that is refused and a deletion, of objects with one key and one id. -/
theorem writes_commute_madmax :
    (⟨"movie", 1⟩ : Owner) ≠ ⟨"event", 1⟩ ∧
    (afterAll [.put "Mad Max" ⟨"movie", 1⟩, .put "Mad Max" ⟨"event", 1⟩,
      .delete ⟨"event", 1⟩]).answer (.insert ⟨"movie", 1⟩ ["Fury Road", "Mad Max!"]) =
        .error (.duplicateRow "madmax" "movie" 1) ∧
    (afterAll [.put "Mad Max" ⟨"movie", 1⟩, .put "Mad Max" ⟨"event", 1⟩,
      .insert ⟨"movie", 1⟩ ["Fury Road", "Mad Max!"]]).answer (.delete ⟨"event", 1⟩) =
        .ok (some 1) := by
  have apart : (⟨"movie", 1⟩ : Owner) ≠ ⟨"event", 1⟩ := by decide
  have commute := writes_commute [.put "Mad Max" ⟨"movie", 1⟩, .put "Mad Max" ⟨"event", 1⟩]
    (rfl : (Operation.insert ⟨"movie", 1⟩ ["Fury Road", "Mad Max!"]).owner? = some ⟨"movie", 1⟩)
    (rfl : (Operation.delete ⟨"event", 1⟩).owner? = some ⟨"event", 1⟩) apart
  have inserted : (afterAll [.put "Mad Max" ⟨"movie", 1⟩, .put "Mad Max" ⟨"event", 1⟩]).answer
      (.insert ⟨"movie", 1⟩ ["Fury Road", "Mad Max!"]) =
        .error (.duplicateRow "madmax" "movie" 1) := by decide
  have deleted : (afterAll [.put "Mad Max" ⟨"movie", 1⟩, .put "Mad Max" ⟨"event", 1⟩]).answer
      (.delete ⟨"event", 1⟩) = .ok (some 1) := by decide
  have behind (a b c : Operation) : afterAll [a, b, c] = (afterAll [a, b]).after c := rfl
  rw [behind, behind, commute.1, commute.2.1]
  exact ⟨apart, inserted, deleted⟩

end Wikilink.Index
