/-
# Proofs.Index.Lookup -- a lookup counts a set

In an index that a run of operations leads to, a lookup says whether no, one or more
than one object has the search key of a text, and a lookup by the start of a key
whether no, one or more than one has a key that starts with it
(`lookups_of_afterAll`).  The scan behind it may stop at the second candidate: no
row that it leaves unread changes the outcome (`ofCandidates_scan`).
-/
import Wikilink.Proofs.Index.Operations
import Wikilink.Proofs.Index.Search

namespace Wikilink

set_option autoImplicit false

/-! ## Candidates -/

namespace Lookup

variable {α : Type}

theorem ofCandidates_of_two {candidates : List α} (two : 1 < candidates.length) :
    ofCandidates candidates = ambiguous := by
  match candidates, two with
  | _ :: _ :: _, _ => rfl

/-- Distinct candidates have the outcome of their set. -/
theorem of_ofCandidates {candidates : List α} (distinct : candidates.Nodup) :
    (ofCandidates candidates).Of {a | a ∈ candidates} := by
  match candidates, distinct with
  | [], _ => exact Set.eq_empty_of_forall_notMem fun _ => List.not_mem_nil
  | [a], _ => exact Set.ext fun b => List.mem_singleton
  | a :: b :: rest, distinct =>
      refine ⟨a, by simp, b, by simp, ?_⟩
      rintro rfl
      simp at distinct

theorem orElse_of_decided {first : Lookup α} (decided : first ≠ .notFound) (second : Lookup α) :
    first.orElse second = first := by
  cases first with
  | notFound => exact absurd rfl decided
  | found a => rfl
  | ambiguous => rfl

end Lookup

/-! ## Stopping at the second candidate -/

theorem Ascending.length_le_length_insert {α : Type} {before : α → α → Prop}
    [DecidableRel before] (x : α) (ys : List α) : ys.length ≤ (insert before x ys).length := by
  induction ys with
  | nil => exact Nat.zero_le _
  | cons y ys ih =>
      simp only [insert]
      split
      · simp
      · split
        · simpa using ih
        · exact le_rfl

namespace Index

/-- The candidates that rows add to those found: the reading ends before a row outside, and as
soon as there are two. -/
def scan (inside : Row → Bool) (add : List Nat → Row → List Nat) (found : List Nat) :
    List Row → List Nat
  | [] => found
  | r :: rows =>
      if inside r then
        if 1 < (add found r).length then add found r else scan inside add (add found r) rows
      else found

theorem length_le_foldl {add : List Nat → Row → List Nat}
    (grows : ∀ found r, found.length ≤ (add found r).length) (rows : List Row)
    (found : List Nat) : found.length ≤ (rows.foldl add found).length := by
  induction rows generalizing found with
  | nil => exact le_rfl
  | cons r rows ih => exact (grows found r).trans (ih (add found r))

/-- **Rows behind the second candidate do not change the outcome.** -/
theorem ofCandidates_scan {inside : Row → Bool} {add : List Nat → Row → List Nat}
    (grows : ∀ found r, found.length ≤ (add found r).length) (rows : List Row)
    (found : List Nat) :
    Lookup.ofCandidates (scan inside add found rows) =
      Lookup.ofCandidates ((rows.takeWhile inside).foldl add found) := by
  induction rows generalizing found with
  | nil => rfl
  | cons r rows ih =>
      rw [scan]
      split
      · rename_i within
        rw [List.takeWhile_cons_of_pos within, List.foldl_cons]
        split
        · rename_i two
          have all := two.trans_le (length_le_foldl grows (rows.takeWhile inside) (add found r))
          rw [Lookup.ofCandidates_of_two two, Lookup.ofCandidates_of_two all]
        · exact ih (add found r)
      · rename_i outside
        rw [List.takeWhile_cons_of_neg outside]
        rfl

/-- The lookup of a key that stops at the second object. -/
def stoppingLookup (ix : Index) (text contentType : String) : Lookup Nat :=
  let key := searchKey text
  if key = "" then .notFound
  else .ofCandidates
    (scan (fun r => r.key = key ∧ r.owner.contentType = contentType)
      (fun found r => found ++ [r.owner.id]) []
      (ix.byKey.dropWhile fun r => decide (r.Before ⟨key, contentType, 0⟩)))

/-- The lookup of the start of a key that stops at the second object. -/
def stoppingLookupPrefix (ix : Index) (text contentType : String) : Lookup Nat :=
  let key := searchKey text
  if key = "" then .notFound
  else .ofCandidates
    (scan (fun r => startsWith r.key key)
      (fun found r => if r.owner.contentType = contentType then
        Ascending.insert (· < ·) r.owner.id found else found) []
      (ix.byKey.dropWhile fun r => decide (r.Before ⟨key, "", 0⟩)))

variable {ix : Index} {text contentType : String}

theorem stoppingLookup_eq : ix.stoppingLookup text contentType = ix.lookup text contentType := by
  have collected (rows : List Row) (found : List Nat) :
      rows.foldl (fun found r => found ++ [r.owner.id]) found = found ++ rows.map (·.owner.id) := by
    induction rows generalizing found with
    | nil => simp
    | cons r rows ih => simp [ih]
  simp only [stoppingLookup, lookup, idsAt]
  rw [ofCandidates_scan (by simp), collected, List.nil_append]

theorem stoppingLookupPrefix_eq :
    ix.stoppingLookupPrefix text contentType = ix.lookupPrefix text contentType := by
  have grows (found : List Nat) (r : Row) : found.length ≤
      (if r.owner.contentType = contentType then Ascending.insert (· < ·) r.owner.id found
        else found).length := by
    split
    · exact Ascending.length_le_length_insert _ _
    · exact le_rfl
  simp only [stoppingLookupPrefix, lookupPrefix, idsFrom, Ascending.ofList]
  rw [ofCandidates_scan grows, List.foldl_map, List.foldl_filter]
  simp only [decide_eq_true_eq]

/-! ## Lookups -/

/-- The ids of a content type with exactly a key. -/
def ownersAt (ix : Index) (key contentType : String) : Set Nat :=
  {id | (⟨key, contentType, id⟩ : Row) ∈ ix}

/-- The ids of a content type with a key that starts with a text. -/
def ownersFrom (ix : Index) (start contentType : String) : Set Nat :=
  {id | ∃ key, start.toList <+: key.toList ∧ (⟨key, contentType, id⟩ : Row) ∈ ix}

theorem lookup_of (ordered : ix.byKey.Pairwise Row.Before) (nonempty : searchKey text ≠ "") :
    (ix.lookup text contentType).Of (ix.ownersAt (searchKey text) contentType) := by
  have ids : {id | id ∈ ix.idsAt (searchKey text) contentType} =
      ix.ownersAt (searchKey text) contentType := Set.ext fun _ => mem_idsAt ordered
  simp only [lookup, if_neg nonempty]
  exact ids ▸ Lookup.of_ofCandidates (nodup_idsAt ordered)

theorem lookupPrefix_of (ordered : ix.byKey.Pairwise Row.Before) (nonempty : searchKey text ≠ "") :
    (ix.lookupPrefix text contentType).Of (ix.ownersFrom (searchKey text) contentType) := by
  have ids : {id | id ∈ ix.idsFrom (searchKey text) contentType} =
      ix.ownersFrom (searchKey text) contentType := Set.ext fun _ => mem_idsFrom ordered
  simp only [lookupPrefix, if_neg nonempty]
  exact ids ▸ Lookup.of_ofCandidates nodup_idsFrom

/-- **Lookups in an index that operations lead to count the objects with a key.**  The objects
with the key itself decide, also when there are several of them; those whose keys go on count
when there are none. -/
theorem lookups_of_afterAll (operations : List Operation) (text contentType : String) :
    let ix := afterAll operations
    let key := searchKey text
    (key = "" → ix.lookup text contentType = .notFound ∧
      ix.lookupPrefix text contentType = .notFound) ∧
    (key ≠ "" → (ix.lookup text contentType).Of (ix.ownersAt key contentType) ∧
      (ix.lookupPrefix text contentType).Of (ix.ownersFrom key contentType)) ∧
    (ix.lookup text contentType ≠ .notFound →
      ix.findObject text contentType = ix.lookup text contentType) ∧
    (ix.lookup text contentType = .notFound →
      ix.findObject text contentType = ix.lookupPrefix text contentType) ∧
    ix.stoppingLookup text contentType = ix.lookup text contentType ∧
    ix.stoppingLookupPrefix text contentType = ix.lookupPrefix text contentType := by
  have ordered := (wellFormed_afterAll operations).keyAscending
  refine ⟨fun empty => ⟨if_pos empty, if_pos empty⟩,
    fun nonempty => ⟨lookup_of ordered nonempty, lookupPrefix_of ordered nonempty⟩,
    fun decided => ?_, fun none => ?_, stoppingLookup_eq, stoppingLookupPrefix_eq⟩
  · rw [findObject, Lookup.orElse_of_decided decided]
  · rw [findObject, none, Lookup.orElse]

end Index

end Wikilink
