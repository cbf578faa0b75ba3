/-
# Proofs.SearchKey.Appending -- the search key of a text that goes on

Characters are lower-cased and selected one by one, so without the cut the search key of two
texts in a row would be their search keys in a row.  A cut of either text drops only what the
cut of the whole drops as well, so with the cut it is still as much of their keys as a key
holds (`toList_searchKey_append`).  Hence the key of a text that goes on starts with the key of
its leading part (`searchKey_starts_append`), and of two texts only their keys count for the
key of both (`searchKey_append_searchKey`).

A search reads every row whose key starts with that of the text, so it misses only where there
is no such row (`Index.findObject_eq_notFound_iff`).  Any leading part of an indexed text
therefore finds something (`Index.findObject_of_leading`).
-/
import Wikilink.Proofs.Resolution.Stale

namespace Wikilink

set_option autoImplicit false

/-! ## Keys of texts in a row -/

namespace SearchKey

/-- Cutting two lists before they are joined drops only what a cut of the whole drops. -/
theorem take_append_take {α : Type} (n : Nat) (s t : List α) :
    (s.take n ++ t.take n).take n = (s ++ t).take n := by
  rw [List.take_append, List.take_append, List.take_take, List.take_take, List.length_take,
    Nat.min_self]
  congr 2
  omega

theorem ofChars_append (s t : List Char) :
    ofChars (s ++ t) = (ofChars s ++ ofChars t).take maxLength := by
  rw [ofChars, List.flatMap_append, List.filter_append, ← take_append_take]
  rfl

end SearchKey

theorem toList_searchKey_append (first second : String) :
    (searchKey (first ++ second)).toList =
      ((searchKey first).toList ++ (searchKey second).toList).take SearchKey.maxLength := by
  simp only [searchKey, String.toList_ofList, String.toList_append]
  exact SearchKey.ofChars_append first.toList second.toList

/-- **The key of a text that goes on starts with the key of its leading part**, wherever the cut
falls. -/
theorem searchKey_starts_append (first second : String) :
    (searchKey first).toList <+: (searchKey (first ++ second)).toList := by
  have short : (searchKey first).toList.length ≤ SearchKey.maxLength :=
    String.length_toList ▸ length_searchKey_le first
  rw [toList_searchKey_append, List.take_append, List.take_of_length_le short]
  exact List.prefix_append _ _

theorem searchKey_append_ne_empty {first : String} (nonempty : searchKey first ≠ "")
    (second : String) : searchKey (first ++ second) ≠ "" := by
  intro empty
  have starts := searchKey_starts_append first second
  rw [empty, String.toList_empty, List.prefix_nil] at starts
  exact nonempty (String.toList_eq_nil_iff.mp starts)

/-- **Two texts can be replaced by their keys** where a key is made of both. -/
theorem searchKey_append_searchKey (first second : String) :
    searchKey (searchKey first ++ searchKey second) = searchKey (first ++ second) := by
  apply String.toList_injective
  rw [toList_searchKey_append, toList_searchKey_append, searchKey_searchKey, searchKey_searchKey]

/-! ## Searches by a leading part -/

namespace Index

variable {ix : Index} {text contentType : String}

theorem ownersAt_subset_ownersFrom (ix : Index) (key contentType : String) :
    ix.ownersAt key contentType ⊆ ix.ownersFrom key contentType :=
  fun _ mem => ⟨key, List.prefix_rfl, mem⟩

/-- **A search misses exactly where no key of the content type starts with that of the text.** -/
theorem findObject_eq_notFound_iff (ordered : ix.byKey.Pairwise Row.Before)
    (nonempty : searchKey text ≠ "") :
    ix.findObject text contentType = .notFound ↔
      ix.ownersFrom (searchKey text) contentType = ∅ := by
  have atKey := @lookup_of ix text contentType ordered nonempty
  have fromKey := @lookupPrefix_of ix text contentType ordered nonempty
  rw [findObject, Lookup.orElse_eq_notFound_iff, atKey.eq_notFound_iff, fromKey.eq_notFound_iff]
  constructor
  · exact And.right
  · intro none
    have exactly := ix.ownersAt_subset_ownersFrom (searchKey text) contentType
    rw [none, Set.subset_empty_iff] at exactly
    exact ⟨exactly, none⟩

/-- A search that some row could answer finds one object or several. -/
theorem findObject_of_mem_ownersFrom {id : Nat} (ordered : ix.byKey.Pairwise Row.Before)
    (nonempty : searchKey text ≠ "") (starts : id ∈ ix.ownersFrom (searchKey text) contentType) :
    (∃ found, ix.findObject text contentType = .found found) ∨
      ix.findObject text contentType = .ambiguous := by
  cases outcome : ix.findObject text contentType with
  | found other => exact Or.inl ⟨other, rfl⟩
  | notFound =>
      rw [findObject_eq_notFound_iff ordered nonempty] at outcome
      rw [outcome] at starts
      exact starts.elim
  | ambiguous => exact Or.inr rfl

/-- What a search finds has exactly the key, or is the only one with a key that starts with it. -/
theorem eq_or_mem_ownersAt_of_found {id found : Nat} (ordered : ix.byKey.Pairwise Row.Before)
    (nonempty : searchKey text ≠ "") (starts : id ∈ ix.ownersFrom (searchKey text) contentType)
    (finds : ix.findObject text contentType = .found found) :
    found = id ∨ found ∈ ix.ownersAt (searchKey text) contentType := by
  rcases (findObject_eq_found_iff ordered nonempty).mp finds with exactly | ⟨-, only⟩
  · exact Or.inr (exactly ▸ Set.mem_singleton found)
  · rw [only] at starts
    exact Or.inl (Set.mem_singleton_iff.mp starts).symm

/-- A text with a key has a row once it was put into an index without rows of the owner. -/
theorem mem_after_put {owner : Owner} (well : ix.WellFormed) (bare : ix.Bare owner)
    (nonempty : searchKey text ≠ "") :
    (⟨searchKey text, owner⟩ : Row) ∈ ix.after (.put text owner) := by
  obtain ⟨jx, inserted, -, given⟩ := insertFor_of_bare [text] well bare
  have performed : ix.perform (.put text owner) = .ok jx := inserted
  rw [after, performed]
  exact (given _).mpr (Or.inl ⟨rfl, mem_storedKeys.mpr ⟨nonempty, text, by simp, rfl⟩⟩)

theorem mem_afterAll_put (owner : Owner) (nonempty : searchKey text ≠ "") :
    (⟨searchKey text, owner⟩ : Row) ∈ afterAll [.put text owner] := by
  rw [afterAll, List.foldl_cons, List.foldl_nil]
  exact mem_after_put wellFormed_empty (fun row mem => (not_mem_empty row mem).elim) nonempty

/-! ## A text that is cut -/

/-- A letter over and over. -/
def letters (n : Nat) : String :=
  String.ofList (List.replicate n 'a')

theorem length_toList_letters (n : Nat) : (letters n).toList.length = n := by
  rw [letters, String.toList_ofList, List.length_replicate]

theorem searchKey_letters {n : Nat} (short : n ≤ SearchKey.maxLength) :
    searchKey (letters n) = letters n := by
  have alphabet : ∀ c ∈ List.replicate n 'a', SearchKey.admits c = true ∧ Text.lower c = [c] := by
    intro c mem
    rw [List.eq_of_mem_replicate mem]
    decide
  have normal : SearchKey.Normal (List.replicate n 'a') :=
    ⟨List.length_replicate.trans_le short, fun c mem => (alphabet c mem).1,
      fun c mem => (alphabet c mem).2⟩
  rw [letters, searchKey, String.toList_ofList, SearchKey.ofChars_of_normal normal]

/-- Of what follows, the cut leaves one character. -/
theorem searchKey_letters_append {n : Nat} (last : n + 1 = SearchKey.maxLength) :
    searchKey (letters n ++ "Mad Max") = letters n ++ "m" := by
  have rest : (searchKey "Mad Max").toList = 'm' :: "admax".toList := by decide
  have room : SearchKey.maxLength - n = 1 := by omega
  have front := length_toList_letters n
  apply String.toList_injective
  rw [toList_searchKey_append, searchKey_letters (by omega), rest, List.take_append,
    List.take_of_length_le (by omega), front, room, String.toList_append]
  rfl

/-! ## Leading parts -/

/-- **Any leading part of an indexed text finds something.**  The key of a text starts with the
key of each leading part, and is made of the keys of its parts, wherever the cut falls.  So in
every index that operations lead to, a row for a text is found by each leading part with a key:
the search finds one object or several, and if it finds one other than the row's, that one has
exactly the key of the leading part. -/
theorem findObject_of_leading (first second : String) :
    (searchKey first).toList <+: (searchKey (first ++ second)).toList ∧
    searchKey (searchKey first ++ searchKey second) = searchKey (first ++ second) ∧
    ∀ (operations : List Operation) (contentType : String) (id : Nat),
      let ix := afterAll operations
      (⟨searchKey (first ++ second), contentType, id⟩ : Row) ∈ ix → searchKey first ≠ "" →
        ((∃ found, ix.findObject first contentType = .found found) ∨
          ix.findObject first contentType = .ambiguous) ∧
        ∀ found, ix.findObject first contentType = .found found →
          found = id ∨ (⟨searchKey first, contentType, found⟩ : Row) ∈ ix := by
  have starts := searchKey_starts_append first second
  refine ⟨starts, searchKey_append_searchKey first second, ?_⟩
  intro operations contentType id ix stored nonempty
  have ordered : ix.byKey.Pairwise Row.Before := (wellFormed_afterAll operations).keyAscending
  have reached : id ∈ ix.ownersFrom (searchKey first) contentType := ⟨_, starts, stored⟩
  constructor
  · exact findObject_of_mem_ownersFrom ordered nonempty reached
  · intro found finds
    exact eq_or_mem_ownersAt_of_found ordered nonempty reached finds

/-- The cut falls inside the second part, and the first part still finds the film. -/
theorem findObject_of_leading_letters :
    searchKey (letters 299 ++ "Mad Max") = letters 299 ++ "m" ∧
    (⟨searchKey (letters 299 ++ "Mad Max"), "movie", 1⟩ : Row) ∈
      afterAll [.put (letters 299 ++ "Mad Max") ⟨"movie", 1⟩] ∧
    searchKey (letters 299) ≠ "" ∧
    ((∃ found, (afterAll [.put (letters 299 ++ "Mad Max") ⟨"movie", 1⟩]).findObject
        (letters 299) "movie" = .found found) ∨
      (afterAll [.put (letters 299 ++ "Mad Max") ⟨"movie", 1⟩]).findObject
        (letters 299) "movie" = .ambiguous) := by
  have nonempty : searchKey (letters 299) ≠ "" := by
    rw [searchKey_letters (by decide)]
    intro empty
    have length := length_toList_letters 299
    rw [empty] at length
    cases length
  have stored : (⟨searchKey (letters 299 ++ "Mad Max"), "movie", 1⟩ : Row) ∈
      afterAll [.put (letters 299 ++ "Mad Max") ⟨"movie", 1⟩] :=
    mem_afterAll_put ⟨"movie", 1⟩ (searchKey_append_ne_empty nonempty "Mad Max")
  obtain ⟨-, -, finds⟩ := findObject_of_leading (letters 299) "Mad Max"
  exact ⟨searchKey_letters_append rfl, stored, nonempty, (finds _ "movie" 1 stored nonempty).1⟩

end Index

end Wikilink
