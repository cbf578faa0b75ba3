/-
# Proofs.Resolution.Stale -- an index out of step leads to no wrong object

The index and the objects can drift apart: objects are inserted, replaced and removed
without an event, and the rows stay.  A search through the index still answers only
with an object that the source holds, and only where the rows lead to its id and to no
other: by the search key of the query, or, where no row of the content type has that,
by the keys that start with it (`findObject_eq_found_iff`).  Rows of other content
types take no part (`findObject_congr`).  Both hold whatever the objects are
(`find_sound`).
-/
import Wikilink.Proofs.Index.Lookup
import Wikilink.Proofs.Resolution

namespace Wikilink

set_option autoImplicit false

namespace Lookup

variable {α : Type} {s : Set α} {outcome : Lookup α} {a : α}

theorem Of.eq_found_iff (counted : outcome.Of s) : outcome = .found a ↔ s = {a} :=
  ⟨fun found => by rwa [found] at counted, fun one => counted.unique one⟩

theorem Of.eq_notFound_iff (counted : outcome.Of s) : outcome = .notFound ↔ s = ∅ :=
  ⟨fun none => by rwa [none] at counted, fun empty => counted.unique empty⟩

theorem orElse_eq_found_iff {first second : Lookup α} :
    first.orElse second = .found a ↔ first = .found a ∨ first = .notFound ∧ second = .found a := by
  cases first <;> simp [orElse]

theorem orElse_eq_notFound_iff {first second : Lookup α} :
    first.orElse second = .notFound ↔ first = .notFound ∧ second = .notFound := by
  cases first <;> simp [orElse]

end Lookup

/-! ## What the rows lead to -/

namespace Index

variable {ix jx : Index} {text contentType : String} {id : Nat}

/-- The rows lead from a key to an id and to no other: by the key itself, or, where no row of the
content type has it, by keys that start with it. -/
def LeadsTo (ix : Index) (key contentType : String) (id : Nat) : Prop :=
  ix.ownersAt key contentType = {id} ∨
    ix.ownersAt key contentType = ∅ ∧ ix.ownersFrom key contentType = {id}

/-- **A search finds the one id that the rows lead to.** -/
theorem findObject_eq_found_iff (ordered : ix.byKey.Pairwise Row.Before)
    (nonempty : searchKey text ≠ "") :
    ix.findObject text contentType = .found id ↔ ix.LeadsTo (searchKey text) contentType id := by
  have atKey := @lookup_of ix text contentType ordered nonempty
  have fromKey := @lookupPrefix_of ix text contentType ordered nonempty
  rw [findObject, Lookup.orElse_eq_found_iff, atKey.eq_found_iff, atKey.eq_notFound_iff,
    fromKey.eq_found_iff, LeadsTo]

/-- **Rows of other content types make no difference** to a search. -/
theorem findObject_congr (orderedI : ix.byKey.Pairwise Row.Before)
    (orderedJ : jx.byKey.Pairwise Row.Before)
    (same : ∀ r : Row, r.owner.contentType = contentType → (r ∈ jx ↔ r ∈ ix)) :
    jx.findObject text contentType = ix.findObject text contentType := by
  by_cases empty : searchKey text = ""
  · simp only [findObject, lookup, lookupPrefix, if_pos empty]
  · have owners : jx.ownersAt (searchKey text) contentType =
        ix.ownersAt (searchKey text) contentType := by
      ext id
      exact same ⟨searchKey text, ⟨contentType, id⟩⟩ rfl
    have starts : jx.ownersFrom (searchKey text) contentType =
        ix.ownersFrom (searchKey text) contentType := by
      ext id
      exact exists_congr fun key => and_congr_right fun _ => same ⟨key, ⟨contentType, id⟩⟩ rfl
    have atKey : jx.lookup text contentType = ix.lookup text contentType :=
      (lookup_of orderedJ empty).unique (owners ▸ lookup_of orderedI empty)
    have fromKey : jx.lookupPrefix text contentType = ix.lookupPrefix text contentType :=
      (lookupPrefix_of orderedJ empty).unique (starts ▸ lookupPrefix_of orderedI empty)
    rw [findObject, atKey, fromKey, findObject]

end Index

/-! ## What is found -/

namespace Site

variable {ι : Type} {s : Site ι} {i : ι} {query : String} {o : Item}

theorem findIndexed_eq_found_iff (ordered : s.index.byKey.Pairwise Row.Before) :
    s.findIndexed i query = .found o ↔
      searchKey query ≠ "" ∧ ∃ id, (s.sources i).get? id = some o ∧
        s.index.LeadsTo (searchKey query) (s.types i).contentType id := by
  by_cases empty : searchKey query = ""
  · simp [findIndexed, empty]
  · have again : searchKey (searchKey query) ≠ "" := by rwa [searchKey_searchKey]
    rw [findIndexed_eq_fetch_findObject empty, Source.fetch_eq_found_iff]
    simp only [Index.findObject_eq_found_iff ordered again, searchKey_searchKey]
    constructor
    · rintro ⟨id, leads, held⟩
      exact ⟨empty, id, held, leads⟩
    · rintro ⟨-, id, held, leads⟩
      exact ⟨id, leads, held⟩

/-- An object that was removed is not found, whatever rows it still has. -/
theorem findIndexed_ne_of_removed (ordered : s.index.byKey.Pairwise Row.Before)
    (removed : (s.sources i).get? o.id = none) : s.findIndexed i query ≠ .found o := by
  intro found
  obtain ⟨-, id, held, -⟩ := (findIndexed_eq_found_iff ordered).mp found
  obtain rfl := (Source.get?_eq_some_iff.mp held).2
  rw [removed] at held
  cases held

theorem findIndexed_congr {jx : Index} (orderedI : s.index.byKey.Pairwise Row.Before)
    (orderedJ : jx.byKey.Pairwise Row.Before)
    (same : ∀ r : Row, r.owner.contentType = (s.types i).contentType →
      (r ∈ jx ↔ r ∈ s.index)) :
    { s with index := jx }.findIndexed i query = s.findIndexed i query := by
  by_cases empty : searchKey query = ""
  · simp only [findIndexed, if_pos empty]
  · rw [findIndexed_eq_fetch_findObject empty, findIndexed_eq_fetch_findObject empty,
      Index.findObject_congr orderedI orderedJ same]

/-- **However stale the index is, a search finds only what is there.**  In every index that
operations lead to, and whatever the objects are, an object is found exactly if the source holds
it under an id that the rows of its content type lead to, and to no other.  So an object that was
removed is never found, and rows of other content types make no difference. -/
theorem find_sound (operations : List Index.Operation) (query : String)
    (indexed : s.index = Index.afterAll operations) (finder : (s.types i).finder = .searchKeys) :
    (∀ o, s.find i query = .ok (.found o) ↔
      searchKey query ≠ "" ∧ ∃ id, (s.sources i).get? id = some o ∧
        s.index.LeadsTo (searchKey query) (s.types i).contentType id) ∧
    (∀ o, (s.sources i).get? o.id = none → s.find i query ≠ .ok (.found o)) ∧
    ∀ others, (∀ r : Row, r.owner.contentType = (s.types i).contentType →
        (r ∈ Index.afterAll others ↔ r ∈ s.index)) →
      { s with index := Index.afterAll others }.find i query = s.find i query := by
  have ordered : s.index.byKey.Pairwise Row.Before :=
    indexed ▸ (Index.wellFormed_afterAll operations).keyAscending
  simp only [find, finder, Except.ok.injEq]
  refine ⟨fun o => findIndexed_eq_found_iff ordered,
    fun o removed => by simpa using findIndexed_ne_of_removed ordered removed,
    fun others same => ?_⟩
  exact findIndexed_congr ordered (Index.wellFormed_afterAll others).keyAscending same

/-- Films that were changed without an event: the first was removed and the second renamed, and a
book has the key of a film. -/
def staleFilms : Site Unit where
  types := fun _ => filmType
  sources := fun _ => ({} : Source).insert (film 2 "Fury Road")
  registry := films.registry
  index := .afterAll
    [.put "Furiosa" ⟨"movie", 1⟩, .put "Mad Max" ⟨"movie", 2⟩, .put "Mad Max" ⟨"book", 3⟩]
  render := Template.html

/-- The second film is found under its old title, and the first is not found any more. -/
theorem find_sound_stale_films :
    staleFilms.find () "Mad Max!" = .ok (.found (film 2 "Fury Road")) ∧
    ∀ title, staleFilms.find () "Furiosa" ≠ .ok (.found (film 1 title)) := by
  have sound := fun query => @find_sound Unit staleFilms () _ query rfl rfl
  have titleKey : searchKey "Mad Max!" = "madmax" := by decide
  have rows : staleFilms.index.byKey =
      [⟨"furiosa", "movie", 1⟩, ⟨"madmax", "book", 3⟩, ⟨"madmax", "movie", 2⟩] := by decide
  have leads : staleFilms.index.LeadsTo "madmax" "movie" 2 := by
    refine Or.inl (Set.ext fun id => ?_)
    show (⟨"madmax", "movie", id⟩ : Row) ∈ staleFilms.index.byKey ↔ id = 2
    rw [rows]
    simp
  have held : (staleFilms.sources ()).get? 2 = some (film 2 "Fury Road") := rfl
  obtain ⟨titled, -, -⟩ := sound "Mad Max!"
  obtain ⟨-, removed, -⟩ := sound "Furiosa"
  rw [titleKey] at titled
  exact ⟨(titled _).mpr ⟨by decide, 2, held, leads⟩, fun title => removed (film 1 title) rfl⟩

end Site

end Wikilink
