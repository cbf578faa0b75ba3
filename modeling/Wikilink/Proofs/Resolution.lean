/-
# Proofs.Resolution -- the index finds what a scan of the objects finds

Where the index holds the rows that are due, a query with a type hint leads to what
a naive scan of the objects in scope of that link type leads to
(`resolve_eq_scan`): the object that has the search key of the query, or else the
one with a search key that starts with it.  Neither is narrowed down when there are
several, and objects are counted, not rows.
-/
import Wikilink.Proofs.Index.Search
import Wikilink.Proofs.Maintenance.Rebuild
import Wikilink.Site.Resolution

namespace Wikilink

set_option autoImplicit false

/-! ## From ids to objects -/

namespace Source

variable {s : Source}

/-- The object of an id that was found, if it still exists. -/
def fetch (s : Source) : Lookup Nat → Lookup Item
  | .found id => (s.get? id).elim .notFound .found
  | .notFound => .notFound
  | .ambiguous => .ambiguous

/-- Counting the ids of existing objects is counting the objects. -/
theorem fetch_of_ids {ids : List Nat} {objects : Set Item} (distinct : ids.Nodup)
    (existing : ∀ o ∈ objects, s.get? o.id = some o)
    (same : ∀ id, id ∈ ids ↔ ∃ o ∈ objects, o.id = id) :
    (s.fetch (.ofCandidates ids)).Of objects := by
  cases ids with
  | nil =>
      refine Set.eq_empty_of_forall_notMem fun o mem => ?_
      exact List.not_mem_nil ((same o.id).mpr ⟨o, mem, rfl⟩)
  | cons id rest =>
      obtain ⟨o, memO, rfl⟩ := (same id).mp (by simp)
      cases rest with
      | nil =>
          have only : objects = {o} := by
            refine Set.eq_singleton_iff_unique_mem.mpr ⟨memO, fun p memP => ?_⟩
            have id : p.id = o.id := List.mem_singleton.mp ((same p.id).mpr ⟨p, memP, rfl⟩)
            have found := existing p memP
            rw [id, existing o memO] at found
            exact (Option.some.inj found).symm
          simp only [Lookup.ofCandidates, fetch, existing o memO]
          exact only
      | cons next rest =>
          obtain ⟨p, memP, rfl⟩ := (same next).mp (by simp)
          refine ⟨o, memO, p, memP, ?_⟩
          rintro rfl
          simp at distinct

/-- An object that is fetched is the one that the source holds under the id. -/
theorem fetch_eq_found_iff {found : Lookup Nat} {o : Item} :
    s.fetch found = .found o ↔ ∃ id, found = .found id ∧ s.get? id = some o := by
  cases found with
  | notFound => simp [fetch]
  | ambiguous => simp [fetch]
  | found id =>
      simp only [fetch, Lookup.found.injEq, exists_eq_left']
      cases s.get? id <;> simp

theorem fetch_orElse {first : Lookup Nat} (decided : s.fetch first ≠ .notFound)
    (second : Lookup Nat) : s.fetch (first.orElse second) = s.fetch first := by
  cases first with
  | notFound => exact absurd rfl decided
  | found id => rfl
  | ambiguous => rfl

end Source

namespace Site

variable {ι : Type} {s : Site ι} {i : ι} {query : String}

/-! ## The scan -/

/-- The objects in scope that have the search key of a query. -/
def exactMatches (s : Site ι) (i : ι) (query : String) : Set Item :=
  {o | o ∈ (s.sources i).all ∧ searchKey query ∈ (s.types i).searchKeys o}

/-- The objects in scope with a search key that starts with the one of a query. -/
def prefixMatches (s : Site ι) (i : ι) (query : String) : Set Item :=
  {o | o ∈ (s.sources i).all ∧
    ∃ key ∈ (s.types i).searchKeys o, (searchKey query).toList <+: key.toList}

/-! ## The search -/

theorem findIndexed_of_empty (empty : searchKey query = "") : s.findIndexed i query = .notFound := by
  simp only [findIndexed, if_pos empty]

theorem findIndexed_eq_fetch_findObject (nonempty : searchKey query ≠ "") :
    s.findIndexed i query =
      (s.sources i).fetch (s.index.findObject (searchKey query) (s.types i).contentType) := by
  simp only [findIndexed, if_neg nonempty]
  cases s.index.findObject (searchKey query) (s.types i).contentType with
  | notFound => rfl
  | ambiguous => rfl
  | found id =>
      simp only [Source.fetch]
      cases (s.sources i).get? id <;> rfl

theorem findIndexed_eq_fetch (nonempty : searchKey query ≠ "") :
    s.findIndexed i query = (s.sources i).fetch
      ((Lookup.ofCandidates (s.index.idsAt (searchKey query) (s.types i).contentType)).orElse
        (.ofCandidates (s.index.idsFrom (searchKey query) (s.types i).contentType))) := by
  rw [findIndexed_eq_fetch_findObject nonempty, Index.findObject,
    Index.lookup_of_searchKey nonempty, Index.lookupPrefix_of_searchKey nonempty]

variable [DecidableEq ι]

/-- An index with the rows that are due has the ids of the objects under a key. -/
theorem mem_idsAt_iff (reached : s.registry.Reachable s.types)
    (ordered : s.index.byKey.Pairwise Row.Before) (rows : ∀ r, r ∈ s.index ↔ s.RowDue r)
    (registered : i ∈ s.registry.linkTypes) (id : Nat) :
    id ∈ s.index.idsAt (searchKey query) (s.types i).contentType ↔
      ∃ o ∈ s.exactMatches i query, o.id = id := by
  rw [Index.mem_idsAt ordered, rows, rowDue_iff reached registered]
  constructor
  · rintro ⟨o, listed, same, keyed⟩
    exact ⟨o, ⟨listed, keyed⟩, same⟩
  · rintro ⟨o, ⟨listed, keyed⟩, same⟩
    exact ⟨o, listed, same, keyed⟩

theorem mem_idsFrom_iff (reached : s.registry.Reachable s.types)
    (ordered : s.index.byKey.Pairwise Row.Before) (rows : ∀ r, r ∈ s.index ↔ s.RowDue r)
    (registered : i ∈ s.registry.linkTypes) (id : Nat) :
    id ∈ s.index.idsFrom (searchKey query) (s.types i).contentType ↔
      ∃ o ∈ s.prefixMatches i query, o.id = id := by
  rw [Index.mem_idsFrom ordered]
  constructor
  · rintro ⟨key, starts, row⟩
    obtain ⟨o, listed, same, keyed⟩ := (rowDue_iff reached registered).mp ((rows _).mp row)
    exact ⟨o, ⟨listed, key, keyed, starts⟩, same⟩
  · rintro ⟨o, ⟨listed, key, keyed, starts⟩, same⟩
    have due := (rowDue_iff reached registered).mpr ⟨o, listed, same, keyed⟩
    exact ⟨key, starts, (rows _).mpr due⟩

/-- Exact matches decide, and where there are none the others do. -/
theorem findIndexed_of (reached : s.registry.Reachable s.types)
    (ordered : s.index.byKey.Pairwise Row.Before) (rows : ∀ r, r ∈ s.index ↔ s.RowDue r)
    (registered : i ∈ s.registry.linkTypes) (nonempty : searchKey query ≠ "") :
    if s.exactMatches i query = ∅ then (s.findIndexed i query).Of (s.prefixMatches i query)
    else (s.findIndexed i query).Of (s.exactMatches i query) := by
  rw [findIndexed_eq_fetch nonempty]
  have atKey : ∀ id, id ∈ s.index.idsAt (searchKey query) (s.types i).contentType ↔
      ∃ o ∈ s.exactMatches i query, o.id = id := mem_idsAt_iff reached ordered rows registered
  split
  · rename_i none
    have ids : s.index.idsAt (searchKey query) (s.types i).contentType = [] := by
      refine List.eq_nil_iff_forall_not_mem.mpr fun id mem => ?_
      obtain ⟨o, matched, -⟩ := (atKey id).mp mem
      exact Set.notMem_empty o (none ▸ matched)
    rw [ids]
    refine Source.fetch_of_ids Index.nodup_idsFrom ?_
      (mem_idsFrom_iff reached ordered rows registered)
    rintro o ⟨listed, -⟩
    exact (Source.mem_all_iff.mp listed).1
  · rename_i some
    have outcome := Source.fetch_of_ids (Index.nodup_idsAt ordered)
      (fun o matched => (Source.mem_all_iff.mp matched.1).1) atKey
    rw [Source.fetch_orElse]
    · exact outcome
    · intro none
      rw [none] at outcome
      exact some outcome

end Site

/-- What the outcome of the search in one link type comes to. -/
def Resolution.ofLookup {ι : Type} (i : ι) : Lookup Item → Resolution ι
  | .found o => .found i o
  | .notFound => .unresolved i
  | .ambiguous => .ambiguous i

namespace Site

variable {ι : Type} [DecidableEq ι] {s : Site ι} {i : ι} {query : String}

theorem resolve_of_searchKeys {shortcut : String} (bound : s.registry.find? shortcut = some i)
    (finder : (s.types i).finder = .searchKeys) :
    s.resolve (some shortcut) query = .ok (.ofLookup i (s.findIndexed i query)) := by
  obtain ⟨first, head⟩ := Registry.first?_isSome_of_mem (Registry.mem_linkTypes_of_find? bound)
  simp only [resolve, head, bound, resolveIn, find, finder]
  cases s.findIndexed i query <;> rfl

/-- **A query with a type hint leads to what a scan of the objects leads to.** -/
theorem resolve_eq_scan {shortcut : String} (query : String)
    (reached : s.registry.Reachable s.types)
    (finders : ∀ j ∈ s.registry.linkTypes, (s.types j).finder = .searchKeys)
    (ordered : s.index.byKey.Pairwise Row.Before) (rows : ∀ r, r ∈ s.index ↔ s.RowDue r)
    (bound : s.registry.find? shortcut = some i) :
    (searchKey query = "" → s.resolve (some shortcut) query = .ok (.unresolved i)) ∧
    (searchKey query ≠ "" →
      (∀ o, s.exactMatches i query = {o} → s.resolve (some shortcut) query = .ok (.found i o)) ∧
      ((s.exactMatches i query).Nontrivial →
        s.resolve (some shortcut) query = .ok (.ambiguous i)) ∧
      (s.exactMatches i query = ∅ →
        (∀ o, s.prefixMatches i query = {o} →
          s.resolve (some shortcut) query = .ok (.found i o)) ∧
        ((s.prefixMatches i query).Nontrivial →
          s.resolve (some shortcut) query = .ok (.ambiguous i)) ∧
        (s.prefixMatches i query = ∅ →
          s.resolve (some shortcut) query = .ok (.unresolved i)))) := by
  have registered := Registry.mem_linkTypes_of_find? bound
  rw [resolve_of_searchKeys bound (finders i registered)]
  constructor
  · intro empty
    rw [findIndexed_of_empty empty]
    rfl
  · intro nonempty
    have outcome := findIndexed_of reached ordered rows registered nonempty
    refine ⟨fun o one => ?_, fun several => ?_, fun none => ⟨fun o one => ?_, fun several => ?_,
      fun nowhere => ?_⟩⟩
    · rw [if_neg (by simp [one])] at outcome
      have decided : (Lookup.found o).Of _ := one
      rw [outcome.unique decided]
      rfl
    · rw [if_neg several.nonempty.ne_empty] at outcome
      have decided : Lookup.ambiguous.Of _ := several
      rw [outcome.unique decided]
      rfl
    · rw [if_pos none] at outcome
      have decided : (Lookup.found o).Of _ := one
      rw [outcome.unique decided]
      rfl
    · rw [if_pos none] at outcome
      have decided : Lookup.ambiguous.Of _ := several
      rw [outcome.unique decided]
      rfl
    · rw [if_pos none] at outcome
      have decided : Lookup.notFound.Of _ := nowhere
      rw [outcome.unique decided]
      rfl

/-- The films with the rows that are due. -/
def indexedFilms : Site Unit :=
  { films with index := films.rebuild.index }

/-- One title is the start of the other: it is found, but the start of both is not narrowed down. -/
theorem resolve_eq_scan_of_titles :
    (indexedFilms.exactMatches () "Mad Max!" = {film 1 "Mad Max"} ∧
      indexedFilms.resolve (some "m") "Mad Max!" = .ok (.found () (film 1 "Mad Max"))) ∧
    ((indexedFilms.exactMatches () "mad" = ∅ ∧ (indexedFilms.prefixMatches () "mad").Nontrivial) ∧
      indexedFilms.resolve (some "m") "mad" = .ok (.ambiguous ())) := by
  obtain ⟨-, well, rows⟩ := rebuild_ok reachable_films
  have titleKey : searchKey "Mad Max!" = "madmax" := by decide
  have startKey : searchKey "mad" = "mad" := by decide
  have firstKeys : filmType.searchKeys (film 1 "Mad Max") = ["madmax"] := by decide
  have secondKeys : filmType.searchKeys (film 2 "Mad Max 2") = ["madmax2"] := by decide
  have listed : ∀ o, o ∈ (indexedFilms.sources ()).all ↔
      o = film 1 "Mad Max" ∨ o = film 2 "Mad Max 2" := fun o => List.mem_pair
  have title : indexedFilms.exactMatches () "Mad Max!" = {film 1 "Mad Max"} := by
    ext o
    constructor
    · rintro ⟨mem, keyed⟩
      rcases (listed o).mp mem with rfl | rfl
      · rfl
      · rw [titleKey] at keyed
        exact absurd (secondKeys ▸ keyed) (by decide)
    · rintro rfl
      exact ⟨(listed _).mpr (Or.inl rfl), by rw [titleKey]; exact firstKeys ▸ by decide⟩
  have start : indexedFilms.exactMatches () "mad" = ∅ := by
    refine Set.eq_empty_of_forall_notMem ?_
    rintro o ⟨mem, keyed⟩
    rw [startKey] at keyed
    rcases (listed o).mp mem with rfl | rfl
    · exact absurd (firstKeys ▸ keyed) (by decide)
    · exact absurd (secondKeys ▸ keyed) (by decide)
  have several : (indexedFilms.prefixMatches () "mad").Nontrivial := by
    refine ⟨film 1 "Mad Max", ⟨(listed _).mpr (Or.inl rfl), "madmax", ?_, ?_⟩,
      film 2 "Mad Max 2", ⟨(listed _).mpr (Or.inr rfl), "madmax2", ?_, ?_⟩, ?_⟩
    · exact firstKeys ▸ by decide
    · rw [startKey]
      decide
    · exact secondKeys ▸ by decide
    · rw [startKey]
      decide
    · intro same
      exact absurd (congrArg Item.id same) (by decide)
  have scan := fun query => @resolve_eq_scan Unit _ indexedFilms () "m" query reachable_films
    (fun _ _ => rfl) well.keyAscending rows rfl
  refine ⟨⟨title, ((scan "Mad Max!").2 ?_).1 _ title⟩, ⟨start, several⟩,
    (((scan "mad").2 ?_).2.2 start).2.1 several⟩
  · rw [titleKey]
    decide
  · rw [startKey]
    decide

end Site

end Wikilink
