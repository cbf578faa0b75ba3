/-
# Proofs.Maintenance.Tally -- what a rebuild tells

The tally of a rebuild counts keys as they are made, before they reach the index.
The rows that are due can be listed without repetition (`nodup_dueRows`), because a
source lists an id once and no two link types share a content type; so the keys that
were counted are the rows that the index holds (`tallyOf_entries`).  With that the
rebuild of a site is described in full (`rebuild_exact`): it succeeds, its rows and
its tally are what the objects in scope ask for, and the index before it is of no
consequence.
-/
import Mathlib.Algebra.GroupWithZero.Nat
import Mathlib.Data.List.Perm.Basic
import Wikilink.Index.Report
import Wikilink.Proofs.Maintenance.Rebuild

namespace Wikilink

set_option autoImplicit false

/-! ## Due rows, listed -/

namespace LinkType

/-- The rows of an object. -/
def rowsOf (t : LinkType) (o : Item) : List Row :=
  (t.searchKeys o).map fun key => ⟨key, t.ownerOf o⟩

variable {t : LinkType} {o p : Item}

theorem mem_rowsOf {r : Row} : r ∈ t.rowsOf o ↔ r.owner = t.ownerOf o ∧ r.key ∈ t.searchKeys o :=
  Index.mem_rowsUnder

theorem nodup_rowsOf (t : LinkType) (o : Item) : (t.rowsOf o).Nodup :=
  Index.nodup_rowsUnder _ (Index.nodup_storedKeys _)

theorem disjoint_rowsOf (apart : o.id ≠ p.id) : List.Disjoint (t.rowsOf o) (t.rowsOf p) := by
  intro r own other
  have same : t.ownerOf o = t.ownerOf p :=
    (mem_rowsOf.mp own).1.symm.trans (mem_rowsOf.mp other).1
  exact apart (congrArg Owner.id same)

/-- The rows of the objects in scope of one link type. -/
def rowsIn (t : LinkType) (source : Source) : List Row :=
  source.all.flatMap t.rowsOf

theorem nodup_rowsIn (t : LinkType) (source : Source) : (t.rowsIn source).Nodup := by
  refine List.nodup_flatMap.mpr ⟨fun o _ => t.nodup_rowsOf o, ?_⟩
  exact (List.pairwise_map.mp (Source.nodup_ids source)).imp fun apart => disjoint_rowsOf apart

theorem contentType_of_mem_rowsIn {source : Source} {r : Row} (mem : r ∈ t.rowsIn source) :
    r.owner.contentType = t.contentType := by
  obtain ⟨o, -, own⟩ := List.mem_flatMap.mp mem
  rw [(mem_rowsOf.mp own).1]
  rfl

theorem length_rowsIn (t : LinkType) (source : Source) :
    (t.rowsIn source).length = (source.all.flatMap t.searchKeys).length := by
  simp [rowsIn, rowsOf, List.length_flatMap]

end LinkType

namespace Site

variable {ι : Type} {s : Site ι}

/-- The rows that some link types ask for. -/
def dueRows (s : Site ι) (is : List ι) : List Row :=
  is.flatMap fun i => (s.types i).rowsIn (s.sources i)

theorem mem_dueRows {is : List ι} {r : Row} : r ∈ s.dueRows is ↔ s.DueOf is r := by
  simp only [dueRows, LinkType.rowsIn, List.mem_flatMap, LinkType.mem_rowsOf]
  rfl

theorem nodup_dueRows {is : List ι} (distinct : is.Nodup)
    (separate : ∀ i ∈ is, ∀ j ∈ is, (s.types i).contentType = (s.types j).contentType → i = j) :
    (s.dueRows is).Nodup := by
  refine List.nodup_flatMap.mpr ⟨fun i _ => LinkType.nodup_rowsIn _ _, ?_⟩
  refine distinct.imp_of_mem fun {i j} memI memJ apart => ?_
  intro r own other
  have types : (s.types i).contentType = (s.types j).contentType :=
    (LinkType.contentType_of_mem_rowsIn own).symm.trans (LinkType.contentType_of_mem_rowsIn other)
  exact apart (separate i memI j memJ types)

theorem length_dueRows (is : List ι) : (s.dueRows is).length = (s.tallyOf is).entries := by
  simp only [dueRows, tallyOf, List.length_flatMap, LinkType.length_rowsIn]

/-! ## Rebuilding -/

variable [DecidableEq ι]

/-- The keys that a rebuild counts are the rows that the index holds. -/
theorem tallyOf_entries (reached : s.registry.Reachable s.types) :
    (s.tallyOf s.registry.linkTypes).entries = s.rebuild.index.stats.entries := by
  obtain ⟨-, well, rows⟩ := rebuild_ok reached
  have same : s.rebuild.index.byKey.Perm (s.dueRows s.registry.linkTypes) := by
    refine (List.perm_ext_iff_of_nodup (Ascending.nodup well.keyAscending)
      (nodup_dueRows s.registry.nodup_linkTypes reached.separate)).mpr fun r => ?_
    rw [mem_dueRows]
    exact rows r
  rw [← length_dueRows, ← same.length_eq]
  rfl

/-- **A rebuild is exact.**  It never fails, its rows are the search keys of the objects in scope
of each link type, and so is its tally; and whatever the index was before, another one included
that a rebuild left, makes no difference. -/
theorem rebuild_exact (reached : s.registry.Reachable s.types) :
    s.rebuild.result = .ok {
        linkTypes := s.registry.linkTypes.length
        objects := (s.registry.linkTypes.map fun i => (s.sources i).all.length).sum
        entries := s.rebuild.index.stats.entries } ∧
      (∀ r, r ∈ s.rebuild.index ↔
        ∃ i ∈ s.registry.linkTypes, ∃ o ∈ (s.sources i).all, ∃ key ∈ (s.types i).searchKeys o,
          r = ⟨key, (s.types i).contentType, o.id⟩) ∧
      s.rebuild.index.WellFormed ∧
      ∀ ix, ({ s with index := ix } : Site ι).rebuild = s.rebuild := by
  obtain ⟨done, well, rows⟩ := rebuild_ok reached
  refine ⟨?_, fun r => ?_, well, fun ix => rfl⟩
  · rw [done, ← tallyOf_entries reached]
    simp only [tallyOf, List.length_flatMap]
  · rw [rows]
    constructor
    · rintro ⟨i, mem, o, listed, own, keyed⟩
      exact ⟨i, mem, o, listed, r.key, keyed, Row.eq_of_parts rfl own⟩
    · rintro ⟨i, mem, o, listed, key, keyed, rfl⟩
      exact ⟨i, mem, o, listed, rfl, keyed⟩

theorem rebuild_exact_films :
    films.registry.Reachable films.types ∧
      films.rebuild.result = .ok { linkTypes := 1, objects := 2, entries := 2 } := by
  refine ⟨reachable_films, (rebuild_exact reachable_films).1.trans ?_⟩
  decide

end Site

end Wikilink
