/-
# Proofs.Maintenance.Rebuild -- what a rebuild writes

A row is *due* if its key is a search key of an object in scope of a registered link
type.  A rebuild of a site whose registry is reachable succeeds, leaves a well-formed
index, and writes exactly the rows that are due (`rebuild_ok`).  Its insertions do
not clash: a source lists an id once, and no two link types share a content type.
-/
import Wikilink.Proofs.Maintenance.Event
import Wikilink.Proofs.Source

namespace Wikilink

set_option autoImplicit false

/-! ## Objects -/

namespace Build

variable {t : LinkType} {source : Source} {ix : Index}

theorem addItem_of_bare {n : Tally} {o : Item} (well : ix.WellFormed)
    (current : source.indexable? o.id = some o) (bare : ix.Bare (t.ownerOf o)) :
    ∃ jx, addItem t source ⟨ix, .ok n⟩ o =
        ⟨jx, .ok { n with objects := n.objects + 1
                          entries := n.entries + (t.searchKeys o).length }⟩ ∧
      jx.WellFormed ∧ Index.Reassigned (t.ownerOf o) (t.searchKeys o) ix jx := by
  obtain ⟨jx, written, wellJ, given⟩ := Index.afterEvent_ok .created well (fun _ => bare)
  rw [current] at written given
  refine ⟨jx, ?_, wellJ, given⟩
  simp only [addItem, written]
  rfl

/-- Objects of one link type that have no rows yet are given their keys. -/
theorem foldl_addItem_ok {os : List Item} {n : Tally} (well : ix.WellFormed)
    (ids : (os.map Item.id).Nodup) (current : ∀ o ∈ os, source.indexable? o.id = some o)
    (bare : ∀ o ∈ os, ix.Bare (t.ownerOf o)) :
    ∃ jx, os.foldl (addItem t source) ⟨ix, .ok n⟩ =
        ⟨jx, .ok { n with
          objects := n.objects + os.length
          entries := n.entries + (os.flatMap t.searchKeys).length }⟩ ∧
      jx.WellFormed ∧
      ∀ r, r ∈ jx ↔ (∃ o ∈ os, r.owner = t.ownerOf o ∧ r.key ∈ t.searchKeys o) ∨ r ∈ ix := by
  induction os generalizing ix n with
  | nil => exact ⟨ix, rfl, well, by simp⟩
  | cons o os ih =>
      obtain ⟨first, rest⟩ := List.nodup_cons.mp ids
      have own := bare o (by simp)
      obtain ⟨jx, added, wellJ, given⟩ := addItem_of_bare (n := n) well (current o (by simp)) own
      have apart : ∀ p ∈ os, t.ownerOf p ≠ t.ownerOf o := by
        intro p mem same
        have id : p.id = o.id := congrArg Owner.id same
        exact first (id ▸ List.mem_map_of_mem mem)
      have bareJ : ∀ p ∈ os, jx.Bare (t.ownerOf p) := by
        intro p mem r old same
        rw [given.other (same ▸ apart p mem)] at old
        exact bare p (by simp [mem]) r old same
      obtain ⟨kx, others, wellK, memK⟩ :=
        ih wellJ rest (fun p mem => current p (by simp [mem])) bareJ
      refine ⟨kx, ?_, wellK, ?_⟩
      · rw [List.foldl_cons, added, others]
        simp only [List.length_cons, List.flatMap_cons, List.length_append]
        congr 3 <;> omega
      · intro r
        rw [memK, given r]
        constructor
        · rintro (⟨p, mem, row⟩ | row | ⟨old, -⟩)
          · exact Or.inl ⟨p, by simp [mem], row⟩
          · exact Or.inl ⟨o, by simp, row⟩
          · exact Or.inr old
        · rintro (⟨p, mem, row⟩ | old)
          · rcases List.mem_cons.mp mem with rfl | mem
            · exact Or.inr (Or.inl row)
            · exact Or.inl ⟨p, mem, row⟩
          · exact Or.inr (Or.inr ⟨old, own r old⟩)

/-- A link type without rows is given the keys of its objects in scope. -/
theorem addType_ok (source : Source) (n : Tally) (well : ix.WellFormed)
    (bare : ∀ r ∈ ix, r.owner.contentType ≠ t.contentType) :
    ∃ jx, addType ⟨ix, .ok n⟩ t source =
        ⟨jx, .ok {
          linkTypes := n.linkTypes + 1
          objects := n.objects + source.all.length
          entries := n.entries + (source.all.flatMap t.searchKeys).length }⟩ ∧
      jx.WellFormed ∧
      ∀ r, r ∈ jx ↔
        (∃ o ∈ source.all, r.owner = t.ownerOf o ∧ r.key ∈ t.searchKeys o) ∨ r ∈ ix := by
  obtain ⟨jx, added, wellJ, memJ⟩ := foldl_addItem_ok (n := n) well (Source.nodup_ids source)
    (fun o mem => Source.indexable?_of_mem_all mem)
    (fun o _ r mem same => bare r mem (congrArg Owner.contentType same))
  refine ⟨jx, ?_, wellJ, memJ⟩
  simp only [addType, added]
  rfl

end Build

/-! ## Link types -/

namespace Site

variable {ι : Type} {s : Site ι}

/-- A row that one of the link types asks for: an object in scope under one of its search keys. -/
def DueOf (s : Site ι) (is : List ι) (r : Row) : Prop :=
  ∃ i ∈ is, ∃ o ∈ (s.sources i).all,
    r.owner = (s.types i).ownerOf o ∧ r.key ∈ (s.types i).searchKeys o

/-- What a rebuild of some link types has covered. -/
def tallyOf (s : Site ι) (is : List ι) : Tally where
  linkTypes := is.length
  objects := (is.flatMap fun i => (s.sources i).all).length
  entries := (is.flatMap fun i => (s.sources i).all.flatMap (s.types i).searchKeys).length

theorem foldl_addType_ok {is : List ι} {ix : Index} {n : Tally} (well : ix.WellFormed)
    (distinct : is.Nodup)
    (separate : ∀ i ∈ is, ∀ j ∈ is, (s.types i).contentType = (s.types j).contentType → i = j)
    (bare : ∀ i ∈ is, ∀ r ∈ ix, r.owner.contentType ≠ (s.types i).contentType) :
    ∃ jx, is.foldl (fun b i => Build.addType b (s.types i) (s.sources i)) ⟨ix, .ok n⟩ =
        ⟨jx, .ok {
          linkTypes := n.linkTypes + (s.tallyOf is).linkTypes
          objects := n.objects + (s.tallyOf is).objects
          entries := n.entries + (s.tallyOf is).entries }⟩ ∧
      jx.WellFormed ∧ ∀ r, r ∈ jx ↔ s.DueOf is r ∨ r ∈ ix := by
  induction is generalizing ix n with
  | nil => exact ⟨ix, rfl, well, by simp [DueOf]⟩
  | cons i is ih =>
      obtain ⟨first, rest⟩ := List.nodup_cons.mp distinct
      obtain ⟨jx, added, wellJ, memJ⟩ :=
        Build.addType_ok (s.sources i) n well (bare i (by simp))
      have bareJ : ∀ j ∈ is, ∀ r ∈ jx, r.owner.contentType ≠ (s.types j).contentType := by
        intro j mem r old same
        rcases (memJ r).mp old with ⟨o, -, own, -⟩ | old
        · have types : (s.types i).contentType = (s.types j).contentType := by
            rw [← same, own]
            rfl
          exact first (separate i (by simp) j (by simp [mem]) types ▸ mem)
        · exact bare j (by simp [mem]) r old same
      obtain ⟨kx, others, wellK, memK⟩ := ih wellJ rest
        (fun j memJ k memK => separate j (by simp [memJ]) k (by simp [memK])) bareJ
      refine ⟨kx, ?_, wellK, ?_⟩
      · rw [List.foldl_cons, added, others]
        simp only [tallyOf, List.length_cons, List.flatMap_cons, List.length_append]
        congr 3 <;> omega
      · intro r
        rw [memK, memJ]
        constructor
        · rintro (⟨j, mem, row⟩ | row | old)
          · exact Or.inl ⟨j, by simp [mem], row⟩
          · exact Or.inl ⟨i, by simp, row⟩
          · exact Or.inr old
        · rintro (⟨j, mem, row⟩ | old)
          · rcases List.mem_cons.mp mem with rfl | mem
            · exact Or.inr (Or.inl row)
            · exact Or.inl ⟨j, mem, row⟩
          · exact Or.inr (Or.inr old)

variable [DecidableEq ι]

/-- A row that the site's index is to hold. -/
def RowDue (s : Site ι) (r : Row) : Prop :=
  s.DueOf s.registry.linkTypes r

/-- The rows that are due to an id of a registered link type. -/
theorem rowDue_iff (reached : s.registry.Reachable s.types) {i : ι} {id : Nat} {key : String}
    (registered : i ∈ s.registry.linkTypes) :
    s.RowDue ⟨key, ⟨(s.types i).contentType, id⟩⟩ ↔
      ∃ o ∈ (s.sources i).all, o.id = id ∧ key ∈ (s.types i).searchKeys o := by
  constructor
  · rintro ⟨j, mem, o, listed, owner, keyed⟩
    have type : (s.types j).contentType = (s.types i).contentType :=
      (congrArg Owner.contentType owner).symm
    obtain rfl := reached.separate j mem i registered type
    exact ⟨o, listed, (congrArg Owner.id owner).symm, keyed⟩
  · rintro ⟨o, listed, rfl, keyed⟩
    exact ⟨i, registered, o, listed, rfl, keyed⟩

/-- The same, where only objects in scope are found for indexing. -/
theorem rowDue_iff_indexable (reached : s.registry.Reachable s.types) {i : ι} {id : Nat}
    {key : String} (registered : i ∈ s.registry.linkTypes)
    (scopeOnly : (s.sources i).indexesScopeOnly = true) :
    s.RowDue ⟨key, ⟨(s.types i).contentType, id⟩⟩ ↔
      ∃ o, (s.sources i).indexable? id = some o ∧ key ∈ (s.types i).searchKeys o := by
  rw [rowDue_iff reached registered]
  simp only [Source.indexable?_eq_some_iff scopeOnly, and_assoc]

/-- **A rebuild succeeds and writes exactly the rows that are due**, whatever was there. -/
theorem rebuild_ok (reached : s.registry.Reachable s.types) :
    s.rebuild.result = .ok (s.tallyOf s.registry.linkTypes) ∧ s.rebuild.index.WellFormed ∧
      ∀ r, r ∈ s.rebuild.index ↔ s.RowDue r := by
  obtain ⟨jx, built, well, mem⟩ := foldl_addType_ok (s := s) (n := {}) Index.wellFormed_empty
    s.registry.nodup_linkTypes reached.separate (fun _ _ r old => (Index.not_mem_empty r old).elim)
  have whole : s.rebuild = ⟨jx, .ok (s.tallyOf s.registry.linkTypes)⟩ := by
    rw [rebuild, built]
    simp only [Nat.zero_add]
  rw [whole]
  refine ⟨rfl, well, fun r => ?_⟩
  rw [mem]
  simp [RowDue]

end Site

/-! ## A small site -/

/-- A link type of films, found by their titles. -/
def filmType : LinkType where
  schema := ⟨"movie", [("title", .field)]⟩
  searched := [.single "title"]

/-- A film. -/
def film (id : Nat) (title : String) : Item where
  id := id
  display := title
  fields := [("title", .text title)]
  embed := Item.noEmbeds

/-- A site of two films. -/
def films : Site Unit where
  types := fun _ => filmType
  sources := fun _ => (({} : Source).insert (film 1 "Mad Max")).insert (film 2 "Mad Max 2")
  registry := ⟨[("m", ())]⟩
  index := .empty
  render := Template.html

theorem reachable_films : films.registry.Reachable films.types :=
  .register .empty (rfl : Registry.register films.types {} ["m"] () = .ok films.registry)

example : films.rebuild.index.byKey = [⟨"madmax", "movie", 1⟩, ⟨"madmax2", "movie", 2⟩] := by
  decide

end Wikilink
