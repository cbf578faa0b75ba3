/-
# Proofs.Index.Search -- scans find every key

Texts that start alike stand together: between a text and one that it starts, every
text starts with it (`starts_of_between`).  So the scan from the first row that a
lookup could want reads all of them and no others (`mem_idsAt`, `mem_idsFrom`),
each id once, and the outcome of a lookup depends only on how many ids there are
(`Lookup.Of`).
-/
import Mathlib.Data.Set.Subsingleton
import Wikilink.Index.Search
import Wikilink.Proofs.Index.Tables

namespace Wikilink

set_option autoImplicit false

/-! ## Outcomes -/

namespace Lookup

variable {α : Type}

/-- The outcome of a search for the one element of a set. -/
def Of (s : Set α) : Lookup α → Prop
  | notFound => s = ∅
  | found a => s = {a}
  | ambiguous => s.Nontrivial

/-- A set has one outcome. -/
theorem Of.unique {s : Set α} {outcome other : Lookup α} (first : outcome.Of s)
    (second : other.Of s) : outcome = other := by
  cases outcome <;> cases other <;> simp_all [Of]

end Lookup

/-! ## Texts that start alike -/

theorem prefix_of_between {start x y : List Char} (starts : start <+: y) (notBefore : ¬ x < start)
    (notAfter : ¬ y < x) : start <+: x := by
  induction start generalizing x y with
  | nil => exact List.nil_prefix
  | cons c start ih =>
      obtain ⟨rest, rfl⟩ := starts
      cases x with
      | nil => exact absurd (List.nil_lt_cons c start) notBefore
      | cons d x =>
          rw [List.cons_lt_cons_iff, not_or, not_and] at notBefore
          rw [List.cons_append, List.cons_lt_cons_iff, not_or, not_and] at notAfter
          have same : c = d := le_antisymm (not_lt.mp notBefore.1) (not_lt.mp notAfter.1)
          subst same
          exact List.cons_prefix_cons.mpr
            ⟨rfl, ih (List.prefix_append start rest) (notBefore.2 rfl) (notAfter.2 rfl)⟩

theorem starts_of_between {start x y : String} (starts : start.toList <+: y.toList)
    (notBefore : ¬ x < start) (notAfter : ¬ y < x) : start.toList <+: x.toList := by
  rw [String.lt_iff_toList_lt] at notBefore notAfter
  exact prefix_of_between starts notBefore notAfter

theorem not_lt_of_starts {start x : String} (starts : start.toList <+: x.toList) : ¬ x < start := by
  rw [String.lt_iff_toList_lt]
  obtain ⟨rest, eq⟩ := starts
  rw [← eq]
  induction start.toList with
  | nil => exact List.not_lt_nil _
  | cons c start ih =>
      rw [List.cons_append, List.cons_lt_cons_iff, not_or, not_and]
      exact ⟨lt_irrefl c, fun _ => ih⟩

theorem startsWith_iff {text start : String} :
    startsWith text start = true ↔ start.toList <+: text.toList :=
  List.isPrefixOf_iff_prefix

/-! ## Scans -/

namespace Index

variable {ix : Index} {key contentType : String}

/-- The rows of one key and content type follow one another. -/
theorem rowsAt_eq_filter (ordered : ix.byKey.Pairwise Row.Before) :
    (ix.byKey.dropWhile fun r => decide (r.Before ⟨key, contentType, 0⟩)).takeWhile
        (fun r => r.key = key ∧ r.owner.contentType = contentType) =
      ix.byKey.filter fun r => r.key = key ∧ r.owner.contentType = contentType := by
  refine Ascending.scan_eq_filter ordered ?_ ?_
  · intro r inside before
    obtain ⟨sameKey, sameType⟩ := of_decide_eq_true inside
    rcases before with before | ⟨-, before | ⟨-, before⟩⟩
    · exact lt_irrefl key (sameKey ▸ before)
    · exact lt_irrefl contentType (sameType ▸ before)
    · exact Nat.not_lt_zero _ before
  · intro r t notBefore before inside
    obtain ⟨sameKey, sameType⟩ := of_decide_eq_true inside
    simp only [Row.Before, Owner.Before, not_or, not_and, not_lt] at notBefore
    have key_eq : r.key = key := by
      rcases before with less | ⟨eq, -⟩
      · exact absurd (sameKey ▸ less) (not_lt.mpr notBefore.1)
      · exact eq.trans sameKey
    have type_eq : r.owner.contentType = contentType := by
      have above := (notBefore.2 key_eq).1
      rcases before with less | ⟨-, less | ⟨eq, -⟩⟩
      · rw [key_eq, sameKey] at less
        exact absurd less (lt_irrefl key)
      · exact absurd (sameType ▸ less) (not_lt.mpr above)
      · exact eq.trans sameType
    simp [key_eq, type_eq]

/-- The rows whose keys start alike follow one another. -/
theorem rowsFrom_eq_filter (ordered : ix.byKey.Pairwise Row.Before) :
    (ix.byKey.dropWhile fun r => decide (r.Before ⟨key, "", 0⟩)).takeWhile
        (fun r => startsWith r.key key) =
      ix.byKey.filter fun r => startsWith r.key key := by
  refine Ascending.scan_eq_filter ordered ?_ ?_
  · intro r inside before
    rcases before with before | ⟨-, before | ⟨-, before⟩⟩
    · exact not_lt_of_starts (startsWith_iff.mp inside) before
    · exact List.not_lt_nil _ (String.lt_iff_toList_lt.mp before)
    · exact Nat.not_lt_zero _ before
  · intro r t notBefore before inside
    have above : ¬ r.key < key := fun less => notBefore (Or.inl less)
    have below : ¬ t.key < r.key := by
      rcases before with less | ⟨eq, -⟩
      · exact lt_asymm less
      · exact eq ▸ lt_irrefl _
    exact startsWith_iff.mpr (starts_of_between (startsWith_iff.mp inside) above below)

/-- **The ids at a key are those of its rows.** -/
theorem mem_idsAt (ordered : ix.byKey.Pairwise Row.Before) {id : Nat} :
    id ∈ ix.idsAt key contentType ↔ (⟨key, contentType, id⟩ : Row) ∈ ix := by
  rw [idsAt, rowsAt_eq_filter ordered]
  simp only [List.mem_map, List.mem_filter, decide_eq_true_eq]
  constructor
  · rintro ⟨r, ⟨mem, rfl, rfl⟩, rfl⟩
    exact mem
  · intro mem
    exact ⟨_, ⟨mem, rfl, rfl⟩, rfl⟩

theorem nodup_idsAt (ordered : ix.byKey.Pairwise Row.Before) :
    (ix.idsAt key contentType).Nodup := by
  rw [idsAt, rowsAt_eq_filter ordered]
  refine List.Nodup.map_on ?_ ((Ascending.nodup ordered).filter _)
  rintro ⟨k, c, m⟩ inR ⟨l, d, n⟩ inT same
  have atR := (List.mem_filter.mp inR).2
  have atT := (List.mem_filter.mp inT).2
  simp_all

/-- **The ids from a key on are those of the rows whose keys start with it.** -/
theorem mem_idsFrom (ordered : ix.byKey.Pairwise Row.Before) {id : Nat} :
    id ∈ ix.idsFrom key contentType ↔
      ∃ k, key.toList <+: k.toList ∧ (⟨k, contentType, id⟩ : Row) ∈ ix := by
  rw [idsFrom, rowsFrom_eq_filter ordered, Ascending.mem_ofList]
  simp only [List.mem_map, List.mem_filter, decide_eq_true_eq, startsWith_iff]
  constructor
  · rintro ⟨r, ⟨⟨mem, starts⟩, rfl⟩, rfl⟩
    exact ⟨r.key, starts, mem⟩
  · rintro ⟨k, starts, mem⟩
    exact ⟨_, ⟨⟨mem, starts⟩, rfl⟩, rfl⟩

theorem nodup_idsFrom : (ix.idsFrom key contentType).Nodup :=
  Ascending.nodup (Ascending.ascending_ofList _)

/-! ## Lookups -/

/-- The search key of a search key is looked up as it is. -/
theorem lookup_of_searchKey {text : String} (nonempty : searchKey text ≠ "") :
    ix.lookup (searchKey text) contentType =
      .ofCandidates (ix.idsAt (searchKey text) contentType) := by
  simp only [lookup, searchKey_searchKey, if_neg nonempty]

theorem lookupPrefix_of_searchKey {text : String} (nonempty : searchKey text ≠ "") :
    ix.lookupPrefix (searchKey text) contentType =
      .ofCandidates (ix.idsFrom (searchKey text) contentType) := by
  simp only [lookupPrefix, searchKey_searchKey, if_neg nonempty]

end Index

end Wikilink
