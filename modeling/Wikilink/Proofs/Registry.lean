/-
# Proofs.Registry -- what every registry keeps to

A registry is *reachable* if it comes from the empty one by registrations that
succeeded.  Its link types are the ones that some shortcut stands for
(`mem_linkTypes`), each listed once.  Two of them never share a content type
(`Reachable.separate`), so the content type of an event or of a row names one link
type (`forContentType?_of_mem`).
-/
import Mathlib.Data.List.Basic
import Wikilink.Registry

namespace Wikilink.Registry

set_option autoImplicit false

variable {ι : Type} [DecidableEq ι] {types : ι → LinkType}

/-- The registries that registrations lead to. -/
inductive Reachable (types : ι → LinkType) : Registry ι → Prop where
  | empty : Reachable types {}
  | register {r r' : Registry ι} {shortcuts : List String} {i : ι} (reached : Reachable types r)
      (registered : r.register types shortcuts i = .ok r') : Reachable types r'

/-! ## Link types -/

theorem mem_distinct {i : ι} {is : List ι} : i ∈ distinct is ↔ i ∈ is := by
  induction is with
  | nil => rfl
  | cons j is ih =>
      simp only [distinct, List.mem_cons, List.mem_filter, ih, decide_eq_true_eq]
      tauto

theorem nodup_distinct (is : List ι) : (distinct is).Nodup := by
  induction is with
  | nil => exact List.nodup_nil
  | cons i is ih =>
      refine List.nodup_cons.mpr ⟨?_, ih.filter _⟩
      simp

theorem nodup_linkTypes (r : Registry ι) : r.linkTypes.Nodup :=
  nodup_distinct _

theorem mem_linkTypes {r : Registry ι} {i : ι} :
    i ∈ r.linkTypes ↔ ∃ shortcut, (shortcut, i) ∈ r.bindings := by
  simp [linkTypes, mem_distinct]

theorem mem_linkTypes_of_find? {r : Registry ι} {shortcut : String} {i : ι}
    (bound : r.find? shortcut = some i) : i ∈ r.linkTypes := by
  refine mem_linkTypes.mpr ⟨shortcut, ?_⟩
  obtain ⟨front, back, bindings, -⟩ := List.lookup_eq_some_iff.mp bound
  simp [bindings]

theorem first?_isSome_of_mem {r : Registry ι} {i : ι} (mem : i ∈ r.linkTypes) :
    ∃ first, r.first? = some first := by
  obtain ⟨shortcut, bound⟩ := mem_linkTypes.mp mem
  cases bindings : r.bindings with
  | nil => simp [bindings] at bound
  | cons b rest => exact ⟨b.2, by simp [first?, bindings]⟩

/-! ## Registering -/

/-- What a registration that succeeds has checked, and what it binds. -/
theorem register_ok {r r' : Registry ι} {shortcuts : List String} {i : ι}
    (registered : r.register types shortcuts i = .ok r') :
    (types i).validate = .ok () ∧ shortcuts ≠ [] ∧
      checkShortcuts r.shortcuts shortcuts = .ok () ∧ r.checkContentType types i = .ok () ∧
        r' = ⟨r.bindings ++ shortcuts.map fun shortcut => (shortcut, i)⟩ := by
  unfold register at registered
  cases valid : (types i).validate with
  | error e => rw [valid] at registered; cases registered
  | ok _ =>
      rw [valid] at registered
      cases shortcuts with
      | nil => cases registered
      | cons shortcut rest =>
          cases names : checkShortcuts r.shortcuts (shortcut :: rest) with
          | error e =>
              simp only [names] at registered
              cases registered
          | ok _ =>
              cases owned : r.checkContentType types i with
              | error e =>
                  simp only [names, owned] at registered
                  cases registered
              | ok _ =>
                  simp only [names, owned] at registered
                  cases registered
                  exact ⟨rfl, by simp, rfl, rfl, rfl⟩

/-- No two link types have one content type. -/
def Separate (types : ι → LinkType) (r : Registry ι) : Prop :=
  ∀ i ∈ r.linkTypes, ∀ j ∈ r.linkTypes, (types i).contentType = (types j).contentType → i = j

theorem forContentType?_of_mem {r : Registry ι} {i : ι} (separate : r.Separate types)
    (mem : i ∈ r.linkTypes) : r.forContentType? types (types i).contentType = some i := by
  cases found : r.forContentType? types (types i).contentType with
  | none =>
      have other := List.find?_eq_none.mp found i mem
      simp at other
  | some j =>
      have same : (types j).contentType = (types i).contentType := by
        simpa using List.find?_some found
      rw [separate j (List.mem_of_find?_eq_some found) i mem same]

/-- A link type that passes the check has a content type of its own. -/
theorem eq_of_checkContentType {r : Registry ι} {i j : ι}
    (separate : r.Separate types) (passed : r.checkContentType types i = .ok ())
    (mem : j ∈ r.linkTypes) (same : (types j).contentType = (types i).contentType) : j = i := by
  have found := forContentType?_of_mem separate mem
  rw [same] at found
  simp only [checkContentType, found] at passed
  split at passed
  · assumption
  · cases passed

/-- **In every reachable registry a content type has one link type.** -/
theorem Reachable.separate {r : Registry ι} (reached : Reachable types r) : r.Separate types := by
  induction reached with
  | empty => intro i mem; simp [linkTypes, distinct] at mem
  | @register r r' shortcuts i reached registered ih =>
      obtain ⟨-, -, -, passed, rfl⟩ := register_ok registered
      have split : ∀ j ∈ (⟨r.bindings ++ shortcuts.map fun s => (s, i)⟩ : Registry ι).linkTypes,
          j ∈ r.linkTypes ∨ j = i := by
        intro j mem
        obtain ⟨shortcut, bound⟩ := mem_linkTypes.mp mem
        rcases List.mem_append.mp bound with old | new
        · exact Or.inl (mem_linkTypes.mpr ⟨shortcut, old⟩)
        · obtain ⟨s, -, same⟩ := List.mem_map.mp new
          cases same
          exact Or.inr rfl
      intro j memJ k memK same
      rcases split j memJ with oldJ | rfl <;> rcases split k memK with oldK | rfl
      · exact ih j oldJ k oldK same
      · exact eq_of_checkContentType ih passed oldJ same
      · exact (eq_of_checkContentType ih passed oldK same.symm).symm
      · rfl

end Wikilink.Registry
