/-
# Proofs.Resolution.Untyped -- the first decisive link type decides

A query without a type hint leads to what it leads to under the shortcuts of the
first link type that decides it: one that finds an object, finds several, or fails.
Link types behind that one take no part.  Where none decides, the query stays
unresolved with the link type of the first shortcut (`resolve_untyped`).
-/
import Wikilink.Proofs.Maintenance.Rebuild
import Wikilink.Proofs.Registry.Runs
import Wikilink.Site.Resolution

namespace Wikilink

set_option autoImplicit false

/-- Whether the outcome in one link type ends an untyped search. -/
def Resolution.Decisive {ι : Type} : Except Error (Resolution ι) → Prop
  | .ok (.found _ _) | .ok (.ambiguous _) | .error _ => True
  | .ok (.unresolved _) | .ok .unknownType => False

namespace Site

open Resolution (Decisive)

variable {ι : Type} {s : Site ι} {i : ι} {query : String}

/-! ## One link type -/

/-- In one link type a query is decided, or unresolved there. -/
theorem resolveIn_eq_unresolved_iff :
    s.resolveIn i query = .ok (.unresolved i) ↔ ¬ Decisive (s.resolveIn i query) := by
  unfold resolveIn
  cases s.find i query with
  | error e => simp [Decisive, bind, Except.bind]
  | ok outcome => cases outcome <;> simp [Decisive, bind, Except.bind, pure, Except.pure]

/-- A search in one link type reads only that link type, its objects and the index. -/
theorem resolveIn_congr {t : Site ι} (index : t.index = s.index) (type : t.types i = s.types i)
    (source : t.sources i = s.sources i) : t.resolveIn i query = s.resolveIn i query := by
  simp only [resolveIn, find, findIndexed, index, type, source]

/-! ## Passing over link types -/

/-- Link types that do not decide are passed over. -/
theorem resolveAmong_append {fallback : ι} {front back : List ι}
    (passed : ∀ j ∈ front, ¬ Decisive (s.resolveIn j query)) :
    s.resolveAmong fallback query (front ++ back) = s.resolveAmong fallback query back := by
  induction front with
  | nil => rfl
  | cons j front ih =>
      rw [List.cons_append, resolveAmong,
        resolveIn_eq_unresolved_iff.mpr (passed j (by simp))]
      exact ih fun k mem => passed k (by simp [mem])

/-- One that decides gives the answer. -/
theorem resolveAmong_of_decisive {fallback : ι} {back : List ι}
    (decisive : Decisive (s.resolveIn i query)) :
    s.resolveAmong fallback query (i :: back) = s.resolveIn i query := by
  rw [resolveAmong]
  cases answer : s.resolveIn i query with
  | error e => rfl
  | ok outcome =>
      rw [answer] at decisive
      cases outcome with
      | found j o => rfl
      | ambiguous j => rfl
      | unresolved j => exact decisive.elim
      | unknownType => exact decisive.elim

/-! ## Shortcuts -/

variable [DecidableEq ι]

/-- A shortcut searches the link type that it is bound to. -/
theorem resolve_of_bound (reached : s.registry.Reachable s.types) {shortcut : String}
    (bound : (shortcut, i) ∈ s.registry.bindings) :
    s.resolve (some shortcut) query = s.resolveIn i query := by
  obtain ⟨first, head⟩ :=
    Registry.first?_isSome_of_mem (Registry.mem_linkTypes.mpr ⟨shortcut, bound⟩)
  have found := (reached.consistent.found shortcut i).mpr bound
  simp only [resolve, head, found]

/-- An untyped query is tried in all link types, and stays with the first where none decides. -/
theorem resolve_none_eq {first : ι} (head : s.registry.first? = some first) :
    s.resolve none query = s.resolveAmong first query s.registry.linkTypes := by
  simp only [resolve, head]

/-- The first link type that decides gives the answer to an untyped query. -/
theorem resolve_none_of_decisive {front back : List ι}
    (order : s.registry.linkTypes = front ++ i :: back)
    (passed : ∀ j ∈ front, ¬ Decisive (s.resolveIn j query))
    (decisive : Decisive (s.resolveIn i query)) :
    s.resolve none query = s.resolveIn i query := by
  obtain ⟨first, head⟩ := Registry.first?_isSome_of_mem
    (show i ∈ s.registry.linkTypes by simp [order])
  rw [resolve_none_eq head, order, resolveAmong_append passed, resolveAmong_of_decisive decisive]

/-- Where no link type decides, an untyped query is unresolved in the first one. -/
theorem resolve_none_of_undecided {first : ι} (head : s.registry.first? = some first)
    (passed : ∀ j ∈ s.registry.linkTypes, ¬ Decisive (s.resolveIn j query)) :
    s.resolve none query = .ok (.unresolved first) := by
  rw [resolve_none_eq head, ← List.append_nil s.registry.linkTypes, resolveAmong_append passed]
  rfl

/-- **An untyped query leads to what the first decisive link type leads to.** -/
theorem resolve_untyped (reached : s.registry.Reachable s.types)
    (nonempty : s.registry.bindings ≠ []) (query : String) :
    (∀ i a b, (a, i) ∈ s.registry.bindings → (b, i) ∈ s.registry.bindings →
      s.resolve (some a) query = s.resolve (some b) query) ∧
    (∀ front i back a, s.registry.linkTypes = front ++ i :: back →
      (a, i) ∈ s.registry.bindings → Decisive (s.resolve (some a) query) →
      (∀ j ∈ front, ∀ b, (b, j) ∈ s.registry.bindings →
        ¬ Decisive (s.resolve (some b) query)) →
      s.resolve none query = s.resolve (some a) query ∧
      ∀ t : Site ι, t.registry = s.registry → t.index = s.index →
        (∀ j ∈ front ++ [i], t.types j = s.types j ∧ t.sources j = s.sources j) →
        t.resolve none query = s.resolve none query) ∧
    ∃ first, s.registry.linkTypes.head? = some first ∧
      ((∀ i b, (b, i) ∈ s.registry.bindings →
        s.resolve (some b) query = .ok (.unresolved i)) →
      s.resolve none query = .ok (.unresolved first)) := by
  -- What is said of the shortcuts of a link type is said of the search in it.
  have typed {j : ι} (listed : j ∈ s.registry.linkTypes)
      (passed : ∀ b, (b, j) ∈ s.registry.bindings → ¬ Decisive (s.resolve (some b) query)) :
      ¬ Decisive (s.resolveIn j query) := by
    obtain ⟨b, bound⟩ := Registry.mem_linkTypes.mp listed
    exact resolve_of_bound reached bound ▸ passed b bound
  obtain ⟨first, head⟩ : ∃ first, s.registry.first? = some first := by
    obtain ⟨b, mem⟩ := List.exists_mem_of_ne_nil _ nonempty
    exact Registry.first?_isSome_of_mem (Registry.mem_linkTypes.mpr ⟨b.1, mem⟩)
  refine ⟨fun i a b boundA boundB => ?_, fun front i back a order bound decisive passed => ?_,
    first, reached.consistent.first ▸ head, fun undecided => ?_⟩
  · rw [resolve_of_bound reached boundA, resolve_of_bound reached boundB]
  · rw [resolve_of_bound reached bound] at decisive ⊢
    have before : ∀ j ∈ front, ¬ Decisive (s.resolveIn j query) := fun j mem =>
      typed (by simp [order, mem]) (passed j mem)
    have answer := resolve_none_of_decisive order before decisive
    refine ⟨answer, fun t registry index alike => ?_⟩
    have same {j : ι} (mem : j ∈ front ++ [i]) : t.resolveIn j query = s.resolveIn j query :=
      resolveIn_congr index (alike j mem).1 (alike j mem).2
    have last : t.resolveIn i query = s.resolveIn i query := same (by simp)
    have beforeT : ∀ j ∈ front, ¬ Decisive (t.resolveIn j query) := by
      intro j mem
      rw [same (by simp [mem])]
      exact before j mem
    rw [answer, resolve_none_of_decisive (registry ▸ order) beforeT (last ▸ decisive), last]
  · refine resolve_none_of_undecided head fun j listed => typed listed fun b bound => ?_
    rw [undecided j b bound]
    exact id

/-- Two link types: one that never finds an object, under two shortcuts, and one that always finds
several. -/
def shelves : Site Bool where
  types several := { filmType with
    schema := ⟨if several then "movie" else "book", [("title", .field)]⟩
    finder := .custom fun _ _ => .ok (if several then .ambiguous else .notFound) }
  sources _ := {}
  registry := ⟨[("b", false), ("book", false), ("m", true)]⟩
  index := .empty
  render := Template.html

theorem reachable_shelves : shelves.registry.Reachable shelves.types :=
  .register
    (.register .empty (rfl : Registry.register shelves.types {} ["b", "book"] false =
      .ok ⟨[("b", false), ("book", false)]⟩))
    (rfl : Registry.register shelves.types ⟨[("b", false), ("book", false)]⟩ ["m"] true =
      .ok shelves.registry)

/-- The first link type is passed over, and the second decides. -/
theorem resolve_untyped_shelves :
    shelves.registry.bindings ≠ [] ∧
    shelves.resolve (some "b") "Mad Max" = shelves.resolve (some "book") "Mad Max" ∧
    shelves.resolve none "Mad Max" = shelves.resolve (some "m") "Mad Max" ∧
    shelves.resolve none "Mad Max" = .ok (.ambiguous true) := by
  have nonempty : shelves.registry.bindings ≠ [] := List.cons_ne_nil _ _
  obtain ⟨alike, decided, -⟩ := resolve_untyped reachable_shelves nonempty "Mad Max"
  have first : ("b", false) ∈ shelves.registry.bindings := List.mem_cons_self
  have second : ("book", false) ∈ shelves.registry.bindings :=
    List.mem_cons_of_mem _ List.mem_cons_self
  have third : ("m", true) ∈ shelves.registry.bindings := by simp [shelves]
  have passed : ∀ j ∈ [false], ∀ b, (b, j) ∈ shelves.registry.bindings →
      ¬ Decisive (shelves.resolve (some b) "Mad Max") := by
    intro j mem b bound
    obtain rfl := List.mem_singleton.mp mem
    rw [resolve_of_bound reachable_shelves bound]
    exact id
  have answer : shelves.resolve (some "m") "Mad Max" = .ok (.ambiguous true) := rfl
  have untyped := (decided [false] true [] "m" rfl third (answer ▸ trivial) passed).1
  exact ⟨nonempty, alike false "b" "book" first second, untyped, untyped.trans answer⟩

end Site

end Wikilink
