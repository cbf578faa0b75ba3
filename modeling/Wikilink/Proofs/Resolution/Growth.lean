/-
# Proofs.Resolution.Growth -- what a further registration leaves as it was

A registration that succeeds adds its shortcuts behind the others, and its link type
behind the others unless it is one of them (`linkTypes_of_register`).  So a hint that
was known, or still is not, leads where it led before.  An untyped query that was
decided is decided by the same link type; one that was not goes on to the link type
that came in, and stays with the first one if that does not decide it either
(`resolve_of_register`).
-/
import Wikilink.Proofs.Resolution.Untyped

namespace Wikilink

set_option autoImplicit false

/-! ## The registry -/

namespace Registry

variable {ι : Type} [DecidableEq ι] {types : ι → LinkType} {r r' : Registry ι}
  {shortcuts : List String} {i : ι}

theorem distinct_append (is js : List ι) :
    distinct (is ++ js) = distinct is ++ (distinct js).filter (· ∉ is) := by
  induction is with
  | nil => simp [distinct]
  | cons i is ih =>
      have both : ((distinct js).filter (· ∉ is)).filter (· ≠ i) =
          (distinct js).filter (· ∉ i :: is) := by
        rw [List.filter_filter]
        refine List.filter_congr fun j _ => ?_
        simp [Bool.decide_and]
      rw [List.cons_append, distinct, ih, List.filter_append, both, distinct, List.cons_append]

theorem distinct_replicate (n : Nat) (i : ι) : distinct (List.replicate (n + 1) i) = [i] := by
  induction n with
  | zero => rfl
  | succ n ih =>
      rw [List.replicate_succ, distinct, ih]
      simp

/-- **A registration adds its link type behind the others**, unless it is one of them. -/
theorem linkTypes_of_register (registered : r.register types shortcuts i = .ok r') :
    r'.linkTypes = r.linkTypes ++ if i ∈ r.linkTypes then [] else [i] := by
  obtain ⟨-, given, -, -, rfl⟩ := register_ok registered
  obtain ⟨s, rest, rfl⟩ := List.exists_cons_of_ne_nil given
  have entered : ((s :: rest).map fun s => (s, i)).map Prod.snd =
      List.replicate (rest.length + 1) i := by
    rw [List.map_map]
    exact List.map_const'
  have known : i ∈ r.bindings.map Prod.snd ↔ i ∈ r.linkTypes := mem_distinct.symm
  rw [linkTypes, List.map_append, entered, distinct_append, distinct_replicate]
  show r.linkTypes ++ _ = _
  by_cases old : i ∈ r.linkTypes
  · rw [if_pos old, List.filter_cons_of_neg (by simpa using known.mpr old), List.filter_nil]
  · rw [if_neg old, List.filter_cons_of_pos (by simpa using fun mem => old (known.mp mem)),
      List.filter_nil]

/-- A name that is not among the new shortcuts stands for what it stood for. -/
theorem find?_of_register (registered : r.register types shortcuts i = .ok r') {name : String}
    (other : name ∉ shortcuts) : r'.find? name = r.find? name := by
  obtain ⟨-, -, -, -, rfl⟩ := register_ok registered
  have absent : List.lookup name (shortcuts.map fun s => (s, i)) = none := by
    rw [List.lookup_eq_none_iff]
    intro b mem
    obtain ⟨s, inside, rfl⟩ := List.mem_map.mp mem
    have apart : name ≠ s := fun same => other (same ▸ inside)
    simpa using apart
  rw [find?, List.lookup_append, absent, Option.or_none, find?]

theorem first?_of_register (registered : r.register types shortcuts i = .ok r')
    (nonempty : r.bindings ≠ []) : r'.first? = r.first? := by
  obtain ⟨-, -, -, -, rfl⟩ := register_ok registered
  rw [first?, List.head?_append_of_ne_nil _ nonempty, first?]

end Registry

/-! ## Resolution -/

namespace Site

open Resolution (Decisive)

variable {ι : Type} {s t : Site ι} {i fallback : ι} {query : String}

/-- A search in one link type reads nothing of the registry. -/
theorem resolveIn_with_registry (r : Registry ι) :
    ({ s with registry := r } : Site ι).resolveIn i query = s.resolveIn i query :=
  resolveIn_congr rfl rfl rfl

/-- Nor does a search among link types. -/
theorem resolveAmong_with_registry (r : Registry ι) (is : List ι) :
    ({ s with registry := r } : Site ι).resolveAmong fallback query is =
      s.resolveAmong fallback query is := by
  induction is with
  | nil => rfl
  | cons j is ih =>
      rw [resolveAmong, resolveAmong, resolveIn_with_registry, ih]

/-- A search among link types is decided where one of them decides. -/
theorem decisive_resolveAmong_iff {is : List ι} :
    Decisive (s.resolveAmong fallback query is) ↔ ∃ j ∈ is, Decisive (s.resolveIn j query) := by
  induction is with
  | nil => simp [resolveAmong, Decisive]
  | cons j is ih =>
      by_cases decisive : Decisive (s.resolveIn j query)
      · simp [resolveAmong_of_decisive decisive, decisive]
      · have passed : ∀ k ∈ [j], ¬ Decisive (s.resolveIn k query) := by simpa using decisive
        rw [← List.singleton_append, resolveAmong_append passed, ih]
        simp [decisive]

/-- Link types behind a decided search take no part in it. -/
theorem resolveAmong_append_of_decisive {front back : List ι}
    (decided : Decisive (s.resolveAmong fallback query front)) :
    s.resolveAmong fallback query (front ++ back) = s.resolveAmong fallback query front := by
  induction front with
  | nil => exact decided.elim
  | cons j front ih =>
      by_cases decisive : Decisive (s.resolveIn j query)
      · rw [List.cons_append, resolveAmong_of_decisive decisive,
          resolveAmong_of_decisive decisive]
      · have passed : ∀ k ∈ [j], ¬ Decisive (s.resolveIn k query) := by simpa using decisive
        rw [← List.singleton_append, resolveAmong_append passed] at decided
        rw [← List.singleton_append, List.append_assoc, resolveAmong_append passed,
          resolveAmong_append passed, ih decided]

variable [DecidableEq ι] {shortcuts : List String}

/-- A registration that succeeds changes the registry, and nothing else. -/
theorem register_eq_ok_iff :
    s.register shortcuts i = .ok t ↔
      ∃ r, s.registry.register s.types shortcuts i = .ok r ∧ t = { s with registry := r } := by
  unfold register
  cases s.registry.register s.types shortcuts i with
  | error e => simp [bind, Except.bind]
  | ok r => simp [bind, Except.bind, pure, Except.pure, eq_comm]

/-- A hint that is not among the new shortcuts leads where it led. -/
theorem resolve_some_of_register (registered : s.register shortcuts i = .ok t)
    (nonempty : s.registry.bindings ≠ []) {hint : String} (other : hint ∉ shortcuts) :
    t.resolve (some hint) query = s.resolve (some hint) query := by
  obtain ⟨r, grown, rfl⟩ := register_eq_ok_iff.mp registered
  simp only [resolve, Registry.first?_of_register grown nonempty,
    Registry.find?_of_register grown other, resolveIn_with_registry]

/-- A new shortcut searches the link type that came in, as the site did before. -/
theorem resolve_new_of_register (reached : s.registry.Reachable s.types)
    (registered : s.register shortcuts i = .ok t) {shortcut : String}
    (mem : shortcut ∈ shortcuts) : t.resolve (some shortcut) query = s.resolveIn i query := by
  obtain ⟨r, grown, rfl⟩ := register_eq_ok_iff.mp registered
  have reachedT : r.Reachable s.types := reached.register grown
  obtain ⟨-, -, -, -, rfl⟩ := Registry.register_ok grown
  have bound : (shortcut, i) ∈ s.registry.bindings ++ shortcuts.map fun a => (a, i) :=
    List.mem_append_right _ (List.mem_map_of_mem mem)
  exact (resolve_of_bound reachedT bound).trans (resolveIn_with_registry _)

/-- An untyped query is tried in the link types that were there, then in the one that came in. -/
theorem resolve_none_of_register {first : ι} (head : s.registry.first? = some first)
    (nonempty : s.registry.bindings ≠ []) (registered : s.register shortcuts i = .ok t) :
    t.resolve none query = s.resolveAmong first query
      (s.registry.linkTypes ++ if i ∈ s.registry.linkTypes then [] else [i]) := by
  obtain ⟨r, grown, rfl⟩ := register_eq_ok_iff.mp registered
  have headT := (Registry.first?_of_register grown nonempty).trans head
  rw [resolve_none_eq headT, resolveAmong_with_registry, ← Registry.linkTypes_of_register grown]

/-- An untyped query that is not decided stays with the first link type. -/
theorem resolve_none_undecided_iff {first : ι} (head : s.registry.first? = some first) :
    ¬ Decisive (s.resolve none query) ↔ s.resolve none query = .ok (.unresolved first) := by
  refine ⟨fun undecided => ?_, fun unresolved => by simp [unresolved, Decisive]⟩
  refine resolve_none_of_undecided head fun j listed decisive => undecided ?_
  rw [resolve_none_eq head]
  exact decisive_resolveAmong_iff.mpr ⟨j, listed, decisive⟩

/-- **Further shortcuts change nothing that resolved.**  A hint that is not among them leads where
it led.  An untyped query leads where it led, unless it was unresolved; then it leads to what the
link type that came in answers, or stays unresolved where it was.  Nothing untyped changes where
that link type had a shortcut before. -/
theorem resolve_of_register (reached : s.registry.Reachable s.types)
    (nonempty : s.registry.bindings ≠ []) (registered : s.register shortcuts i = .ok t)
    (query : String) :
    (∀ hint, hint ∉ shortcuts → t.resolve (some hint) query = s.resolve (some hint) query) ∧
    ((∀ j, s.resolve none query ≠ .ok (.unresolved j)) →
      t.resolve none query = s.resolve none query) ∧
    (∀ j, s.resolve none query = .ok (.unresolved j) → ∀ a ∈ shortcuts,
      (Decisive (t.resolve (some a) query) →
        t.resolve none query = t.resolve (some a) query) ∧
      (¬ Decisive (t.resolve (some a) query) →
        t.resolve none query = .ok (.unresolved j))) ∧
    (i ∈ s.registry.linkTypes → t.resolve none query = s.resolve none query) := by
  obtain ⟨first, head⟩ : ∃ first, s.registry.first? = some first := by
    obtain ⟨b, mem⟩ := List.exists_mem_of_ne_nil _ nonempty
    exact Registry.first?_isSome_of_mem (Registry.mem_linkTypes.mpr ⟨b.1, mem⟩)
  have before : s.resolve none query = s.resolveAmong first query s.registry.linkTypes :=
    resolve_none_eq head
  have after : t.resolve none query = s.resolveAmong first query
      (s.registry.linkTypes ++ if i ∈ s.registry.linkTypes then [] else [i]) :=
    resolve_none_of_register head nonempty registered
  refine ⟨fun hint other => resolve_some_of_register registered nonempty other,
    fun resolved => ?decided, fun j unresolved a mem => ?undecided, fun old => ?known⟩
  case decided =>
    have decisive : Decisive (s.resolve none query) := by
      by_contra undecided
      exact resolved first ((resolve_none_undecided_iff head).mp undecided)
    rw [before] at decisive ⊢
    rw [after, resolveAmong_append_of_decisive decisive]
  case undecided =>
    have undecided : ¬ Decisive (s.resolveAmong first query s.registry.linkTypes) := by
      rw [← before, unresolved]
      exact id
    have passed : ∀ k ∈ s.registry.linkTypes, ¬ Decisive (s.resolveIn k query) :=
      fun k listed decisive => undecided (decisive_resolveAmong_iff.mpr ⟨k, listed, decisive⟩)
    rw [resolve_new_of_register reached registered mem, after, resolveAmong_append passed]
    obtain rfl : first = j := by
      have stays := (resolve_none_undecided_iff head).mp (before ▸ undecided)
      simpa [unresolved, eq_comm] using stays
    by_cases old : i ∈ s.registry.linkTypes
    · rw [if_pos old]
      exact ⟨fun decisive => absurd decisive (passed i old), fun _ => rfl⟩
    · rw [if_neg old]
      refine ⟨fun decisive => resolveAmong_of_decisive decisive, fun idle => ?_⟩
      have last : ∀ k ∈ [i], ¬ Decisive (s.resolveIn k query) := by simpa using idle
      rw [← List.append_nil [i], resolveAmong_append last]
      rfl
  case known => rw [after, if_pos old, List.append_nil, before]

/-- The shelves with the books alone. -/
def bookshelf : Site Bool :=
  { shelves with registry := ⟨[("b", false), ("book", false)]⟩ }

theorem reachable_bookshelf : bookshelf.registry.Reachable bookshelf.types :=
  .register .empty (rfl : Registry.register shelves.types {} ["b", "book"] false =
    .ok bookshelf.registry)

/-- The films come in behind the books and decide what the books left open. -/
theorem resolve_of_register_films :
    bookshelf.register ["m"] true = .ok shelves ∧ bookshelf.registry.bindings ≠ [] ∧
    shelves.resolve (some "book") "Mad Max" = bookshelf.resolve (some "book") "Mad Max" ∧
    bookshelf.resolve none "Mad Max" = .ok (.unresolved false) ∧
    shelves.resolve none "Mad Max" = shelves.resolve (some "m") "Mad Max" := by
  have registered : bookshelf.register ["m"] true = .ok shelves := rfl
  have nonempty : bookshelf.registry.bindings ≠ [] := List.cons_ne_nil _ _
  have undecided : bookshelf.resolve none "Mad Max" = .ok (.unresolved false) := rfl
  have decisive : Decisive (shelves.resolve (some "m") "Mad Max") := trivial
  obtain ⟨hinted, -, answered, -⟩ :=
    resolve_of_register reachable_bookshelf nonempty registered "Mad Max"
  exact ⟨registered, nonempty, hinted "book" (by decide), undecided,
    (answered false undecided "m" (by simp)).1 decisive⟩

end Site

end Wikilink
