/-
# Proofs.Registry.Runs -- what any run of registrations keeps

Registrations follow one another, and some of them fail.  Whatever the run, the
registry that it leaves is *consistent*: its shortcuts are distinct words, its link
types are sound and have content types of their own, and they are listed in the
order of their first shortcuts (`Reachable.consistent`).

A directory keeps the same facts in two tables, the shortcuts and the link types
that hear of a content type, and writes them entry by entry.  After every run the
two tables say what the registry says (`mirrors_afterAll`), so a call that fails
leaves both as they were, and one that succeeds adds exactly its shortcuts
(`consistent_afterAll`).
-/
import Mathlib.Data.List.Find
import Mathlib.Data.List.Nodup
import Wikilink.Proofs.Registry

namespace Wikilink

set_option autoImplicit false

namespace Registry

variable {ι : Type} [DecidableEq ι] {types : ι → LinkType}

/-! ## Runs -/

/-- A registration that is asked for. -/
structure Call (ι : Type) where
  shortcuts : List String
  linkType : ι

/-- The registry after a call, which may fail. -/
def after (types : ι → LinkType) (r : Registry ι) (call : Call ι) : Registry ι :=
  (r.register types call.shortcuts call.linkType).toOption.getD r

/-- The registry after a run of calls on an empty one. -/
def afterAll (types : ι → LinkType) (calls : List (Call ι)) : Registry ι :=
  calls.foldl (after types) {}

theorem reachable_after {r : Registry ι} (reached : Reachable types r) (call : Call ι) :
    Reachable types (r.after types call) := by
  unfold after
  cases registered : r.register types call.shortcuts call.linkType with
  | error e => exact reached
  | ok r' => exact .register reached registered

theorem reachable_foldl_after {r : Registry ι} (reached : Reachable types r)
    (calls : List (Call ι)) : Reachable types (calls.foldl (after types) r) := by
  induction calls generalizing r with
  | nil => exact reached
  | cons call calls ih => exact ih (reachable_after reached call)

theorem reachable_afterAll (calls : List (Call ι)) : Reachable types (afterAll types calls) :=
  reachable_foldl_after .empty calls

/-! ## Shortcuts -/

/-- Shortcuts pass if they are distinct words that are not taken. -/
theorem checkShortcuts_eq_ok_iff {taken shortcuts : List String} :
    checkShortcuts taken shortcuts = .ok () ↔
      (∀ s ∈ shortcuts, Text.isWordRun s.toList = true) ∧ shortcuts.Nodup ∧
        ∀ s ∈ shortcuts, s ∉ taken := by
  induction shortcuts generalizing taken with
  | nil => simp [checkShortcuts]
  | cons s rest ih =>
      rw [checkShortcuts]
      by_cases word : Text.isWordRun s.toList = true
      · by_cases old : s ∈ taken
        · simp [word, old]
        · simp only [word, old, Bool.not_true, Bool.false_eq_true, if_false, ih, List.mem_cons,
            List.nodup_cons, not_or]
          constructor
          · rintro ⟨words, distinct, fresh⟩
            refine ⟨?_, ⟨fun mem => (fresh s mem).1 rfl, distinct⟩, ?_⟩
            · rintro t (rfl | mem)
              · exact word
              · exact words t mem
            · rintro t (rfl | mem)
              · exact old
              · exact (fresh t mem).2
          · rintro ⟨words, ⟨first, distinct⟩, fresh⟩
            refine ⟨fun t mem => words t (Or.inr mem), distinct,
              fun t mem => ⟨?_, fresh t (Or.inr mem)⟩⟩
            rintro rfl
            exact first mem
      · simp [word]

omit [DecidableEq ι] in
theorem shortcuts_append (r : Registry ι) (shortcuts : List String) (i : ι) :
    (⟨r.bindings ++ shortcuts.map fun s => (s, i)⟩ : Registry ι).shortcuts =
      r.shortcuts ++ shortcuts := by
  simp [Registry.shortcuts, Function.comp_def]

theorem mem_linkTypes_append {r : Registry ι} {shortcuts : List String} {i j : ι}
    (given : shortcuts ≠ []) :
    j ∈ (⟨r.bindings ++ shortcuts.map fun s => (s, i)⟩ : Registry ι).linkTypes ↔
      j ∈ r.linkTypes ∨ j = i := by
  simp only [mem_linkTypes, List.mem_append, List.mem_map, Prod.mk.injEq, exists_or]
  refine or_congr_right ⟨?_, ?_⟩
  · rintro ⟨_, _, -, -, rfl⟩
    rfl
  · rintro rfl
    obtain ⟨s, mem⟩ := List.exists_mem_of_ne_nil shortcuts given
    exact ⟨s, s, mem, rfl, rfl⟩

/-- The shortcuts of a reachable registry are distinct words. -/
theorem Reachable.words {r : Registry ι} (reached : Reachable types r) :
    r.shortcuts.Nodup ∧ ∀ s ∈ r.shortcuts, Text.isWordRun s.toList = true := by
  induction reached with
  | empty => exact ⟨List.nodup_nil, by simp [shortcuts]⟩
  | @register r r' shortcuts i reached registered ih =>
      obtain ⟨-, -, names, -, rfl⟩ := register_ok registered
      obtain ⟨words, distinct, fresh⟩ := checkShortcuts_eq_ok_iff.mp names
      rw [shortcuts_append]
      refine ⟨List.nodup_append.mpr ⟨ih.1, distinct, ?_⟩, ?_⟩
      · rintro s old t new rfl
        exact fresh s new old
      · intro s mem
        rcases List.mem_append.mp mem with old | new
        · exact ih.2 s old
        · exact words s new

/-- The link types of a reachable registry have passed the validation. -/
theorem Reachable.valid {r : Registry ι} (reached : Reachable types r) :
    ∀ i ∈ r.linkTypes, (types i).validate = .ok () := by
  induction reached with
  | empty => intro i mem; simp [linkTypes, distinct] at mem
  | register reached registered ih =>
      obtain ⟨valid, given, -, -, rfl⟩ := register_ok registered
      intro j mem
      rcases (mem_linkTypes_append given).mp mem with old | rfl
      · exact ih j old
      · exact valid

/-! ## Link types and content types -/

omit [DecidableEq ι] in
theorem find?_eq_some_iff {r : Registry ι} (distinct : r.shortcuts.Nodup) {s : String} {i : ι} :
    r.find? s = some i ↔ (s, i) ∈ r.bindings := by
  obtain ⟨bindings⟩ := r
  simp only [find?, shortcuts] at *
  induction bindings with
  | nil => simp
  | cons b rest ih =>
      obtain ⟨t, j⟩ := b
      rw [List.map_cons, List.nodup_cons] at distinct
      obtain ⟨first, distinct⟩ := distinct
      rw [List.lookup_cons, List.mem_cons]
      by_cases same : s = t
      · subst same
        have others : (s, i) ∉ rest := fun mem => first (List.mem_map.mpr ⟨_, mem, rfl⟩)
        simp [others, eq_comm]
      · have differ : (s == t) = false := by simpa using same
        rw [differ, ih distinct]
        simp [same]

theorem forContentType?_eq_some_iff {r : Registry ι} (separate : r.Separate types)
    {contentType : String} {i : ι} :
    r.forContentType? types contentType = some i ↔
      i ∈ r.linkTypes ∧ (types i).contentType = contentType := by
  constructor
  · intro found
    exact ⟨List.mem_of_find?_eq_some found, by simpa using List.find?_some found⟩
  · rintro ⟨mem, rfl⟩
    exact forContentType?_of_mem separate mem

/-- The elements of a list at their first occurrences stand in the order of these. -/
theorem pairwise_distinct (is : List ι) :
    (distinct is).Pairwise fun i j => is.idxOf i < is.idxOf j := by
  induction is with
  | nil => exact List.Pairwise.nil
  | cons i is ih =>
      refine List.pairwise_cons.mpr ⟨fun j mem => ?_, ?_⟩
      · have other : j ≠ i := by simpa using (List.mem_filter.mp mem).2
        rw [List.idxOf_cons_self, List.idxOf_cons_ne _ other.symm]
        exact Nat.succ_pos _
      · refine (ih.filter _).imp_of_mem fun {j k} memJ memK less => ?_
        have otherJ : j ≠ i := by simpa using (List.mem_filter.mp memJ).2
        have otherK : k ≠ i := by simpa using (List.mem_filter.mp memK).2
        rw [List.idxOf_cons_ne _ otherJ.symm, List.idxOf_cons_ne _ otherK.symm]
        exact Nat.succ_lt_succ less

/-- The bindings of a link type. -/
def bindingsOf (r : Registry ι) (i : ι) : List (String × ι) :=
  r.bindings.filter (·.2 = i)

/-- Grouped by link types, the bindings are the same bindings. -/
theorem perm_bindingsOf {r : Registry ι} (distinct : r.shortcuts.Nodup) :
    (r.linkTypes.flatMap r.bindingsOf).Perm r.bindings := by
  have bindings : r.bindings.Nodup := List.Nodup.of_map Prod.fst distinct
  refine (List.perm_ext_iff_of_nodup ?_ bindings).mpr fun b => ?_
  · refine List.nodup_flatMap.mpr ⟨fun i _ => bindings.filter _, ?_⟩
    refine (nodup_linkTypes r).imp fun {i j} apart b memI memJ => apart ?_
    have ofI : b.2 = i := by simpa using (List.mem_filter.mp memI).2
    have ofJ : b.2 = j := by simpa using (List.mem_filter.mp memJ).2
    exact ofI.symm.trans ofJ
  · simp only [List.mem_flatMap, bindingsOf, List.mem_filter, decide_eq_true_eq]
    constructor
    · rintro ⟨i, -, mem, -⟩
      exact mem
    · intro mem
      exact ⟨b.2, mem_linkTypes.mpr ⟨b.1, mem⟩, mem, rfl⟩

theorem bindingsOf_ne_nil {r : Registry ι} {i : ι} (mem : i ∈ r.linkTypes) :
    r.bindingsOf i ≠ [] := by
  obtain ⟨s, bound⟩ := mem_linkTypes.mp mem
  exact List.ne_nil_of_mem (List.mem_filter.mpr ⟨bound, by simp⟩)

theorem first?_eq_head? (r : Registry ι) : r.first? = r.linkTypes.head? := by
  unfold first? linkTypes
  cases r.bindings <;> rfl

/-! ## Other link types -/

theorem register_congr {types' : ι → LinkType} {r : Registry ι} {shortcuts : List String} {i : ι}
    (same : ∀ j ∈ r.linkTypes, types' j = types j) (own : types' i = types i) :
    r.register types' shortcuts i = r.register types shortcuts i := by
  have found : r.forContentType? types' (types i).contentType =
      r.forContentType? types (types i).contentType := by
    unfold forContentType?
    refine List.find?_congr fun j mem => ?_
    rw [same j mem]
  simp only [register, checkContentType, own, found]

/-- A registry has nothing to do with link types that it does not bind. -/
theorem Reachable.congr {types' : ι → LinkType} {r : Registry ι} (reached : Reachable types r)
    (same : ∀ i ∈ r.linkTypes, types' i = types i) : Reachable types' r := by
  induction reached with
  | empty => exact .empty
  | @register r r' shortcuts i reached registered ih =>
      obtain ⟨-, given, -, -, rfl⟩ := register_ok registered
      have old : ∀ j ∈ r.linkTypes, types' j = types j :=
        fun j mem => same j ((mem_linkTypes_append given).mpr (Or.inl mem))
      have own : types' i = types i := same i ((mem_linkTypes_append given).mpr (Or.inr rfl))
      exact .register (ih old) ((register_congr old own).trans registered)

/-! ## Consistency -/

/-- What a registry keeps to. -/
structure Consistent (types : ι → LinkType) (r : Registry ι) : Prop where
  /-- No shortcut is bound twice. -/
  distinct : r.shortcuts.Nodup
  /-- Shortcuts are words. -/
  words : ∀ s ∈ r.shortcuts, s ≠ "" ∧ ∀ c ∈ s.toList, Text.isWord c = true
  /-- A shortcut stands for the link type it is bound to. -/
  found : ∀ s i, r.find? s = some i ↔ (s, i) ∈ r.bindings
  /-- Bound link types have passed the validation. -/
  valid : ∀ s i, (s, i) ∈ r.bindings → (types i).validate = .ok ()
  /-- Bound link types of one content type are the same. -/
  separate : ∀ s i t j, (s, i) ∈ r.bindings → (t, j) ∈ r.bindings →
    (types i).contentType = (types j).contentType → i = j
  /-- The link type for a content type is the bound one of that content type. -/
  subscribed : ∀ contentType i, r.forContentType? types contentType = some i ↔
    (∃ s, (s, i) ∈ r.bindings) ∧ (types i).contentType = contentType
  /-- The bound link types are listed, and no others. -/
  listed : ∀ i, i ∈ r.linkTypes ↔ ∃ s, (s, i) ∈ r.bindings
  /-- They are listed once each. -/
  once : r.linkTypes.Nodup
  /-- They are listed in the order of their first shortcuts. -/
  ordered : r.linkTypes.Pairwise fun i j =>
    (r.bindings.map Prod.snd).idxOf i < (r.bindings.map Prod.snd).idxOf j
  /-- They part the bindings into groups. -/
  parted : (r.linkTypes.flatMap r.bindingsOf).Perm r.bindings
  /-- No group is empty. -/
  grouped : ∀ i ∈ r.linkTypes, r.bindingsOf i ≠ []
  /-- The link type of the first shortcut is listed first. -/
  first : r.first? = r.linkTypes.head?

/-- **Reachable registries are consistent.** -/
theorem Reachable.consistent {r : Registry ι} (reached : Reachable types r) :
    r.Consistent types where
  distinct := reached.words.1
  words s mem := by
    have word := reached.words.2 s mem
    simp only [Text.isWordRun, Bool.and_eq_true, List.all_eq_true] at word
    refine ⟨?_, word.2⟩
    rintro rfl
    exact absurd word.1 (by decide)
  found _ _ := find?_eq_some_iff reached.words.1
  valid s i bound := reached.valid i (mem_linkTypes.mpr ⟨s, bound⟩)
  separate s i t j boundI boundJ :=
    reached.separate i (mem_linkTypes.mpr ⟨s, boundI⟩) j (mem_linkTypes.mpr ⟨t, boundJ⟩)
  subscribed _ _ := by rw [forContentType?_eq_some_iff reached.separate, mem_linkTypes]
  listed _ := mem_linkTypes
  once := nodup_linkTypes r
  ordered := pairwise_distinct _
  parted := perm_bindingsOf reached.words.1
  grouped _ := bindingsOf_ne_nil
  first := first?_eq_head? r

end Registry

/-! ## Two tables -/

/-- A registry as two tables: what a shortcut stands for, and which link type hears of a content
type. -/
structure Directory (ι : Type) where
  shortcuts : List (String × ι) := []
  subscribers : List (String × ι) := []

namespace Directory

open Registry (Call checkShortcuts)

variable {ι : Type} [DecidableEq ι] {types : ι → LinkType}

/-- A table with a link type under a name, in place of the one there, or else behind the others. -/
def put (i : ι) (name : String) : List (String × ι) → List (String × ι)
  | [] => [(name, i)]
  | (other, j) :: rest =>
      if other = name then (name, i) :: rest else (other, j) :: put i name rest

/-- Fails if a call is not admissible. -/
def check (types : ι → LinkType) (d : Directory ι) (call : Call ι) : Except Error Unit := do
  (types call.linkType).validate
  if call.shortcuts.isEmpty then
    .error (.misconfigured (.noShortcut (types call.linkType).contentType))
  checkShortcuts (d.shortcuts.map Prod.fst) call.shortcuts
  match List.lookup (types call.linkType).contentType d.subscribers with
  | none => .ok ()
  | some j =>
      if j = call.linkType then .ok ()
      else .error (.misconfigured (.contentTypeTaken (types call.linkType).contentType))

/-- The directory after a call that passed the checks: every shortcut is written, and a content
type that no link type hears of yet gets this one. -/
def write (types : ι → LinkType) (d : Directory ι) (call : Call ι) : Directory ι where
  shortcuts := call.shortcuts.foldl (fun table name => put call.linkType name table) d.shortcuts
  subscribers :=
    match List.lookup (types call.linkType).contentType d.subscribers with
    | none => put call.linkType (types call.linkType).contentType d.subscribers
    | some _ => d.subscribers

/-- What a call leaves, and its answer. -/
def enter (types : ι → LinkType) (d : Directory ι) (call : Call ι) :
    Directory ι × Except Error Unit :=
  match d.check types call with
  | .error e => (d, .error e)
  | .ok () => (d.write types call, .ok ())

/-- The directory after a run of calls on an empty one. -/
def afterAll (types : ι → LinkType) (calls : List (Call ι)) : Directory ι :=
  calls.foldl (fun d call => (d.enter types call).1) {}

/-! ## Writing -/

omit [DecidableEq ι] in
/-- A table that is written leads to what is written, and else to where it led. -/
theorem find?_put {i : ι} {name other : String} {table : Table ι} :
    Table.find? (put i name table) other =
      if other = name then some i else table.find? other := by
  induction table with
  | nil => exact Table.find?_cons
  | cons e rest ih =>
      obtain ⟨key, j⟩ := e
      rw [put]
      split
      · next same =>
          rw [Table.find?_cons, Table.find?_cons, same]
          split <;> rfl
      · next apart =>
          rw [Table.find?_cons, Table.find?_cons, ih]
          by_cases same : other = key
          · rw [if_pos same, if_pos same, if_neg fun own => apart (same.symm.trans own)]
          · rw [if_neg same, if_neg same]

omit [DecidableEq ι] in
theorem put_of_absent {i : ι} {name : String} {table : List (String × ι)}
    (absent : name ∉ table.map Prod.fst) : put i name table = table ++ [(name, i)] := by
  induction table with
  | nil => rfl
  | cons e rest ih =>
      rw [List.map_cons, List.mem_cons, not_or] at absent
      rw [put, if_neg (Ne.symm absent.1), ih absent.2]
      rfl

omit [DecidableEq ι] in
theorem foldl_put_of_fresh {i : ι} {names : List String} {table : List (String × ι)}
    (distinct : names.Nodup) (fresh : ∀ s ∈ names, s ∉ table.map Prod.fst) :
    names.foldl (fun table name => put i name table) table =
      table ++ names.map fun s => (s, i) := by
  induction names generalizing table with
  | nil => simp
  | cons name names ih =>
      obtain ⟨first, rest⟩ := List.nodup_cons.mp distinct
      rw [List.foldl_cons, put_of_absent (fresh name (by simp)), ih rest]
      · simp
      · intro s mem old
        rw [List.map_append, List.mem_append] at old
        rcases old with old | new
        · exact fresh s (by simp [mem]) old
        · obtain rfl : s = name := by simpa using new
          exact first mem

/-! ## Agreement -/

/-- The two tables say what a registry says. -/
structure Mirrors (types : ι → LinkType) (d : Directory ι) (r : Registry ι) : Prop where
  shortcuts : d.shortcuts = r.bindings
  subscribers : ∀ contentType,
    List.lookup contentType d.subscribers = r.forContentType? types contentType

variable {d : Directory ι} {r : Registry ι}

/-- Both make the same checks. -/
theorem Mirrors.register_eq (mirrors : d.Mirrors types r) (call : Call ι) :
    r.register types call.shortcuts call.linkType =
      (d.check types call).map fun _ =>
        ⟨r.bindings ++ call.shortcuts.map fun s => (s, call.linkType)⟩ := by
  have owner : r.checkContentType types call.linkType =
      match List.lookup (types call.linkType).contentType d.subscribers with
      | none => .ok ()
      | some j =>
          if j = call.linkType then .ok ()
          else .error (.misconfigured (.contentTypeTaken (types call.linkType).contentType)) := by
    rw [mirrors.subscribers]
    rfl
  unfold Registry.register check
  rw [mirrors.shortcuts, ← owner]
  cases (types call.linkType).validate with
  | error e => rfl
  | ok _ =>
      cases call.shortcuts with
      | nil => rfl
      | cons s rest =>
          simp only [bind, Except.bind, pure, Except.pure, List.isEmpty_cons, Bool.false_eq_true,
            if_false, Registry.shortcuts]
          cases checkShortcuts (r.bindings.map Prod.fst) (s :: rest) with
          | error e => rfl
          | ok _ => cases r.checkContentType types call.linkType <;> rfl

theorem Mirrors.enter_of_error (mirrors : d.Mirrors types r) {call : Call ι} {e : Error}
    (failed : r.register types call.shortcuts call.linkType = .error e) :
    d.enter types call = (d, .error e) := by
  rw [mirrors.register_eq] at failed
  unfold enter
  cases checked : d.check types call with
  | error e' =>
      rw [checked] at failed
      cases failed
      rfl
  | ok _ =>
      rw [checked] at failed
      cases failed

theorem Mirrors.enter_of_ok (mirrors : d.Mirrors types r) {call : Call ι} {r' : Registry ι}
    (registered : r.register types call.shortcuts call.linkType = .ok r') :
    d.enter types call = (d.write types call, .ok ()) := by
  rw [mirrors.register_eq] at registered
  unfold enter
  cases checked : d.check types call with
  | error e =>
      rw [checked] at registered
      cases registered
  | ok _ => rfl

omit [DecidableEq ι] in
/-- A content type that a link type hears of is heard of by the same one after a call; one that
nobody hears of may get the link type of the call. -/
theorem lookup_subscribers_write (call : Call ι) (contentType : String) :
    List.lookup contentType (d.write types call).subscribers =
      (List.lookup contentType d.subscribers).or
        (if contentType = (types call.linkType).contentType then some call.linkType else none) := by
  unfold write
  cases known : List.lookup (types call.linkType).contentType d.subscribers with
  | none =>
      refine find?_put.trans ?_
      split
      · next same => rw [same, known, Option.none_or]
      · rw [Option.or_none, Table.find?]
  | some k =>
      simp only
      split
      · next same => rw [same, known, Option.some_or]
      · rw [Option.or_none]

/-- After a registration that succeeds the two tables say what the new registry says. -/
theorem Mirrors.write (mirrors : d.Mirrors types r) (reached : r.Reachable types) {call : Call ι}
    {r' : Registry ι} (registered : r.register types call.shortcuts call.linkType = .ok r') :
    (d.write types call).Mirrors types r' := by
  have separate' := (Registry.Reachable.register reached registered).separate
  obtain ⟨-, given, names, owned, rfl⟩ := Registry.register_ok registered
  obtain ⟨-, distinct, fresh⟩ := Registry.checkShortcuts_eq_ok_iff.mp names
  constructor
  · rw [Directory.write, mirrors.shortcuts]
    exact foldl_put_of_fresh distinct fresh
  · intro contentType
    ext j
    rw [lookup_subscribers_write, mirrors.subscribers, Option.or_eq_some_iff,
      Registry.forContentType?_eq_some_iff separate', Registry.mem_linkTypes_append given,
      Registry.forContentType?_eq_some_iff reached.separate]
    constructor
    · rintro (⟨listed, same⟩ | ⟨-, new⟩)
      · exact ⟨Or.inl listed, same⟩
      · obtain ⟨same, own⟩ := Option.ite_none_right_eq_some.mp new
        obtain rfl := Option.some.inj own
        exact ⟨Or.inr rfl, same.symm⟩
    · rintro ⟨listed | rfl, same⟩
      · exact Or.inl ⟨listed, same⟩
      -- The content type of the call is heard of by its own link type already, or by none.
      · cases known : r.forContentType? types contentType with
        | none => exact Or.inr ⟨rfl, by rw [if_pos same.symm]⟩
        | some k =>
            obtain ⟨listed, heard⟩ :=
              (Registry.forContentType?_eq_some_iff reached.separate).mp known
            obtain rfl : k = call.linkType :=
              Registry.eq_of_checkContentType reached.separate owned listed (heard.trans same.symm)
            exact Or.inl ⟨listed, same⟩

/-! ## Calls -/

/-- The two tables agree with the registry after a call, whether it fails or not. -/
theorem Mirrors.enter (mirrors : d.Mirrors types r) (reached : r.Reachable types) (call : Call ι) :
    (d.enter types call).1.Mirrors types (r.after types call) := by
  unfold Registry.after
  cases registered : r.register types call.shortcuts call.linkType with
  | error e =>
      rw [mirrors.enter_of_error registered]
      exact mirrors
  | ok r' =>
      rw [mirrors.enter_of_ok registered]
      exact mirrors.write reached registered

theorem mirrors_empty : Mirrors types {} ({} : Registry ι) := ⟨rfl, fun _ => rfl⟩

theorem mirrors_foldl (mirrors : d.Mirrors types r) (reached : r.Reachable types)
    (calls : List (Call ι)) :
    (calls.foldl (fun d call => (d.enter types call).1) d).Mirrors types
      (calls.foldl (Registry.after types) r) := by
  induction calls generalizing d r with
  | nil => exact mirrors
  | cons call calls ih =>
      exact ih (mirrors.enter reached call) (Registry.reachable_after reached call)

/-- After every run the two tables say what the registry says. -/
theorem mirrors_afterAll (calls : List (Call ι)) :
    (afterAll types calls).Mirrors types (Registry.afterAll types calls) :=
  mirrors_foldl mirrors_empty .empty calls

end Directory

/-- **After every run of calls the registry is consistent**, and the two tables say what it says.
A further call that fails leaves all of it as it was; one that succeeds adds its shortcuts, in
their order, behind the others. -/
theorem Registry.consistent_afterAll {ι : Type} [DecidableEq ι] (types : ι → LinkType)
    (calls : List (Call ι)) :
    let r := afterAll types calls
    let d := Directory.afterAll types calls
    r.Consistent types ∧ d.Mirrors types r ∧
    ∀ call : Call ι,
      match r.register types call.shortcuts call.linkType with
      | .error e => d.enter types call = (d, .error e) ∧ r.after types call = r
      | .ok r' =>
          (d.enter types call).2 = .ok () ∧ (d.enter types call).1.Mirrors types r' ∧
          r.after types call = r' ∧
          r'.bindings = r.bindings ++ call.shortcuts.map fun s => (s, call.linkType) := by
  have reached : Reachable types (afterAll types calls) := reachable_afterAll calls
  have mirrors : (Directory.afterAll types calls).Mirrors types (afterAll types calls) :=
    Directory.mirrors_afterAll calls
  refine ⟨reached.consistent, mirrors, fun call => ?_⟩
  have left := mirrors.enter reached call
  cases registered : (afterAll types calls).register types call.shortcuts call.linkType with
  | error e =>
      refine ⟨mirrors.enter_of_error registered, ?_⟩
      rw [after, registered]
      rfl
  | ok r' =>
      have next : (afterAll types calls).after types call = r' := by
        rw [after, registered]
        rfl
      rw [next] at left
      obtain ⟨-, -, -, -, rfl⟩ := register_ok registered
      exact ⟨by rw [mirrors.enter_of_ok registered], left, next, rfl⟩

end Wikilink
