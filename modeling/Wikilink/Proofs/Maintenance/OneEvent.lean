/-
# Proofs.Maintenance.OneEvent -- one event and the rows of its object

An update or a deletion never fails and leaves an object the same rows whatever rows
it had before, so the same event again changes nothing (`afterEvent_again`).  A
creation counts on the object having no row under one of its keys: out of scope it
does nothing; with a clash it is refused; without one it adds a row for every key
(`afterEvent_created_of_none`, `afterEvent_created_of_clash`,
`afterEvent_created_of_clashless`).  No event touches the rows of another object,
and the number it answers with is that of the rows it wrote.

All of this holds in every index that a run of operations leads to
(`afterEvent_exact`), and an event leads to another one of these
(`exists_afterAll_eq_leftBy`).
-/
import Wikilink.Proofs.Index.Clash
import Wikilink.Proofs.Index.Report
import Wikilink.Proofs.Maintenance.Tally

namespace Wikilink

set_option autoImplicit false

theorem Event.keysLeft_nodup (event : Event) (t : LinkType) (o : Item) (current : Option Item) :
    (event.keysLeft t o current).Nodup := by
  cases event with
  | deleted => exact List.nodup_nil
  | created =>
      cases current with
      | none => exact List.nodup_nil
      | some p => exact Index.nodup_storedKeys _
  | updated =>
      cases current with
      | none => exact List.nodup_nil
      | some p => exact Index.nodup_storedKeys _

namespace Index

variable {ix jx kx : Index} {owner : Owner} {keys : List String} {written : Nat}

/-! ## Counting rows -/

/-- An owner has as many rows as keys. -/
theorem length_entriesOf_of_own (well : jx.WellFormed) (distinct : keys.Nodup)
    (own : ∀ r : Row, r.owner = owner → (r ∈ jx ↔ r.key ∈ keys)) :
    (jx.entriesOf owner).length = keys.length := by
  have entries : (jx.entriesOf owner).Nodup := by
    rw [entriesOf_eq_filter well]
    exact (Ascending.nodup well.ownerAscending).filter _
  have listed : (jx.entriesOf owner).Perm (rowsUnder owner keys) := by
    refine (List.perm_ext_iff_of_nodup entries (nodup_rowsUnder owner distinct)).mpr fun r => ?_
    rw [mem_entriesOf well, mem_rowsUnder, and_comm]
    exact and_congr_right (own r)
  rw [listed.length_eq, rowsUnder, List.length_map]

/-- Rows that are added to an index count in its size. -/
theorem Extended.stats_entries (given : Extended owner keys ix jx) (wellI : ix.WellFormed)
    (wellJ : jx.WellFormed) (distinct : keys.Nodup)
    (fresh : ∀ key ∈ keys, (⟨key, owner⟩ : Row) ∉ ix) :
    jx.stats.entries = ix.stats.entries + keys.length := by
  have apart : (rowsUnder owner keys).Disjoint ix.byKey := by
    intro r added old
    obtain ⟨rfl, mem⟩ := mem_rowsUnder.mp added
    exact fresh r.key mem old
  have both : (rowsUnder owner keys ++ ix.byKey).Nodup :=
    (nodup_rowsUnder owner distinct).append (Ascending.nodup wellI.keyAscending) apart
  have same : jx.byKey.Perm (rowsUnder owner keys ++ ix.byKey) := by
    refine (List.perm_ext_iff_of_nodup (Ascending.nodup wellJ.keyAscending) both).mpr fun r => ?_
    rw [List.mem_append, mem_rowsUnder]
    exact given r
  have lengths := same.length_eq
  rw [List.length_append, rowsUnder, List.length_map] at lengths
  show jx.byKey.length = ix.byKey.length + keys.length
  omega

/-! ## Updates and deletions -/

/-- Giving an owner the same keys once more changes nothing. -/
theorem Reassigned.again (first : Reassigned owner keys ix jx) (second : Reassigned owner keys jx kx)
    (wellJ : jx.WellFormed) (wellK : kx.WellFormed) : kx = jx := by
  refine wellK.ext wellJ fun r => ?_
  by_cases own : r.owner = owner
  · rw [second.own own, first.own own]
  · exact second.other own

variable {t : LinkType} {source : Source} {o : Item} {event : Event}

/-- An update in scope is a replacement of the object's keys. -/
theorem afterEvent_updated_of_some {p : Item} (current : source.indexable? o.id = some p) :
    ix.afterEvent t source o .updated =
      (ix.replaceFor (t.ownerOf o) (t.searchKeys o)).map fun jx =>
        (jx, (t.searchKeys o).length) := by
  simp only [afterEvent, current]
  rfl

theorem afterEvent_updated_of_none (current : source.indexable? o.id = none) :
    ix.afterEvent t source o .updated = .ok ((ix.deleteFor (t.ownerOf o)).1, 0) := by
  simp only [afterEvent, current]
  rfl

/-- **An update or a deletion that is repeated changes nothing** and answers as before. -/
theorem afterEvent_again (well : ix.WellFormed) (kind : event ≠ .created)
    (done : ix.afterEvent t source o event = .ok (jx, written)) :
    jx.afterEvent t source o event = .ok (jx, written) := by
  obtain ⟨first, once, wellJ, given⟩ :=
    afterEvent_ok event well fun created => absurd created kind
  obtain ⟨rfl, rfl⟩ := Prod.mk.inj (Except.ok.inj (once.symm.trans done))
  obtain ⟨second, twice, wellK, againGiven⟩ :=
    afterEvent_ok event wellJ fun created => absurd created kind
  rw [twice, given.again againGiven wellJ wellK]

/-- **An update or a deletion never fails**, and answers with the number of rows that its object
has then. -/
theorem afterEvent_of_ne_created (well : ix.WellFormed) (kind : event ≠ .created) :
    ∃ jx, ix.afterEvent t source o event = .ok (jx, (jx.entriesOf (t.ownerOf o)).length) ∧
      jx.WellFormed ∧
      Reassigned (t.ownerOf o) (event.keysLeft t o (source.indexable? o.id)) ix jx ∧
      jx.afterEvent t source o event = .ok (jx, (jx.entriesOf (t.ownerOf o)).length) := by
  obtain ⟨jx, done, wellJ, given⟩ :=
    afterEvent_ok event well fun created => absurd created kind
  have count : (jx.entriesOf (t.ownerOf o)).length =
      (event.keysLeft t o (source.indexable? o.id)).length :=
    length_entriesOf_of_own wellJ (event.keysLeft_nodup t o _) fun _ => given.own
  rw [← count] at done
  exact ⟨jx, done, wellJ, given, afterEvent_again well kind done⟩

/-! ## Creations -/

theorem afterEvent_created_of_none (current : source.indexable? o.id = none) :
    ix.afterEvent t source o .created = .ok (ix, 0) := by
  simp only [afterEvent, current]

/-- A creation in scope is an insertion of the object's keys. -/
theorem afterEvent_created_of_some {p : Item} (current : source.indexable? o.id = some p) :
    ix.afterEvent t source o .created =
      (ix.insertFor (t.ownerOf o) (t.searchKeys o)).map fun jx =>
        (jx, (t.searchKeys o).length) := by
  simp only [afterEvent, current]
  rfl

/-- **A creation is refused** if the object is stored under one of its keys. -/
theorem afterEvent_created_of_clash {p : Item} {key : String} (well : ix.WellFormed)
    (current : source.indexable? o.id = some p)
    (clash : ix.clash? (t.ownerOf o) (t.searchKeys o) = some key) :
    ix.afterEvent t source o .created = .error (.duplicateRow key t.contentType o.id) := by
  have keys : storedKeys (t.searchKeys o) = t.searchKeys o := storedKeys_storedKeys _
  rw [afterEvent_created_of_some current, insertFor_of_clash well (keys.symm ▸ clash)]
  rfl

/-- **A creation without a clash adds a row for every key.** -/
theorem afterEvent_created_of_clashless {p : Item} (well : ix.WellFormed)
    (current : source.indexable? o.id = some p)
    (clashless : ix.clash? (t.ownerOf o) (t.searchKeys o) = none) :
    ∃ jx, ix.afterEvent t source o .created = .ok (jx, (t.searchKeys o).length) ∧
      Extended (t.ownerOf o) (t.searchKeys o) ix jx ∧
      jx.stats.entries = ix.stats.entries + (t.searchKeys o).length := by
  have keys : storedKeys (t.searchKeys o) = t.searchKeys o := storedKeys_storedKeys _
  obtain ⟨jx, inserted, wellJ, given⟩ := insertFor_of_clashless well (keys.symm ▸ clashless)
  rw [keys] at given
  refine ⟨jx, ?_, given, ?_⟩
  · rw [afterEvent_created_of_some current, inserted]
    rfl
  · exact given.stats_entries well wellJ (nodup_storedKeys _) (clash?_eq_none_iff.mp clashless)

/-! ## Every event -/

/-- The index that an event leaves; one that is refused leaves it as it was. -/
def leftBy (ix : Index) (t : LinkType) (source : Source) (o : Item) (event : Event) : Index :=
  match ix.afterEvent t source o event with
  | .ok (jx, _) => jx
  | .error _ => ix

theorem leftBy_of_ok (done : ix.afterEvent t source o event = .ok (jx, written)) :
    ix.leftBy t source o event = jx := by
  rw [leftBy, done]

theorem leftBy_of_error {e : Error} (refused : ix.afterEvent t source o event = .error e) :
    ix.leftBy t source o event = ix := by
  rw [leftBy, refused]

/-- A creation in scope is refused, and changes nothing, exactly if the object is stored under one
of its keys. -/
theorem afterEvent_created_refused_iff {p : Item} (well : ix.WellFormed)
    (current : source.indexable? o.id = some p) :
    (∃ key, ix.afterEvent t source o .created =
        .error (.duplicateRow key t.contentType o.id)) ∧ ix.leftBy t source o .created = ix ↔
      ∃ key ∈ t.searchKeys o, (⟨key, t.ownerOf o⟩ : Row) ∈ ix := by
  rw [← exists_clash_iff]
  constructor
  · rintro ⟨⟨key, refused⟩, -⟩
    cases clash : ix.clash? (t.ownerOf o) (t.searchKeys o) with
    | some key => exact ⟨key, rfl⟩
    | none =>
        obtain ⟨jx, done, -⟩ := afterEvent_created_of_clashless well current clash
        cases refused.symm.trans done
  · rintro ⟨key, clash⟩
    have refused := afterEvent_created_of_clash well current clash
    exact ⟨⟨key, refused⟩, leftBy_of_error refused⟩

/-- **No event touches the rows of another object.** -/
theorem mem_leftBy_of_other (well : ix.WellFormed) (event : Event) {r : Row}
    (other : r.owner ≠ t.ownerOf o) : r ∈ ix.leftBy t source o event ↔ r ∈ ix := by
  by_cases kind : event = .created
  · subst kind
    cases current : source.indexable? o.id with
    | none => rw [leftBy_of_ok (afterEvent_created_of_none current)]
    | some p =>
        cases clash : ix.clash? (t.ownerOf o) (t.searchKeys o) with
        | some key => rw [leftBy_of_error (afterEvent_created_of_clash well current clash)]
        | none =>
            obtain ⟨jx, done, given, -⟩ := afterEvent_created_of_clashless well current clash
            rw [leftBy_of_ok done]
            exact given.other other
  · obtain ⟨jx, done, -, given, -⟩ := afterEvent_of_ne_created well kind
    rw [leftBy_of_ok done]
    exact given.other other

/-- **An event of a reachable index leads to a reachable index.** -/
theorem exists_afterAll_eq_leftBy (operations : List Operation) (t : LinkType) (source : Source)
    (o : Item) (event : Event) :
    ∃ more, (afterAll operations).leftBy t source o event = afterAll (operations ++ more) := by
  have step : ∀ operation,
      (afterAll operations).leftBy t source o event = (afterAll operations).after operation →
        ∃ more, (afterAll operations).leftBy t source o event = afterAll (operations ++ more) := by
    intro operation same
    refine ⟨[operation], same.trans ?_⟩
    rw [afterAll, afterAll, List.foldl_append]
    rfl
  cases event with
  | deleted =>
      apply step (.delete (t.ownerOf o))
      rfl
  | created =>
      cases current : source.indexable? o.id with
      | none =>
          refine ⟨[], ?_⟩
          rw [leftBy_of_ok (afterEvent_created_of_none current), List.append_nil]
      | some p =>
          apply step (.insert (t.ownerOf o) (t.searchKeys o))
          rw [leftBy, afterEvent_created_of_some current, after, perform]
          cases (afterAll operations).insertFor (t.ownerOf o) (t.searchKeys o) <;> rfl
  | updated =>
      cases current : source.indexable? o.id with
      | none =>
          apply step (.delete (t.ownerOf o))
          rw [leftBy, afterEvent_updated_of_none current]
          rfl
      | some p =>
          apply step (.replace (t.ownerOf o) (t.searchKeys o))
          rw [leftBy, afterEvent_updated_of_some current, after, perform]
          cases (afterAll operations).replaceFor (t.ownerOf o) (t.searchKeys o) <;> rfl

/-- **One event brings the rows of its object up to date.**  In every index that operations lead
to, an update leaves the object exactly its search keys, or no row if it may not be indexed now,
and a deletion leaves it no row; neither fails, and neither has an effect when it is repeated.  A
creation does nothing for an object that may not be indexed; otherwise it is refused, and changes
nothing, exactly if the object is stored under one of its keys, and if it is not, its keys are
added.  The number that is answered is that of the rows written. -/
theorem afterEvent_exact (operations : List Operation) (t : LinkType) (source : Source)
    (o : Item) :
    let ix := afterAll operations
    let owner := t.ownerOf o
    (∃ jx, ix.afterEvent t source o .updated = .ok (jx, (jx.entriesOf owner).length) ∧
      (∀ key, (⟨key, owner⟩ : Row) ∈ jx ↔
        (source.indexable? o.id).isSome = true ∧ key ∈ t.searchKeys o) ∧
      jx.afterEvent t source o .updated = .ok (jx, (jx.entriesOf owner).length)) ∧
    (∃ jx, ix.afterEvent t source o .deleted = .ok (jx, 0) ∧
      (∀ key, (⟨key, owner⟩ : Row) ∉ jx) ∧
      jx.afterEvent t source o .deleted = .ok (jx, 0)) ∧
    (source.indexable? o.id = none → ix.afterEvent t source o .created = .ok (ix, 0)) ∧
    (source.indexable? o.id ≠ none →
      ((∃ key, ix.afterEvent t source o .created =
            .error (.duplicateRow key t.contentType o.id)) ∧
          ix.leftBy t source o .created = ix ↔
        ∃ key ∈ t.searchKeys o, (⟨key, owner⟩ : Row) ∈ ix) ∧
      ((∀ key ∈ t.searchKeys o, (⟨key, owner⟩ : Row) ∉ ix) →
        ∃ jx written, ix.afterEvent t source o .created = .ok (jx, written) ∧
          (∀ key, (⟨key, owner⟩ : Row) ∈ jx ↔
            key ∈ t.searchKeys o ∨ (⟨key, owner⟩ : Row) ∈ ix) ∧
          jx.stats.entries = ix.stats.entries + written)) ∧
    ∀ event r, r.owner ≠ owner → (r ∈ ix.leftBy t source o event ↔ r ∈ ix) := by
  intro ix owner
  have well : ix.WellFormed := wellFormed_afterAll operations
  refine ⟨?_, ?_, afterEvent_created_of_none, ?_, fun event r => mem_leftBy_of_other well event⟩
  · obtain ⟨jx, done, -, given, again⟩ :=
      @afterEvent_of_ne_created _ t source o .updated well nofun
    refine ⟨jx, done, fun key => ?_, again⟩
    rw [given.own rfl]
    cases source.indexable? o.id with
    | none => simp [Event.keysLeft]
    | some p => simp [Event.keysLeft]
  · obtain ⟨jx, done, wellJ, given, again⟩ :=
      @afterEvent_of_ne_created _ t source o .deleted well nofun
    have rowless : ∀ key, (⟨key, owner⟩ : Row) ∉ jx := by
      intro key stored
      exact List.not_mem_nil ((given.own rfl).mp stored)
    have count : (jx.entriesOf owner).length = ([] : List String).length :=
      length_entriesOf_of_own wellJ List.nodup_nil fun _ => given.own
    rw [count] at done again
    exact ⟨jx, done, rowless, again⟩
  · intro indexed
    obtain ⟨p, current⟩ := Option.ne_none_iff_exists'.mp indexed
    refine ⟨afterEvent_created_refused_iff well current, fun fresh => ?_⟩
    obtain ⟨jx, done, given, size⟩ :=
      afterEvent_created_of_clashless well current (clash?_eq_none_iff.mpr fresh)
    exact ⟨jx, _, done, fun key => given.own, size⟩

/-- A film that is stored under its title and under a key that it has no more. -/
theorem afterEvent_exact_films :
    let ix := afterAll [.put "Mad Max" ⟨"movie", 1⟩, .put "The Road" ⟨"movie", 1⟩]
    (∃ jx, ix.afterEvent filmType (films.sources ()) (film 1 "Mad Max") .updated =
        .ok (jx, (jx.entriesOf ⟨"movie", 1⟩).length) ∧
      (⟨"madmax", "movie", 1⟩ : Row) ∈ jx ∧ (⟨"theroad", "movie", 1⟩ : Row) ∉ jx) ∧
    (∃ key, ix.afterEvent filmType (films.sources ()) (film 1 "Mad Max") .created =
      .error (.duplicateRow key "movie" 1)) ∧
    ∃ jx written, ix.afterEvent filmType (films.sources ()) (film 2 "Mad Max 2") .created =
      .ok (jx, written) ∧ (⟨"madmax2", "movie", 2⟩ : Row) ∈ jx := by
  intro ix
  have first := afterEvent_exact
    [.put "Mad Max" ⟨"movie", 1⟩, .put "The Road" ⟨"movie", 1⟩] filmType (films.sources ())
    (film 1 "Mad Max")
  have second := afterEvent_exact
    [.put "Mad Max" ⟨"movie", 1⟩, .put "The Road" ⟨"movie", 1⟩] filmType (films.sources ())
    (film 2 "Mad Max 2")
  obtain ⟨⟨jx, updated, own, -⟩, -, -, created, -⟩ := first
  obtain ⟨-, -, -, added, -⟩ := second
  have title : filmType.searchKeys (film 1 "Mad Max") = ["madmax"] := by decide
  have title2 : filmType.searchKeys (film 2 "Mad Max 2") = ["madmax2"] := by decide
  refine ⟨⟨jx, updated, (own _).mpr ⟨rfl, by simp [title]⟩, fun stored => ?_⟩, ?_, ?_⟩
  · have key := ((own _).mp stored).2
    rw [title] at key
    exact absurd key (by decide)
  · exact ((created nofun).1.mpr ⟨"madmax", by simp [title], mem_def.mpr (by decide)⟩).1
  · have fresh : ∀ key ∈ filmType.searchKeys (film 2 "Mad Max 2"),
        (⟨key, "movie", 2⟩ : Row) ∉ ix := by
      rw [title2, List.forall_mem_singleton, mem_def]
      decide
    obtain ⟨kx, written, done, keys, -⟩ := (added nofun).2 fresh
    exact ⟨kx, written, done, (keys _).mpr (Or.inl (by simp [title2]))⟩

end Index

end Wikilink
