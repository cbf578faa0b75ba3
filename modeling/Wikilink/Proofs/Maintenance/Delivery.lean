/-
# Proofs.Maintenance.Delivery -- late events keep the index in step

The rows of an event are made from the object as the event shows it, while whether
it may be indexed is decided by the objects as they are now, so between two
deliveries rows may be stale.  What holds throughout is an invariant (`InStep`): the
events that wait for an id trace how it came to lead to what it leads to, an id that
led to nothing before them has no rows, and an id for which none waits has the rows
of what it leads to.

Hence no delivery fails, and when nothing waits the index is the one that a rebuild
would write (`delivery_keeps_index`).
-/
import Wikilink.Proofs.Maintenance.Backlog

namespace Wikilink

set_option autoImplicit false

/-! ## The last event of an object -/

/-- Where one event waits, its keys are those of what the id leads to now. -/
theorem Event.mem_keysLeft_of_leads {t : LinkType} {source : Source} {n : Notice} {x : Option Item}
    (leads : n.Leads x (source.get? n.object.id)) (key : String) :
    key ∈ n.event.keysLeft t n.object (source.indexable? n.object.id) ↔
      ∃ o, source.indexable? n.object.id = some o ∧ key ∈ t.searchKeys o := by
  generalize now : source.get? n.object.id = current at leads
  cases current with
  | none =>
      have none : source.indexable? n.object.id = none := by simp [Source.indexable?, now]
      simp [none, Event.keysLeft_none]
  | some p =>
      have shown : p = n.object ∧ n.event ≠ .deleted := by
        cases leads with
        | created kind => simp [kind]
        | updated kind => simp [kind]
      cases indexed : source.indexable? n.object.id with
      | none => simp [Event.keysLeft_none]
      | some o =>
          have same : o = n.object := by
            rw [Source.indexable?, now, Option.filter_eq_some_iff] at indexed
            rw [← shown.1]
            exact (Option.some.inj indexed.1).symm
          rw [same]
          cases kind : n.event with
          | deleted => exact absurd kind shown.2
          | created => simp [Event.keysLeft]
          | updated => simp [Event.keysLeft]

namespace Backlog

variable {ι : Type} [DecidableEq ι] {b : Backlog ι}

/-! ## The invariant -/

/-- What holds between any two steps. -/
structure InStep (b : Backlog ι) : Prop where
  reached : b.site.registry.Reachable b.site.types
  scopeOnly : ∀ i ∈ b.site.registry.linkTypes, (b.site.sources i).indexesScopeOnly = true
  well : b.site.index.WellFormed
  rowsRegistered : ∀ r ∈ b.site.index, ∃ i ∈ b.site.registry.linkTypes,
    (b.site.types i).contentType = r.owner.contentType
  noticesRegistered : ∀ n ∈ b.waiting, ∃ i ∈ b.site.registry.linkTypes,
    (b.site.types i).contentType = n.contentType
  /-- The events that wait for an id lead to its present state, from nothing only if the id has
  no rows. -/
  traced : ∀ i ∈ b.site.registry.linkTypes, ∀ id, ∃ start,
    Traces start (b.pending ⟨(b.site.types i).contentType, id⟩) ((b.site.sources i).get? id) ∧
      (start = none → b.site.index.Bare ⟨(b.site.types i).contentType, id⟩)
  /-- An id for which nothing waits has the rows of what it leads to. -/
  settled : ∀ i ∈ b.site.registry.linkTypes, ∀ id,
    b.pending ⟨(b.site.types i).contentType, id⟩ = [] →
      ∀ key, (⟨key, ⟨(b.site.types i).contentType, id⟩⟩ : Row) ∈ b.site.index ↔
        ∃ o, (b.site.sources i).indexable? id = some o ∧ key ∈ (b.site.types i).searchKeys o

/-- Two owners of registered link types are the same only if their types and ids are. -/
theorem InStep.eq_of_owner (inStep : b.InStep) {i j : ι} (registered : i ∈ b.site.registry.linkTypes)
    (listed : j ∈ b.site.registry.linkTypes) {o : Item} {id : Nat}
    (same : (b.site.types i).ownerOf o = ⟨(b.site.types j).contentType, id⟩) :
    j = i ∧ id = o.id := by
  have type : (b.site.types j).contentType = (b.site.types i).contentType :=
    (congrArg Owner.contentType same).symm
  exact ⟨inStep.reached.separate j listed i registered type, (congrArg Owner.id same).symm⟩

/-! ## Changes of the objects -/

section Change

variable {i j : ι} {source : Source} {o : Item} {event : Event} {id : Nat}

/-- An owner other than the changed object's keeps what its id leads to. -/
theorem get?_change_other (others : ∀ id ≠ o.id, source.get? id = (b.site.sources i).get? id)
    (other : (b.site.types i).ownerOf o ≠ ⟨(b.site.types j).contentType, id⟩) :
    ((b.change i source o event).site.sources j).get? id = (b.site.sources j).get? id := by
  rw [sources_change]
  split
  · next own =>
      subst own
      exact others id fun same => other (same ▸ rfl)
  · rfl

theorem scope_change (o : Item) (event : Event)
    (inScope : source.inScope = (b.site.sources i).inScope)
    (scopeOnly : source.indexesScopeOnly = (b.site.sources i).indexesScopeOnly) (j : ι) :
    ((b.change i source o event).site.sources j).inScope = (b.site.sources j).inScope ∧
      ((b.change i source o event).site.sources j).indexesScopeOnly =
        (b.site.sources j).indexesScopeOnly := by
  rw [sources_change]
  split
  · next own => exact own ▸ ⟨inScope, scopeOnly⟩
  · exact ⟨rfl, rfl⟩

/-- The event that was queued takes the trace on to the new state of its object. -/
theorem InStep.traced_change (inStep : b.InStep) (registered : i ∈ b.site.registry.linkTypes)
    (leads : Notice.Leads ⟨(b.site.types i).contentType, o, event⟩
      ((b.site.sources i).get? o.id) (source.get? o.id))
    (others : ∀ id ≠ o.id, source.get? id = (b.site.sources i).get? id)
    (listed : j ∈ b.site.registry.linkTypes) (id : Nat) :
    ∃ start, Traces start
        ((b.change i source o event).pending ⟨(b.site.types j).contentType, id⟩)
        (((b.change i source o event).site.sources j).get? id) ∧
      (start = none → b.site.index.Bare ⟨(b.site.types j).contentType, id⟩) := by
  by_cases same : (b.site.types i).ownerOf o = ⟨(b.site.types j).contentType, id⟩
  · obtain ⟨rfl, rfl⟩ := inStep.eq_of_owner registered listed same
    obtain ⟨start, trace, bare⟩ := inStep.traced j listed o.id
    refine ⟨start, ?_, bare⟩
    have queued := pending_change_own (b := b) j source o event
    rw [sources_change, if_pos rfl]
    exact queued ▸ trace.snoc leads
  · obtain ⟨start, trace, bare⟩ := inStep.traced j listed id
    refine ⟨start, ?_, bare⟩
    have waiting := pending_change_other source event same
    rw [get?_change_other others same]
    exact waiting ▸ trace

/-- An id for which nothing waits after a change has not changed. -/
theorem InStep.settled_change (inStep : b.InStep) (registered : i ∈ b.site.registry.linkTypes)
    (others : ∀ id ≠ o.id, source.get? id = (b.site.sources i).get? id)
    (inScope : source.inScope = (b.site.sources i).inScope)
    (scopeOnly : source.indexesScopeOnly = (b.site.sources i).indexesScopeOnly)
    (listed : j ∈ b.site.registry.linkTypes) (id : Nat)
    (idle : (b.change i source o event).pending ⟨(b.site.types j).contentType, id⟩ = [])
    (key : String) :
    (⟨key, ⟨(b.site.types j).contentType, id⟩⟩ : Row) ∈ b.site.index ↔
      ∃ p, ((b.change i source o event).site.sources j).indexable? id = some p ∧
        key ∈ (b.site.types j).searchKeys p := by
  by_cases same : (b.site.types i).ownerOf o = ⟨(b.site.types j).contentType, id⟩
  · obtain ⟨rfl, rfl⟩ := inStep.eq_of_owner registered listed same
    have queued := pending_change_own (b := b) j source o event
    exact absurd (queued.symm.trans idle) (by simp)
  · have waiting := pending_change_other source event same
    obtain ⟨inScope, scopeOnly⟩ := scope_change o event inScope scopeOnly j
    rw [Source.indexable?_congr (get?_change_other others same) inScope scopeOnly]
    exact inStep.settled j listed id (waiting.symm.trans idle) key

/-- **Changing one object and queueing an event that tells of it keeps the invariant.** -/
theorem InStep.change (inStep : b.InStep) (registered : i ∈ b.site.registry.linkTypes)
    (leads : Notice.Leads ⟨(b.site.types i).contentType, o, event⟩
      ((b.site.sources i).get? o.id) (source.get? o.id))
    (others : ∀ id ≠ o.id, source.get? id = (b.site.sources i).get? id)
    (inScope : source.inScope = (b.site.sources i).inScope)
    (scopeOnly : source.indexesScopeOnly = (b.site.sources i).indexesScopeOnly) :
    (b.change i source o event).InStep where
  reached := inStep.reached
  scopeOnly j listed :=
    (scope_change o event inScope scopeOnly j).2.trans (inStep.scopeOnly j listed)
  well := inStep.well
  rowsRegistered := inStep.rowsRegistered
  noticesRegistered n mem := by
    rcases List.mem_append.mp mem with old | new
    · exact inStep.noticesRegistered n old
    · rw [List.mem_singleton.mp new]
      exact ⟨i, registered, rfl⟩
  traced _ listed := inStep.traced_change registered leads others listed
  settled _ listed := inStep.settled_change registered others inScope scopeOnly listed

end Change

/-! ## Deliveries -/

section Deliver

variable {before after : List Notice} {n : Notice} {i j : ι} {jx : Index}

/-- The object of the first event that waits for an id has no rows yet if the event creates it. -/
theorem InStep.bare_of_created (inStep : b.InStep) (deliverable : b.Deliverable before n after)
    (registered : i ∈ b.site.registry.linkTypes)
    (owner : n.owner = (b.site.types i).ownerOf n.object) (kind : n.event = .created) :
    b.site.index.Bare ((b.site.types i).ownerOf n.object) := by
  have pending := pending_of_deliverable deliverable
  rw [owner] at pending
  obtain ⟨start, trace, bare⟩ := inStep.traced i registered n.object.id
  obtain ⟨middle, first, -⟩ := Traces.uncons (pending ▸ trace)
  cases first with
  | created _ => exact bare rfl
  | updated other => exact absurd (kind.symm.trans other) (by decide)
  | deleted other => exact absurd (kind.symm.trans other) (by decide)

/-- Behind a delivered event the trace of its object goes on from where the event leads: from
nothing only if the event has taken the rows away. -/
theorem InStep.traced_deliver (inStep : b.InStep) (deliverable : b.Deliverable before n after)
    (registered : i ∈ b.site.registry.linkTypes)
    (owner : n.owner = (b.site.types i).ownerOf n.object)
    (given : Index.Reassigned ((b.site.types i).ownerOf n.object)
      (n.event.keysLeft (b.site.types i) n.object ((b.site.sources i).indexable? n.object.id))
      b.site.index jx)
    (listed : j ∈ b.site.registry.linkTypes) (id : Nat) :
    ∃ start, Traces start
        (pending ⟨{ b.site with index := jx }, before ++ after⟩ ⟨(b.site.types j).contentType, id⟩)
        ((b.site.sources j).get? id) ∧
      (start = none → jx.Bare ⟨(b.site.types j).contentType, id⟩) := by
  by_cases same : (b.site.types i).ownerOf n.object = ⟨(b.site.types j).contentType, id⟩
  · obtain ⟨rfl, rfl⟩ := inStep.eq_of_owner registered listed same
    have pending := pending_of_deliverable deliverable
    have left := pending_after_own { b.site with index := jx } deliverable
    rw [owner] at pending left
    obtain ⟨_, trace, -⟩ := inStep.traced j listed n.object.id
    obtain ⟨middle, first, rest⟩ := Traces.uncons (pending ▸ trace)
    refine ⟨middle, left ▸ rest, ?_⟩
    rintro rfl r mem own
    cases first with
    | deleted kind =>
        rw [given.own own, kind] at mem
        exact List.not_mem_nil mem
  · obtain ⟨start, trace, bare⟩ := inStep.traced j listed id
    have waiting := pending_after_other { b.site with index := jx } deliverable (owner ▸ same)
    refine ⟨start, waiting ▸ trace, fun none r mem own => ?_⟩
    rw [given.other fun back => same (back.symm.trans own)] at mem
    exact bare none r mem own

/-- If the delivered event was the last of its object, it leaves the keys of what the id leads
to. -/
theorem InStep.settled_deliver (inStep : b.InStep) (deliverable : b.Deliverable before n after)
    (registered : i ∈ b.site.registry.linkTypes)
    (owner : n.owner = (b.site.types i).ownerOf n.object)
    (given : Index.Reassigned ((b.site.types i).ownerOf n.object)
      (n.event.keysLeft (b.site.types i) n.object ((b.site.sources i).indexable? n.object.id))
      b.site.index jx)
    (listed : j ∈ b.site.registry.linkTypes) (id : Nat)
    (idle : pending ⟨{ b.site with index := jx }, before ++ after⟩
      ⟨(b.site.types j).contentType, id⟩ = [])
    (key : String) :
    (⟨key, ⟨(b.site.types j).contentType, id⟩⟩ : Row) ∈ jx ↔
      ∃ o, (b.site.sources j).indexable? id = some o ∧ key ∈ (b.site.types j).searchKeys o := by
  by_cases same : (b.site.types i).ownerOf n.object = ⟨(b.site.types j).contentType, id⟩
  · obtain ⟨rfl, rfl⟩ := inStep.eq_of_owner registered listed same
    have pending := pending_of_deliverable deliverable
    have left := pending_after_own { b.site with index := jx } deliverable
    rw [owner] at pending left
    obtain ⟨_, trace, -⟩ := inStep.traced j listed n.object.id
    obtain ⟨middle, first, rest⟩ := Traces.uncons (pending ▸ trace)
    rw [left.symm.trans idle] at rest
    cases rest
    rw [given.own rfl]
    exact Event.mem_keysLeft_of_leads first key
  · have waiting := pending_after_other { b.site with index := jx } deliverable (owner ▸ same)
    rw [given.other fun back => same back.symm]
    exact inStep.settled j listed id (waiting.symm.trans idle) key

/-- **A deliverable event is delivered, and that keeps the invariant.** -/
theorem InStep.deliver (inStep : b.InStep) (deliverable : b.Deliverable before n after) :
    ∃ site written, b.site.notify n.contentType n.object n.event = .ok (site, written) ∧
      InStep ⟨site, before ++ after⟩ := by
  have waits : n ∈ b.waiting := by simp [deliverable.1]
  obtain ⟨i, registered, type⟩ := inStep.noticesRegistered n waits
  have owner : n.owner = (b.site.types i).ownerOf n.object := by
    rw [Notice.owner, ← type]
    rfl
  obtain ⟨jx, applied, well, given⟩ := Index.afterEvent_ok n.event inStep.well
    (inStep.bare_of_created deliverable registered owner)
  have delivered : b.site.notify n.contentType n.object n.event =
      .ok ({ b.site with index := jx }, (n.event.keysLeft (b.site.types i) n.object
        ((b.site.sources i).indexable? n.object.id)).length) := by
    rw [← type, Site.notify_of_mem inStep.reached registered, applied]
    rfl
  refine ⟨_, _, delivered, inStep.reached, inStep.scopeOnly, well, ?rows, ?notices, ?traced,
    ?settled⟩
  case rows =>
    intro r mem
    rcases (given r).mp mem with ⟨own, -⟩ | ⟨old, -⟩
    · exact ⟨i, registered, by rw [own]; rfl⟩
    · exact inStep.rowsRegistered r old
  case notices =>
    intro m mem
    refine inStep.noticesRegistered m ?_
    rw [deliverable.1]
    rcases List.mem_append.mp mem with early | late
    · simp [early]
    · simp [late]
  case traced =>
    exact fun _ listed => inStep.traced_deliver deliverable registered owner given listed
  case settled =>
    exact fun _ listed => inStep.settled_deliver deliverable registered owner given listed

end Deliver

/-! ## Runs -/

theorem InStep.rebuilt {s : Site ι} (reached : s.registry.Reachable s.types)
    (scopeOnly : ∀ i ∈ s.registry.linkTypes, (s.sources i).indexesScopeOnly = true) :
    (rebuilt s).InStep := by
  obtain ⟨-, well, rows⟩ := Site.rebuild_ok reached
  have due : ∀ i ∈ s.registry.linkTypes, ∀ id key,
      (⟨key, ⟨(s.types i).contentType, id⟩⟩ : Row) ∈ s.rebuild.index ↔
        ∃ o, (s.sources i).indexable? id = some o ∧ key ∈ (s.types i).searchKeys o := by
    intro i mem id key
    rw [rows]
    exact Site.rowDue_iff_indexable reached mem (scopeOnly i mem)
  constructor
  · exact reached
  · exact scopeOnly
  · exact well
  · intro r mem
    obtain ⟨i, registered, o, -, owner, -⟩ := (rows r).mp mem
    exact ⟨i, registered, by rw [owner]; rfl⟩
  · simp [Backlog.rebuilt]
  · intro i mem id
    refine ⟨(s.sources i).get? id, .nil _, fun none r row own => ?_⟩
    obtain ⟨key, owner⟩ := r
    cases own
    obtain ⟨o, indexed, -⟩ := (due i mem id key).mp row
    rw [Source.indexable?, none] at indexed
    cases indexed
  · intro i mem id _ key
    exact due i mem id key

theorem InStep.insert (inStep : b.InStep) {i : ι} (registered : i ∈ b.site.registry.linkTypes)
    (o : Item) : (b.insert i o).InStep := by
  have inserted : ((b.site.sources i).insert o).get? o.id = some o := by simp [Source.get?_insert]
  have others : ∀ id ≠ o.id, ((b.site.sources i).insert o).get? id = (b.site.sources i).get? id :=
    fun id other => by rw [Source.get?_insert, if_neg other]
  cases found : (b.site.sources i).get? o.id with
  | none =>
      simp only [Backlog.insert, found]
      refine inStep.change registered ?_ others Source.inScope_insert Source.indexesScopeOnly_insert
      rw [found, inserted]
      exact .created rfl
  | some old =>
      simp only [Backlog.insert, found]
      refine inStep.change registered ?_ others Source.inScope_insert Source.indexesScopeOnly_insert
      rw [found, inserted]
      exact .updated rfl old

theorem InStep.remove (inStep : b.InStep) {i : ι} (registered : i ∈ b.site.registry.linkTypes)
    (id : Nat) : (b.remove i id).InStep := by
  cases found : (b.site.sources i).get? id with
  | none =>
      simp only [Backlog.remove, found]
      exact inStep
  | some o =>
      obtain rfl : o.id = id := (Source.get?_eq_some_iff.mp found).2
      simp only [Backlog.remove, found]
      refine inStep.change registered ?_ ?_ Source.inScope_erase Source.indexesScopeOnly_erase
      · rw [found, Source.get?_erase, if_pos rfl]
        exact .deleted rfl o
      · intro id other
        rw [Source.get?_erase, if_neg other]

theorem InStep.step {c : Backlog ι} (inStep : b.InStep) (step : b.Step c) : c.InStep := by
  cases step with
  | insert registered o => exact inStep.insert registered o
  | remove registered id => exact inStep.remove registered id
  | deliver deliverable delivered =>
      obtain ⟨site, written, ok, next⟩ := inStep.deliver deliverable
      cases ok.symm.trans delivered
      exact next

theorem InStep.run {c : Backlog ι} (inStep : b.InStep) (run : b.Run c) : c.InStep := by
  induction run with
  | refl => exact inStep
  | tail _ step ih => exact ih.step step

/-- Where nothing waits, the index holds the rows that are due. -/
theorem InStep.rows_of_idle (inStep : b.InStep) (idle : b.waiting = []) (r : Row) :
    r ∈ b.site.index ↔ b.site.RowDue r := by
  have rows : ∀ i ∈ b.site.registry.linkTypes, ∀ id key,
      (⟨key, ⟨(b.site.types i).contentType, id⟩⟩ : Row) ∈ b.site.index ↔
        b.site.RowDue ⟨key, ⟨(b.site.types i).contentType, id⟩⟩ := by
    intro i mem id key
    rw [Site.rowDue_iff_indexable inStep.reached mem (inStep.scopeOnly i mem)]
    exact inStep.settled i mem id (by simp [pending, idle]) key
  obtain ⟨key, type, id⟩ := r
  constructor
  · intro row
    obtain ⟨i, registered, rfl⟩ := inStep.rowsRegistered _ row
    exact (rows i registered id key).mp row
  · intro due
    have asked := due
    obtain ⟨i, registered, o, -, owner, -⟩ := asked
    cases owner
    exact (rows i registered o.id key).mpr due

/-- **Events that are delivered late keep the index in step.**  After a rebuild, however changes of
the objects and deliveries take turns, every deliverable event is delivered without an error, and
whenever nothing waits the index holds exactly the rows that are due, as after a new rebuild. -/
theorem delivery_keeps_index {s : Site ι} (reached : s.registry.Reachable s.types)
    (scopeOnly : ∀ i ∈ s.registry.linkTypes, (s.sources i).indexesScopeOnly = true) :
    (∃ tally, s.rebuild.result = .ok tally) ∧
      ∀ b : Backlog ι, (rebuilt s).Run b →
        (∀ before n after, b.Deliverable before n after →
          ∃ site written, b.site.notify n.contentType n.object n.event = .ok (site, written)) ∧
        (b.waiting = [] →
          (∀ r, r ∈ b.site.index ↔ b.site.RowDue r) ∧ b.site.index = b.site.rebuild.index) := by
  refine ⟨⟨_, (Site.rebuild_ok reached).1⟩, fun b run => ?_⟩
  have inStep : b.InStep := (InStep.rebuilt reached scopeOnly).run run
  constructor
  · intro before n after deliverable
    obtain ⟨site, written, ok, -⟩ := inStep.deliver deliverable
    exact ⟨site, written, ok⟩
  · intro idle
    obtain ⟨-, well, due⟩ := Site.rebuild_ok inStep.reached
    have rows := inStep.rows_of_idle idle
    refine ⟨rows, inStep.well.ext well fun r => ?_⟩
    rw [rows, due]

/-- A film added and renamed, and another removed in between. -/
def renamed : Backlog Unit :=
  (((rebuilt films).insert () (film 3 "Alien")).remove () 1).insert () (film 3 "Aliens")

/-- The site of `renamed` with given rows, in the orders of the two tables. -/
def renamedWith (byKey byOwner : List Row) (waiting : List Notice) : Backlog Unit where
  site := { renamed.site with index := ⟨byKey, byOwner⟩ }
  waiting := waiting

/-- The removal is delivered first, and the first title of the new film when it has another. -/
theorem delivery_keeps_index_renamed :
    films.registry.Reachable films.types ∧
      (∀ i ∈ films.registry.linkTypes, (films.sources i).indexesScopeOnly = true) ∧
      ∃ b : Backlog Unit, (rebuilt films).Run b ∧ b.waiting = [] ∧
        b.site.index.byKey = [⟨"aliens", "movie", 3⟩, ⟨"madmax2", "movie", 2⟩] ∧
        b.site.index = b.site.rebuild.index := by
  let added : Notice := ⟨"movie", film 3 "Alien", .created⟩
  let changed : Notice := ⟨"movie", film 3 "Aliens", .updated⟩
  let old : Row := ⟨"madmax2", "movie", 2⟩
  let stale : Row := ⟨"alien", "movie", 3⟩
  let new : Row := ⟨"aliens", "movie", 3⟩
  have registered : () ∈ films.registry.linkTypes := by decide
  have queued : (rebuilt films).Run renamed :=
    ((Relation.ReflTransGen.single (.insert registered _)).tail (.remove registered _)).tail
      (.insert registered _)
  have first : Step renamed (renamedWith [old] [old] [added, changed]) :=
    step_of_afterEvent [added] (film 1 "Mad Max") .deleted 0 reachable_films registered
      ⟨rfl, by decide⟩ (by decide)
  have second : Step (renamedWith [old] [old] [added, changed])
      (renamedWith [stale, old] [old, stale] [changed]) :=
    step_of_afterEvent [] (film 3 "Alien") .created 1 reachable_films registered
      ⟨rfl, by simp⟩ (by decide)
  have third : Step (renamedWith [stale, old] [old, stale] [changed])
      (renamedWith [new, old] [old, new] []) :=
    step_of_afterEvent [] (film 3 "Aliens") .updated 1 reachable_films registered
      ⟨rfl, by simp⟩ (by decide)
  have run := ((queued.tail first).tail second).tail third
  have scopeOnly : ∀ i ∈ films.registry.linkTypes, (films.sources i).indexesScopeOnly = true :=
    fun _ _ => rfl
  have idle := ((delivery_keeps_index reachable_films scopeOnly).2 _ run).2 rfl
  exact ⟨reachable_films, scopeOnly, _, run, rfl, rfl, idle.2⟩

end Backlog

end Wikilink
