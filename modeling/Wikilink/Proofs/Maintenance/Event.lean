/-
# Proofs.Maintenance.Event -- what one event does to the index

An event gives its object's owner the keys of the object as the event shows it, or
none, and touches no other owner (`afterEvent_ok`).  Which of the two it is depends
on the objects as they are now.  Only the creation of an object that has rows
already can fail.
-/
import Wikilink.Proofs.Index.Tables
import Wikilink.Proofs.Registry
import Wikilink.Site.Maintenance

namespace Wikilink

set_option autoImplicit false

/-- The owner of an object's rows. -/
def LinkType.ownerOf (t : LinkType) (o : Item) : Owner :=
  ⟨t.contentType, o.id⟩

/-- The keys that an event leaves to its object, given the object that may be indexed now. -/
def Event.keysLeft (event : Event) (t : LinkType) (o : Item) (current : Option Item) :
    List String :=
  match event, current with
  | .deleted, _ => []
  | _, none => []
  | _, some _ => t.searchKeys o

theorem Event.keysLeft_none (event : Event) (t : LinkType) (o : Item) :
    event.keysLeft t o none = [] := by
  cases event <;> rfl

namespace Index

variable {ix : Index} {t : LinkType} {source : Source} {o : Item}

/-- **An event of an object without rows, or that does not create it, succeeds**: its object has
the keys that the event leaves it, and every other row stays. -/
theorem afterEvent_ok (event : Event) (well : ix.WellFormed)
    (bare : event = .created → ix.Bare (t.ownerOf o)) :
    ∃ jx, ix.afterEvent t source o event =
        .ok (jx, (event.keysLeft t o (source.indexable? o.id)).length) ∧
      jx.WellFormed ∧
      Reassigned (t.ownerOf o) (event.keysLeft t o (source.indexable? o.id)) ix jx := by
  have keys : storedKeys (t.searchKeys o) = t.searchKeys o := storedKeys_storedKeys _
  cases event with
  | deleted =>
      refine ⟨_, ?_, wellFormed_deleteFor _ well, reassigned_deleteFor _ well⟩
      cases source.indexable? o.id <;> rfl
  | created =>
      cases current : source.indexable? o.id with
      | none =>
          refine ⟨ix, ?_, well, (bare rfl).reassigned⟩
          simp only [afterEvent, current]
          rfl
      | some p =>
          obtain ⟨jx, inserted, wellJ, given⟩ :=
            insertFor_of_bare (t.searchKeys o) well (bare rfl)
          rw [keys] at given
          refine ⟨jx, ?_, wellJ, given⟩
          simp only [LinkType.ownerOf] at inserted
          simp only [afterEvent, current, inserted]
          rfl
  | updated =>
      cases current : source.indexable? o.id with
      | none =>
          refine ⟨_, ?_, wellFormed_deleteFor _ well, reassigned_deleteFor _ well⟩
          simp only [afterEvent, current]
          rfl
      | some p =>
          obtain ⟨jx, replaced, wellJ, given⟩ :=
            replaceFor_ok (t.ownerOf o) (t.searchKeys o) well
          rw [keys] at given
          refine ⟨jx, ?_, wellJ, given⟩
          simp only [LinkType.ownerOf] at replaced
          simp only [afterEvent, current, replaced]
          rfl

end Index

/-! ## Notifications -/

/-- An event of a registered link type reaches that link type. -/
theorem Site.notify_of_mem {ι : Type} [DecidableEq ι] {s : Site ι} {i : ι}
    (reached : s.registry.Reachable s.types) (registered : i ∈ s.registry.linkTypes) (o : Item)
    (event : Event) :
    s.notify (s.types i).contentType o event =
      (s.index.afterEvent (s.types i) (s.sources i) o event).map fun (ix, written) =>
        ({ s with index := ix }, written) := by
  rw [notify, Registry.forContentType?_of_mem reached.separate registered]

end Wikilink
