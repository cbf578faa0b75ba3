/-
# Proofs.Maintenance.Backlog -- changes whose events wait

A backlog is a site with the events that were queued for it and not yet delivered.
Changing the objects of a registered link type queues an event; the index changes
only when an event is delivered.  Events may be delivered out of order, except that
the events of one object keep theirs.

The events that wait for one object say what happened under its id: each leads from
what the id led to before (`Notice.Leads`), and all of them together from some
earlier state to the present one (`Traces`).
-/
import Mathlib.Logic.Relation
import Wikilink.Proofs.Maintenance.Rebuild

namespace Wikilink

set_option autoImplicit false

/-! ## Notices -/

/-- An event that waits to be delivered, with the object as it was shown when it was queued. -/
structure Notice where
  contentType : String
  object : Item
  event : Event

namespace Notice

/-- The owner that the event is about. -/
def owner (n : Notice) : Owner :=
  ⟨n.contentType, n.object.id⟩

/-- The event tells of a change of what its object's id leads to. -/
inductive Leads (n : Notice) : Option Item → Option Item → Prop where
  | created (kind : n.event = .created) : Leads n none (some n.object)
  | updated (kind : n.event = .updated) (old : Item) : Leads n (some old) (some n.object)
  | deleted (kind : n.event = .deleted) (old : Item) : Leads n (some old) none

end Notice

/-- Events that tell, the oldest first, how what an id leads to changed. -/
inductive Traces : Option Item → List Notice → Option Item → Prop where
  | nil (x : Option Item) : Traces x [] x
  | cons {n : Notice} {ns : List Notice} {x y z : Option Item} (first : n.Leads x y)
      (rest : Traces y ns z) : Traces x (n :: ns) z

theorem Traces.uncons {x z : Option Item} {n : Notice} {ns : List Notice}
    (trace : Traces x (n :: ns) z) : ∃ y, n.Leads x y ∧ Traces y ns z := by
  cases trace with
  | cons first rest => exact ⟨_, first, rest⟩

theorem Traces.snoc {x y z : Option Item} {ns : List Notice} {n : Notice}
    (trace : Traces x ns y) (last : n.Leads y z) : Traces x (ns ++ [n]) z := by
  induction trace with
  | nil => exact .cons last (.nil z)
  | cons first _ ih => exact .cons first (ih last)

/-! ## Runs -/

/-- A site and the events that wait, the oldest first. -/
structure Backlog (ι : Type) where
  site : Site ι
  waiting : List Notice

namespace Backlog

variable {ι : Type}

/-! ## What waits for one owner -/

/-- The events that wait for one owner. -/
def pending (b : Backlog ι) (owner : Owner) : List Notice :=
  b.waiting.filter (·.owner = owner)

/-- The event behind `before` may be delivered: no earlier one is about its object. -/
def Deliverable (b : Backlog ι) (before : List Notice) (n : Notice) (after : List Notice) : Prop :=
  b.waiting = before ++ n :: after ∧ ∀ m ∈ before, m.owner ≠ n.owner

variable {b : Backlog ι} {before after : List Notice} {n : Notice} {owner : Owner}

theorem Deliverable.none_before (deliverable : b.Deliverable before n after) :
    before.filter (·.owner = n.owner) = [] := by
  refine List.filter_eq_nil_iff.mpr fun m mem => ?_
  simpa using deliverable.2 m mem

/-- A deliverable event is the first that waits for its owner. -/
theorem pending_of_deliverable (deliverable : b.Deliverable before n after) :
    b.pending n.owner = n :: after.filter (·.owner = n.owner) := by
  rw [pending, deliverable.1, List.filter_append, deliverable.none_before, List.nil_append,
    List.filter_cons_of_pos (by simp)]

theorem pending_after_own (site : Site ι) (deliverable : b.Deliverable before n after) :
    pending ⟨site, before ++ after⟩ n.owner = after.filter (·.owner = n.owner) := by
  rw [pending, List.filter_append, deliverable.none_before, List.nil_append]

theorem pending_after_other (site : Site ι) (deliverable : b.Deliverable before n after)
    (other : n.owner ≠ owner) : pending ⟨site, before ++ after⟩ owner = b.pending owner := by
  rw [pending, pending, deliverable.1, List.filter_append, List.filter_append,
    List.filter_cons_of_neg (by simpa using other)]

/-! ## Steps -/

variable [DecidableEq ι]

/-- Other objects of a link type, and an event that tells of the change. -/
def change (b : Backlog ι) (i : ι) (source : Source) (o : Item) (event : Event) : Backlog ι where
  site := b.site.withSource i source
  waiting := b.waiting ++ [⟨(b.site.types i).contentType, o, event⟩]

theorem sources_change (i : ι) (source : Source) (o : Item) (event : Event) (j : ι) :
    (b.change i source o event).site.sources j = if j = i then source else b.site.sources j :=
  rfl

/-- An object inserted, in place of the one with its id if there is one. -/
def insert (b : Backlog ι) (i : ι) (o : Item) : Backlog ι :=
  let source := b.site.sources i
  match source.get? o.id with
  | none => b.change i (source.insert o) o .created
  | some _ => b.change i (source.insert o) o .updated

/-- The object of an id removed; where there is none, nothing happens. -/
def remove (b : Backlog ι) (i : ι) (id : Nat) : Backlog ι :=
  let source := b.site.sources i
  match source.get? id with
  | none => b
  | some o => b.change i (source.erase id) o .deleted

/-- What may happen next. -/
inductive Step (b : Backlog ι) : Backlog ι → Prop where
  | insert {i : ι} (registered : i ∈ b.site.registry.linkTypes) (o : Item) :
      Step b (b.insert i o)
  | remove {i : ι} (registered : i ∈ b.site.registry.linkTypes) (id : Nat) :
      Step b (b.remove i id)
  | deliver {before after : List Notice} {n : Notice} {site : Site ι} {written : Nat}
      (deliverable : b.Deliverable before n after)
      (delivered : b.site.notify n.contentType n.object n.event = .ok (site, written)) :
      Step b ⟨site, before ++ after⟩

/-- Any number of steps. -/
abbrev Run : Backlog ι → Backlog ι → Prop :=
  Relation.ReflTransGen Step

/-- A site whose index was just rebuilt, with nothing waiting. -/
def rebuilt (s : Site ι) : Backlog ι where
  site := { s with index := s.rebuild.index }
  waiting := []

theorem step_of_afterEvent (before : List Notice) {i : ι} (o : Item) (event : Event) {jx : Index}
    (written : Nat)
    (reached : b.site.registry.Reachable b.site.types)
    (registered : i ∈ b.site.registry.linkTypes)
    (deliverable : b.Deliverable before ⟨(b.site.types i).contentType, o, event⟩ after)
    (applied : b.site.index.afterEvent (b.site.types i) (b.site.sources i) o event =
      .ok (jx, written)) :
    b.Step ⟨{ b.site with index := jx }, before ++ after⟩ := by
  refine @Step.deliver ι _ b _ _ _ _ written deliverable ?_
  rw [Site.notify_of_mem reached registered, applied]
  rfl

theorem pending_change_own (i : ι) (source : Source) (o : Item) (event : Event) :
    (b.change i source o event).pending ((b.site.types i).ownerOf o) =
      b.pending ((b.site.types i).ownerOf o) ++
        [⟨(b.site.types i).contentType, o, event⟩] := by
  simp [pending, change, Notice.owner, LinkType.ownerOf]

theorem pending_change_other {i : ι} {o : Item} (source : Source) (event : Event)
    (other : (b.site.types i).ownerOf o ≠ owner) :
    (b.change i source o event).pending owner = b.pending owner := by
  rw [pending, change, List.filter_append, List.filter_cons_of_neg, List.filter_nil,
    List.append_nil, pending]
  intro own
  exact other (of_decide_eq_true own)

end Backlog

end Wikilink
