/-
# Content.Source -- the objects of a content type

A source holds objects by id and decides which of them are in scope, that is,
which may be listed and indexed.  An object out of scope can still be fetched.
-/
import Wikilink.Ascending
import Wikilink.Content.Value

namespace Wikilink

set_option autoImplicit false

/-- By id. -/
def Item.Before (a b : Item) : Prop :=
  a.id < b.id

instance : DecidableRel Item.Before :=
  fun _ _ => inferInstanceAs (Decidable (_ < _))

theorem Item.Before.trans {a b c : Item} (ab : a.Before b) (bc : b.Before c) : a.Before c :=
  Nat.lt_trans ab bc

theorem Item.Before.of_tie {a b c : Item} (_ : ¬ a.Before b) (ba : ¬ b.Before a)
    (bc : b.Before c) : a.Before c :=
  Nat.lt_of_le_of_lt (Nat.le_of_not_lt ba) bc

/-- The objects of one content type. -/
structure Source where
  /-- The objects in ascending order of their ids. -/
  objects : List Item := []
  /-- Which objects are listed. -/
  inScope : Item → Bool := fun _ => true
  /-- Whether only objects in scope are found for indexing; otherwise every object is. -/
  indexesScopeOnly : Bool := true
  /-- No two objects have one id. -/
  ascending : objects.Pairwise Item.Before := by exact List.Pairwise.nil

namespace Source

/-- Every object in scope, in ascending order of the ids. -/
def all (s : Source) : List Item :=
  s.objects.filter s.inScope

/-- The object of an id, in scope or not. -/
def get? (s : Source) (id : Nat) : Option Item :=
  s.objects.find? fun o => o.id = id

/-- The object of an id, if it may be indexed. -/
def indexable? (s : Source) (id : Nat) : Option Item :=
  (s.get? id).filter fun o => !s.indexesScopeOnly || s.inScope o

/-- The source with an object, in place of the one with its id. -/
def insert (s : Source) (o : Item) : Source :=
  { s with
    objects := Ascending.insert Item.Before o s.objects
    ascending := Ascending.pairwise_insert @Item.Before.trans @Item.Before.of_tie o s.ascending }

/-- The source without the object of an id. -/
def erase (s : Source) (id : Nat) : Source :=
  { s with
    objects := s.objects.filter fun o => o.id ≠ id
    ascending := s.ascending.filter _ }

end Source

end Wikilink
