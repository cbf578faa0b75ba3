/-
# Lookup -- none, one or several

A search that has to lead to one thing has three outcomes: nothing matched,
exactly one thing did, or more than one.
-/

namespace Wikilink

set_option autoImplicit false

/-- The outcome of a search for one thing. -/
inductive Lookup (α : Type) where
  | found (value : α)
  | notFound
  | ambiguous
  deriving DecidableEq, Repr

namespace Lookup

variable {α : Type}

/-- The outcome of a search with the given, distinct candidates. -/
def ofCandidates : List α → Lookup α
  | [] => notFound
  | [candidate] => found candidate
  | _ :: _ :: _ => ambiguous

/-- The first outcome, or the second if the first search matched nothing. -/
def orElse (first second : Lookup α) : Lookup α :=
  match first with
  | notFound => second
  | outcome => outcome

end Lookup

end Wikilink
