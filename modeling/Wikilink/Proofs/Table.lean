/-
# Proofs.Table -- what a table gives under a name

After an insertion a table gives the new value under its name, and under every other
name what it gave before (`find?_insert`).  So a table that is made from a list of
entries gives the last value that stands there under a name (`find?_ofList`).
-/
import Mathlib.Data.String.Basic
import Wikilink.Table

namespace Wikilink.Table

set_option autoImplicit false

variable {α : Type} {name other : String} {value : α} {t : Table α}

theorem find?_insert :
    find? (t.insert name value) other = if other = name then some value else find? t other := by
  induction t with
  | nil => exact find?_cons
  | cons y ys ih =>
      obtain ⟨key, old⟩ := y
      simp only [insert, Ascending.insert]
      split
      · exact find?_cons
      · split
        · rename_i notBefore after
          have later :
              find? (Ascending.insert (fun a b => a.1 < b.1) (name, value) ys) other = _ := ih
          rw [find?_cons, find?_cons, later]
          by_cases same : other = key
          · have apart : other ≠ name := by
              rintro rfl
              exact notBefore (same ▸ after)
            rw [if_pos same, if_neg apart, if_pos same]
          · rw [if_neg same, if_neg same]
        · rename_i notBefore notAfter
          have tie : name = key := le_antisymm (not_lt.mp notAfter) (not_lt.mp notBefore)
          rw [find?_cons, find?_cons, tie]
          split <;> rfl

/-- A name before all names of a table is not in it. -/
theorem find?_of_before (before : ∀ entry ∈ t, name < entry.1) : find? t name = none :=
  List.lookup_eq_none_iff.mpr fun entry mem => by simpa using ne_of_lt (before entry mem)

/-- **Of the entries under one name, the last one counts.** -/
theorem find?_ofList (entries : List (String × α)) (name : String) :
    (ofList entries).find? name = find? entries.reverse name := by
  rw [ofList, List.foldl_eq_foldr_reverse]
  induction entries.reverse with
  | nil => rfl
  | cons entry entries ih => rw [List.foldr_cons, find?_insert, find?_cons, ih]

end Wikilink.Table
