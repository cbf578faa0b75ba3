/-
# Proofs.Index.Clash -- when an insertion is refused

An insertion writes its keys one after the other and fails at the first that the owner
has already.  Nothing is left of the keys before it, since a failure leaves no index.
So an insertion is decided beforehand: it fails exactly if one of its keys clashes
(`clash?`), with the least of those that do (`insertFor_of_clash`), and otherwise
it adds all of them, each in a row that was not there
(`insertFor_of_clashless`).
-/
import Wikilink.Proofs.Index.Tables

namespace Wikilink.Index

set_option autoImplicit false

/-- The first of the keys that the owner has already. -/
def clash? (ix : Index) (owner : Owner) (keys : List String) : Option String :=
  keys.find? fun key => decide ((⟨key, owner⟩ : Row) ∈ ix.byKey)

variable {ix jx : Index} {owner : Owner} {key : String} {keys texts : List String}

theorem clash?_eq_none_iff :
    ix.clash? owner keys = none ↔ ∀ key ∈ keys, (⟨key, owner⟩ : Row) ∉ ix := by
  simp [clash?, mem_def]

theorem clash?_eq_some_iff :
    ix.clash? owner keys = some key ↔
      (⟨key, owner⟩ : Row) ∈ ix ∧ ∃ front back, keys = front ++ key :: back ∧
        ∀ k ∈ front, (⟨k, owner⟩ : Row) ∉ ix := by
  rw [clash?, List.find?_eq_some_iff_append]
  simp [mem_def]

theorem exists_clash_iff :
    (∃ key, ix.clash? owner keys = some key) ↔ ∃ key ∈ keys, (⟨key, owner⟩ : Row) ∈ ix := by
  rw [← Option.isSome_iff_exists, clash?, List.find?_isSome]
  simp [mem_def]

theorem insertRow_of_mem {row : Row} (stored : row ∈ ix) :
    ix.insertRow row = .error (.duplicateRow row.key row.owner.contentType row.owner.id) :=
  if_pos stored

/-- **Keys that clash are refused**, by the first that does. -/
theorem insertKeys_of_clash (well : ix.WellFormed) (distinct : keys.Nodup)
    (keyed : ∀ key ∈ keys, key ≠ "" ∧ searchKey key = key)
    (clash : ix.clash? owner keys = some key) :
    ix.insertKeys owner keys = .error (.duplicateRow key owner.contentType owner.id) := by
  obtain ⟨stored, front, back, rfl, fresh⟩ := clash?_eq_some_iff.mp clash
  have distinctFront : front.Nodup := (List.nodup_append.mp distinct).1
  obtain ⟨jx, inserted, -, memJ⟩ :=
    insertKeys_of_fresh well distinctFront (fun k mem => keyed k (by simp [mem])) fresh
  -- The keys in front do not make room for the one that clashes.
  have still : (⟨key, owner⟩ : Row) ∈ jx := (memJ _).mpr (Or.inr stored)
  have first : front.foldlM (fun ix key => ix.insertRow ⟨key, owner⟩) ix = .ok jx := inserted
  rw [insertKeys, List.foldlM_append, first]
  show (key :: back).foldlM (fun ix key => ix.insertRow ⟨key, owner⟩) jx = _
  rw [List.foldlM_cons, insertRow_of_mem still]
  rfl

/-! ## Insertion -/

/-- **An insertion is refused** for the least key that the owner has already. -/
theorem insertFor_of_clash (well : ix.WellFormed)
    (clash : ix.clash? owner (storedKeys texts) = some key) :
    ix.insertFor owner texts = .error (.duplicateRow key owner.contentType owner.id) :=
  insertKeys_of_clash well (nodup_storedKeys texts) (keyed_storedKeys texts) clash

/-- The second index has the rows of the first, and the owner under the keys as well. -/
def Extended (owner : Owner) (keys : List String) (ix jx : Index) : Prop :=
  ∀ r, r ∈ jx ↔ (r.owner = owner ∧ r.key ∈ keys) ∨ r ∈ ix

theorem Extended.own (given : Extended owner keys ix jx) :
    (⟨key, owner⟩ : Row) ∈ jx ↔ key ∈ keys ∨ (⟨key, owner⟩ : Row) ∈ ix := by
  simp [given ⟨key, owner⟩]

theorem Extended.other (given : Extended owner keys ix jx) {r : Row} (other : r.owner ≠ owner) :
    r ∈ jx ↔ r ∈ ix := by
  simp [given r, other]

/-- **Without a clash, an insertion adds its keys** and changes nothing else. -/
theorem insertFor_of_clashless (well : ix.WellFormed)
    (clashless : ix.clash? owner (storedKeys texts) = none) :
    ∃ jx, ix.insertFor owner texts = .ok jx ∧ jx.WellFormed ∧
      Extended owner (storedKeys texts) ix jx :=
  insertKeys_of_fresh well (nodup_storedKeys texts) (keyed_storedKeys texts)
    (clash?_eq_none_iff.mp clashless)

end Wikilink.Index
