/-
# Proofs.SearchKey -- search keys are normal forms

A search key is *normal*: short, of admitted characters, each of them its own
lower-case form.  A normal text is its own search key, so making a search key twice
changes nothing (`searchKey_searchKey`), whoever makes it, and the keys that an
index stores for a list of keys are those keys (`storedKeys_storedKeys`).
-/
import Mathlib.Data.String.Basic
import Wikilink.Index.Basic
import Wikilink.Proofs.Ascending
import Wikilink.Proofs.LowerCase

namespace Wikilink

set_option autoImplicit false

/-! ## Normal texts -/

namespace SearchKey

/-- A text of at most 300 admitted characters, each its own lower-case form. -/
structure Normal (key : List Char) : Prop where
  short : key.length ≤ maxLength
  admitted : ∀ c ∈ key, admits c = true
  lowered : ∀ c ∈ key, Text.lower c = [c]

theorem normal_ofChars (text : List Char) : Normal (ofChars text) where
  short := by simp [ofChars]
  admitted c mem := (List.mem_filter.mp (List.mem_of_mem_take mem)).2
  lowered c mem := by
    have mapped := (List.mem_filter.mp (List.mem_of_mem_take mem)).1
    obtain ⟨d, -, lowered⟩ := List.mem_flatMap.mp mapped
    exact Text.lower_of_mem_lower lowered

theorem flatMap_lower_of_lowered {key : List Char} (lowered : ∀ c ∈ key, Text.lower c = [c]) :
    key.flatMap Text.lower = key := by
  induction key with
  | nil => rfl
  | cons c cs ih =>
      rw [List.flatMap_cons, lowered c (by simp), ih fun d mem => lowered d (by simp [mem])]
      rfl

theorem ofChars_of_normal {key : List Char} (normal : Normal key) : ofChars key = key := by
  have filtered : key.filter admits = key := List.filter_eq_self.mpr normal.admitted
  rw [ofChars, flatMap_lower_of_lowered normal.lowered, filtered,
    List.take_of_length_le normal.short]

end SearchKey

/-- **A search key is its own search key.** -/
theorem searchKey_searchKey (text : String) : searchKey (searchKey text) = searchKey text := by
  simp only [searchKey, String.toList_ofList]
  rw [SearchKey.ofChars_of_normal (SearchKey.normal_ofChars _)]

theorem length_searchKey_le (text : String) : (searchKey text).length ≤ SearchKey.maxLength := by
  rw [searchKey, String.length_ofList]
  exact (SearchKey.normal_ofChars text.toList).short

/-! ## Stored keys -/

namespace Index

theorem mem_storedKeys {key : String} {texts : List String} :
    key ∈ storedKeys texts ↔ key ≠ "" ∧ ∃ text ∈ texts, searchKey text = key := by
  rw [storedKeys, Ascending.mem_ofList]
  simp only [List.mem_filter, List.mem_map, decide_eq_true_eq]
  tauto

theorem nodup_storedKeys (texts : List String) : (storedKeys texts).Nodup :=
  Ascending.nodup (Ascending.ascending_ofList _)

theorem searchKey_of_mem_storedKeys {key : String} {texts : List String}
    (mem : key ∈ storedKeys texts) : searchKey key = key := by
  obtain ⟨-, text, -, rfl⟩ := mem_storedKeys.mp mem
  exact searchKey_searchKey text

theorem keyed_storedKeys (texts : List String) :
    ∀ key ∈ storedKeys texts, key ≠ "" ∧ searchKey key = key := by
  intro key mem
  exact ⟨(mem_storedKeys.mp mem).1, searchKey_of_mem_storedKeys mem⟩

/-- Keys made of keys are the same keys. -/
theorem storedKeys_storedKeys (texts : List String) :
    storedKeys (storedKeys texts) = storedKeys texts := by
  refine Ascending.eq_of_mem_iff (Ascending.ascending_ofList _) (Ascending.ascending_ofList _) ?_
  intro key
  constructor
  · intro mem
    obtain ⟨-, k, stored, same⟩ := mem_storedKeys.mp mem
    rw [searchKey_of_mem_storedKeys stored] at same
    exact same ▸ stored
  · intro mem
    exact mem_storedKeys.mpr
      ⟨(mem_storedKeys.mp mem).1, key, mem, searchKey_of_mem_storedKeys mem⟩

end Index

end Wikilink
