/-
# Proofs.SearchKey.Projection -- search keys are a projection

Making the search key of a text takes three steps: each character is lower-cased, the
characters that a key does not admit are dropped, and the rest is cut.  None of them
does anything to a text that is *normal*, so a text is the search key of some text
exactly if it is normal (`exists_searchKey_eq_iff`), and is then its own.

A text can therefore be replaced by its search key wherever a search key is made of it:
by the caller of a search (`findObject_searchKey`), by the link type that lists the keys
of an object (`storedKeys_searchKeys`) and by the index (`storedKeys_map_searchKey`).
-/
import Wikilink.Index.Search
import Wikilink.LinkType.Basic
import Wikilink.Proofs.SearchKey

namespace Wikilink

set_option autoImplicit false

/-! ## The key alphabet -/

namespace SearchKey

/-- A text is the search key of some text exactly if it is normal. -/
theorem exists_ofChars_eq_iff {key : List Char} :
    (∃ text, ofChars text = key) ↔ Normal key := by
  constructor
  · rintro ⟨text, rfl⟩
    exact normal_ofChars text
  · intro normal
    exact ⟨key, ofChars_of_normal normal⟩

theorem admits_iff {c : Char} : admits c = true ↔ Text.isAlphanumeric c = true ∨ c = '_' := by
  simp [admits]

theorem normal_iff {key : List Char} :
    Normal key ↔ key.length ≤ 300 ∧
      ∀ c ∈ key, (Text.isAlphanumeric c = true ∨ c = '_') ∧ Text.lower c = [c] := by
  constructor
  · rintro ⟨short, admitted, lowered⟩
    exact ⟨short, fun c mem => ⟨admits_iff.mp (admitted c mem), lowered c mem⟩⟩
  · rintro ⟨short, alphabet⟩
    exact ⟨short, fun c mem => admits_iff.mpr (alphabet c mem).1, fun c mem => (alphabet c mem).2⟩

end SearchKey

theorem exists_searchKey_eq_iff {key : String} :
    (∃ text, searchKey text = key) ↔ SearchKey.Normal key.toList := by
  rw [← SearchKey.exists_ofChars_eq_iff]
  constructor
  · rintro ⟨text, rfl⟩
    exact ⟨text.toList, by rw [searchKey, String.toList_ofList]⟩
  · rintro ⟨text, made⟩
    refine ⟨String.ofList text, ?_⟩
    rw [searchKey, String.toList_ofList, made, String.ofList_toList]

/-! ## Keys in place of texts -/

namespace Index

variable (ix : Index)

theorem lookup_searchKey (text contentType : String) :
    ix.lookup (searchKey text) contentType = ix.lookup text contentType := by
  simp only [lookup, searchKey_searchKey]

theorem lookupPrefix_searchKey (text contentType : String) :
    ix.lookupPrefix (searchKey text) contentType = ix.lookupPrefix text contentType := by
  simp only [lookupPrefix, searchKey_searchKey]

theorem findObject_searchKey (text contentType : String) :
    ix.findObject (searchKey text) contentType = ix.findObject text contentType := by
  rw [findObject, lookup_searchKey, lookupPrefix_searchKey, findObject]

/-- What is stored for search keys is what is stored for the texts that they are made of. -/
theorem storedKeys_map_searchKey (texts : List String) :
    storedKeys (texts.map searchKey) = storedKeys texts := by
  have again : (texts.map searchKey).map searchKey = texts.map searchKey := by
    rw [List.map_map]
    exact List.map_congr_left fun text _ => searchKey_searchKey text
  rw [storedKeys, again, storedKeys]

end Index

/-- The index stores the search keys that a link type lists as they are. -/
theorem LinkType.storedKeys_searchKeys (t : LinkType) (o : Item) :
    Index.storedKeys (t.searchKeys o) = t.searchKeys o :=
  Index.storedKeys_storedKeys (t.textsOf o)

/-- **Search keys are a projection onto the key alphabet.**  The search key of a search key is the
key itself.  A text is the search key of some text exactly if it has at most 300 characters, each
alphanumeric or an underscore and its own lower-case form.  So a key that the caller has made, that
a link type has listed or that neither has is the same key for the index. -/
theorem searchKey_projects :
    (∀ text, searchKey (searchKey text) = searchKey text) ∧
    (∀ key, (∃ text, searchKey text = key) ↔ key.toList.length ≤ 300 ∧
      ∀ c ∈ key.toList, (Text.isAlphanumeric c = true ∨ c = '_') ∧ Text.lower c = [c]) ∧
    (∀ texts, Index.storedKeys (texts.map searchKey) = Index.storedKeys texts) ∧
    (∀ (t : LinkType) o, Index.storedKeys (t.searchKeys o) = Index.storedKeys (t.textsOf o)) ∧
    ∀ (ix : Index) text contentType,
      ix.lookup (searchKey text) contentType = ix.lookup text contentType ∧
      ix.lookupPrefix (searchKey text) contentType = ix.lookupPrefix text contentType ∧
      ix.findObject (searchKey text) contentType = ix.findObject text contentType := by
  refine ⟨searchKey_searchKey, fun key => ?_, Index.storedKeys_map_searchKey,
    LinkType.storedKeys_searchKeys, fun ix text contentType => ⟨?_, ?_, ?_⟩⟩
  · rw [exists_searchKey_eq_iff, SearchKey.normal_iff]
  · exact ix.lookup_searchKey text contentType
  · exact ix.lookupPrefix_searchKey text contentType
  · exact ix.findObject_searchKey text contentType

/-- The dot that lower-casing brings in is dropped, so the key is normal. -/
example : searchKey "İstanbul No. 1" = "istanbulno1" := by decide

end Wikilink
