/-
# Proofs.Text.Html -- what escaping does to a text

An escaped text has no angle bracket and no quote (`not_isMarkup_of_mem_escapeHtml`),
and an ampersand in it is where an entity starts (`entity_of_ampersand`).  An entity
has its ampersand in front and nowhere else (`exists_tail_of_entity?`), so wherever
an ampersand of an escaped text is met, all of the entity is there.  Reading the
entities one after the other gives the text again (`unescape_escapeHtml`), also where
the text itself looks like an entity.
-/
import Wikilink.Proofs.Text.Scan
import Wikilink.Text.Html

namespace Wikilink.Text

set_option autoImplicit false

/-- The characters of tags and of the ends of attribute values. -/
def isMarkup (c : Char) : Bool :=
  c = '<' || c = '>' || c = '"' || c = '\x27'

/-- What the five characters are written as. -/
def entities : List String :=
  ["&amp;", "&lt;", "&gt;", "&quot;", "&#x27;"]

/-- The text with its entities read, from left to right. -/
def unescape : List Char → List Char
  | '&' :: 'a' :: 'm' :: 'p' :: ';' :: cs => '&' :: unescape cs
  | '&' :: 'l' :: 't' :: ';' :: cs => '<' :: unescape cs
  | '&' :: 'g' :: 't' :: ';' :: cs => '>' :: unescape cs
  | '&' :: 'q' :: 'u' :: 'o' :: 't' :: ';' :: cs => '"' :: unescape cs
  | '&' :: '#' :: 'x' :: '2' :: '7' :: ';' :: cs => '\x27' :: unescape cs
  | c :: cs => c :: unescape cs
  | [] => []

/-! ## One character -/

variable {c d : Char} {e : String}

theorem mem_entities_of_entity? (written : entity? c = some e) : e ∈ entities := by
  unfold entity? at written
  split at written <;> cases written <;> simp [entities]

/-- The ampersand of an entity is its first character, and none of it is markup. -/
theorem exists_tail_of_entity? (written : entity? c = some e) :
    ∃ tail, e.toList = '&' :: tail ∧ '&' ∉ tail ∧ ∀ d ∈ tail, isMarkup d = false := by
  have clean {tail : List Char} (all : tail.all (fun d => !isMarkup d) = true) :
      ∀ d ∈ tail, isMarkup d = false :=
    fun d mem => by simpa using List.all_eq_true.mp all d mem
  unfold entity? at written
  split at written <;> cases written <;> exact ⟨_, rfl, by decide, clean (by decide)⟩

/-- Only characters that stay themselves are without an entity. -/
theorem of_entity?_eq_none (plain : entity? c = none) : c ≠ '&' ∧ isMarkup c = false := by
  unfold entity? at plain
  split at plain <;> cases plain
  simp_all [isMarkup]

/-- A character is written as its entity, or stays itself. -/
theorem escapeChar_cases (c : Char) :
    (∃ e, entity? c = some e ∧ escapeChar c = e.toList) ∨
      c ≠ '&' ∧ isMarkup c = false ∧ escapeChar c = [c] := by
  cases written : entity? c with
  | some e => exact Or.inl ⟨e, rfl, by rw [escapeChar, written]; rfl⟩
  | none =>
      obtain ⟨other, plain⟩ := of_entity?_eq_none written
      exact Or.inr ⟨other, plain, by rw [escapeChar, written]; rfl⟩

theorem not_isMarkup_of_mem_escapeChar (mem : d ∈ escapeChar c) : isMarkup d = false := by
  rcases escapeChar_cases c with ⟨e, written, whole⟩ | ⟨-, plain, whole⟩
  · obtain ⟨tail, ampersand, -, inside⟩ := exists_tail_of_entity? written
    rw [whole, ampersand] at mem
    rcases List.mem_cons.mp mem with rfl | mem
    · decide
    · exact inside d mem
  · rw [whole, List.mem_singleton] at mem
    exact mem ▸ plain

theorem unescape_cons (other : c ≠ '&') (s : List Char) :
    unescape (c :: s) = c :: unescape s := by
  rw [unescape]
  all_goals
    rintro _ rfl
    exact absurd rfl other

/-- The entity of a character is read as the character. -/
theorem unescape_escapeChar_append (c : Char) (s : List Char) :
    unescape (escapeChar c ++ s) = c :: unescape s := by
  rcases escapeChar_cases c with ⟨e, written, whole⟩ | ⟨other, -, whole⟩
  · rw [whole]
    unfold entity? at written
    split at written <;> cases written <;> rfl
  · rw [whole]
    exact unescape_cons other s

/-! ## Texts -/

theorem toList_escapeHtml (s : String) :
    (escapeHtml s).toList = s.toList.flatMap escapeChar := by
  rw [escapeHtml, String.toList_ofList]

/-- No markup is left. -/
theorem not_isMarkup_of_mem_escapeHtml {s : String} (mem : d ∈ (escapeHtml s).toList) :
    isMarkup d = false := by
  rw [toList_escapeHtml] at mem
  obtain ⟨c, -, inside⟩ := List.mem_flatMap.mp mem
  exact not_isMarkup_of_mem_escapeChar inside

/-- **An ampersand starts an entity.** -/
theorem entity_of_ampersand {s front back : List Char}
    (whole : s.flatMap escapeChar = front ++ '&' :: back) :
    ∃ e ∈ entities, e.toList <+: '&' :: back := by
  induction s generalizing front with
  | nil => exact absurd whole (by simp)
  | cons c s ih =>
      rw [List.flatMap_cons] at whole
      rcases behind_or_inside whole with ⟨front, rfl, rest⟩ | ⟨d, more, inside⟩
      · exact ih rest
      -- An ampersand among the characters that one is written as is their first.
      · rw [inside, List.append_assoc, List.append_cancel_left_eq, List.cons_append] at whole
        obtain ⟨rfl, rfl⟩ := List.cons.inj whole
        rcases escapeChar_cases c with ⟨e, written, named⟩ | ⟨other, -, same⟩
        · obtain ⟨tail, ampersand, once, -⟩ := exists_tail_of_entity? written
          rw [named, ampersand] at inside
          cases front with
          | nil =>
              obtain ⟨-, rfl⟩ := List.cons.inj inside
              have front : e.toList <+: '&' :: (tail ++ s.flatMap escapeChar) := by
                rw [ampersand]
                exact List.prefix_append _ _
              exact ⟨e, mem_entities_of_entity? written, front⟩
          | cons d front =>
              obtain ⟨-, rfl⟩ := List.cons.inj inside
              exact absurd (by simp) once
        · rw [same] at inside
          cases front with
          | nil => exact absurd (List.cons.inj inside).1 other
          | cons d front => simp at inside

/-- **Reading the entities gives the text again.** -/
theorem unescape_flatMap_escapeChar (s : List Char) :
    unescape (s.flatMap escapeChar) = s := by
  induction s with
  | nil => rfl
  | cons c s ih => rw [List.flatMap_cons, unescape_escapeChar_append, ih]

theorem unescape_escapeHtml (s : String) : unescape (escapeHtml s).toList = s.toList := by
  rw [toList_escapeHtml, unescape_flatMap_escapeChar]

/-- An entity in the text is escaped like any other. -/
example : escapeHtml "a &lt; <b>" = "a &amp;lt; &lt;b&gt;" := by decide

end Wikilink.Text
