/-
# Proofs.Index.Version -- which texts are versions

A stored index states the version of its layout as text.  A version is a number in decimal
digits, with a plus sign allowed before it, below the limit (`version?_eq_some_iff`).  It
decides whether the index opens (`open?_of_numeral`).  A text that is no number, or too
large a one, does not keep the index closed (`open?_of_unread`).
-/
import Wikilink.Index.Stored

namespace Wikilink.StoredIndex

set_option autoImplicit false

/-! ## Numerals -/

/-- A text that writes a number: decimal digits, with a plus sign allowed before them. -/
def Numeral (text : String) (n : Nat) : Prop :=
  ∃ digits, (text.toList = digits ∨ text.toList = '+' :: digits) ∧ digits ≠ [] ∧
    (∀ c ∈ digits, c.isDigit = true) ∧ Nat.ofDigitChars 10 digits 0 = n

/-- A text without a plus sign before it. -/
def unsigned : List Char → List Char
  | '+' :: cs => cs
  | cs => cs

theorem eq_unsigned_or (s : List Char) : s = unsigned s ∨ s = '+' :: unsigned s := by
  unfold unsigned
  split
  · exact .inr rfl
  · exact .inl rfl

/-- A digit is no plus sign. -/
theorem unsigned_of_digits {s digits : List Char} (written : s = digits ∨ s = '+' :: digits)
    (decimal : ∀ c ∈ digits, c.isDigit = true) : unsigned s = digits := by
  rcases written with rfl | rfl
  · unfold unsigned
    split
    · exact absurd (decimal '+' (by simp)) (by decide)
    · rfl
  · rfl

/-- Whether there are digits, and only digits. -/
def isDecimal (digits : List Char) : Bool :=
  !digits.isEmpty && digits.all Char.isDigit

theorem isDecimal_iff {digits : List Char} :
    isDecimal digits = true ↔ digits ≠ [] ∧ ∀ c ∈ digits, c.isDigit = true := by
  simp [isDecimal]

theorem version?_eq (text : String) :
    version? text =
      if isDecimal (unsigned text.toList) then
        if Nat.ofDigitChars 10 (unsigned text.toList) 0 < versionLimit then
          some (Nat.ofDigitChars 10 (unsigned text.toList) 0)
        else none
      else none := by
  simp only [Nat.ofDigitChars, Nat.mul_comm 10]
  rfl

/-- **A version is a numeral below the limit.** -/
theorem version?_eq_some_iff {text : String} {n : Nat} :
    version? text = some n ↔ Numeral text n ∧ n < versionLimit := by
  rw [version?_eq]
  constructor
  · intro version
    split at version
    · rename_i digits
      obtain ⟨nonempty, decimal⟩ := isDecimal_iff.mp digits
      split at version
      · rename_i small
        cases version
        exact ⟨⟨_, eq_unsigned_or text.toList, nonempty, decimal, rfl⟩, small⟩
      · cases version
    · cases version
  · rintro ⟨⟨digits, written, nonempty, decimal, rfl⟩, small⟩
    rw [unsigned_of_digits written decimal, if_pos (isDecimal_iff.mpr ⟨nonempty, decimal⟩)]
    exact if_pos small

/-! ## Opening -/

variable {s : StoredIndex} {text : String} {n : Nat}

/-- An index whose version is read opens if that is the current one. -/
theorem open?_of_numeral (version : s.version = some text) (numeral : Numeral text n)
    (small : n < versionLimit) :
    s.open? = if n = currentVersion then .ok s.index
      else .error (.refused (.layoutVersion n currentVersion)) := by
  have read : version? text = some n := version?_eq_some_iff.mpr ⟨numeral, small⟩
  unfold open?
  rw [version, Option.bind_some, read, Option.getD_some]

/-- An index whose version is not read opens. -/
theorem open?_of_unread (version : s.version = some text)
    (unread : ∀ n, Numeral text n → versionLimit ≤ n) : s.open? = .ok s.index := by
  have none : version? text = none := by
    rw [Option.eq_none_iff_forall_ne_some]
    intro n read
    obtain ⟨numeral, small⟩ := version?_eq_some_iff.mp read
    exact absurd small (Nat.not_lt.mpr (unread n numeral))
  unfold open?
  rw [version, Option.bind_some, none]
  exact if_pos rfl

end Wikilink.StoredIndex
