/-
# Proofs.Text.Bytes -- the order of texts is the order of their bytes

Texts are compared character by character.  The UTF-8 form of a lesser character is
less at the first byte in which the two forms differ, whatever comes behind
(`encode_append_lt`), so comparing the bytes of two texts comes to the same
(`bytes_lt_bytes_iff`).
-/
import Mathlib.Data.List.Lex
import Mathlib.Data.String.Basic

namespace Wikilink.Text

set_option autoImplicit false

open String (utf8EncodeChar)

/-- The bytes of the UTF-8 form of a text. -/
def bytes (text : String) : List UInt8 :=
  text.toByteArray.data.toList

theorem bytes_eq_flatMap (text : String) : bytes text = text.toList.flatMap utf8EncodeChar := by
  have encoded : text.toByteArray = text.toList.utf8Encode := by
    rw [← String.toByteArray_ofList, String.ofList_toList]
  rw [bytes, encoded, List.utf8Encode, List.toList_data_toByteArray]

/-! ## Characters -/

/-- **The lesser character has the lesser bytes**, whatever comes behind them. -/
theorem encode_append_lt {c d : Char} (less : c < d) (s t : List UInt8) :
    utf8EncodeChar c ++ s < utf8EncodeChar d ++ t := by
  have codes : c.val.toNat < d.val.toNat := less
  have limit : d.val.toNat < 0x110000 := by
    have valid := d.valid
    simp only [UInt32.isValidChar, Nat.isValidChar] at valid
    omega
  -- A leading part of a code that is split again is a leading part of the code.
  have leadC := Nat.div_div_eq_div_mul c.val.toNat 64 64
  have leadD := Nat.div_div_eq_div_mul d.val.toNat 64 64
  have leadC' := Nat.div_div_eq_div_mul c.val.toNat 4096 64
  have leadD' := Nat.div_div_eq_div_mul d.val.toNat 4096 64
  simp only [utf8EncodeChar]
  split_ifs <;>
    simp only [List.cons_append, List.nil_append, List.cons_lt_cons_iff, UInt8.lt_iff_toNat_lt,
      ← UInt8.toNat_inj, UInt8.toNat_ofNat'] <;>
    simp (disch := omega) only [Nat.mod_eq_of_lt] <;>
    omega

theorem append_lt_append {s t : List UInt8} (less : s < t) (front : List UInt8) :
    front ++ s < front ++ t := by
  induction front with
  | nil => exact less
  | cons b front ih => exact List.cons_lt_cons_iff.mpr (Or.inr ⟨rfl, ih⟩)

theorem flatMap_encode_lt {s t : List Char} (less : s < t) :
    s.flatMap utf8EncodeChar < t.flatMap utf8EncodeChar := by
  induction s generalizing t with
  | nil =>
      cases t with
      | nil => exact absurd less (List.not_lt_nil _)
      | cons d t =>
          cases form : utf8EncodeChar d with
          | nil => exact absurd form String.utf8EncodeChar_ne_nil
          | cons b bs =>
              rw [List.flatMap_cons, form]
              exact List.nil_lt_cons _ _
  | cons c s ih =>
      cases t with
      | nil => exact absurd less (List.not_lt_nil _)
      | cons d t =>
          rw [List.flatMap_cons, List.flatMap_cons]
          rcases List.cons_lt_cons_iff.mp less with first | ⟨rfl, rest⟩
          · exact encode_append_lt first _ _
          · exact append_lt_append (ih rest) _

/-! ## Texts -/

theorem bytes_lt_of_lt {s t : String} (less : s < t) : bytes s < bytes t := by
  rw [bytes_eq_flatMap, bytes_eq_flatMap]
  exact flatMap_encode_lt (String.lt_iff_toList_lt.mp less)

/-- **Comparing texts is comparing their bytes.** -/
theorem bytes_lt_bytes_iff {s t : String} : bytes s < bytes t ↔ s < t := by
  refine ⟨fun less => ?_, bytes_lt_of_lt⟩
  rcases lt_trichotomy s t with first | rfl | second
  · exact first
  · exact absurd less (List.lt_irrefl _)
  · exact absurd less (List.lt_asymm (bytes_lt_of_lt second))

end Wikilink.Text
