/-
# Proofs.LowerCase -- lower-casing settles at once

A character that lower-casing gives is its own lower-case form
(`lower_of_mem_lower`).  This is a fact about the table of capitals: no small
letter of one of its runs is a capital of another, which is decided for each pair
of runs and not for each character.
-/
import Wikilink.Text.LowerCase

namespace Wikilink.Text

set_option autoImplicit false

/-- No small letter of `r` is a capital of `s`: their ranges are apart, or the small letters stand
between the capitals. -/
def CapitalRun.clear (r s : CapitalRun) : Bool :=
  Nat.blt (r.target + (r.last - r.first)) s.first || Nat.blt s.last r.target ||
    ((r.step % 2 == 0 || r.first == r.last) && s.step % 2 == 0 && (r.target + s.first) % 2 == 1)

/-- The small letters of `r` are characters other than `İ`. -/
def CapitalRun.valid (r : CapitalRun) : Bool :=
  (r.target + (r.last - r.first) < 0x130 || 0x130 < r.target) &&
    (r.target + (r.last - r.first) < 0xD800 ||
      0xDFFF < r.target && r.target + (r.last - r.first) < 0x110000)

theorem capitals_clear : (capitals.all fun r => r.valid && capitals.all r.clear) = true := by
  decide +kernel

theorem mod_two_of_mod {n d : Nat} (even : d % 2 = 0) (multiple : n % d = 0) : n % 2 = 0 :=
  Nat.mod_eq_zero_of_dvd
    (Nat.dvd_trans (Nat.dvd_of_mod_eq_zero even) (Nat.dvd_of_mod_eq_zero multiple))

theorem CapitalRun.small?_of_clear {r s : CapitalRun} {k : Nat} (clear : r.clear s = true)
    (range : k ≤ r.last - r.first) (step : k % r.step = 0) : s.small? (r.target + k) = none := by
  unfold CapitalRun.small?
  refine if_neg ?_
  rintro ⟨above, below, onStep⟩
  simp only [CapitalRun.clear, Bool.or_eq_true, Bool.and_eq_true, Nat.blt_eq, beq_iff_eq] at clear
  rcases clear with (apart | apart) | ⟨⟨even | single, evenStep⟩, odd⟩
  · omega
  · omega
  · have evenOffset := mod_two_of_mod even step
    have evenDistance := mod_two_of_mod evenStep onStep
    omega
  · have evenDistance := mod_two_of_mod evenStep onStep
    omega

theorem smallLetter?_eq_none {runs : List CapitalRun} {n : Nat}
    (none : ∀ s ∈ runs, s.small? n = none) : smallLetter? runs n = .none := by
  induction runs with
  | nil => rfl
  | cons s rest ih =>
      simp only [smallLetter?]
      split
      · rfl
      · rw [none s (by simp), ih fun t mem => none t (by simp [mem]), Option.or_none]

theorem mem_run_of_smallLetter? {runs : List CapitalRun} {n m : Nat}
    (small : smallLetter? runs n = some m) :
    ∃ r ∈ runs, ∃ k, k ≤ r.last - r.first ∧ k % r.step = 0 ∧ m = r.target + k := by
  induction runs with
  | nil => simp [smallLetter?] at small
  | cons r rest ih =>
      simp only [smallLetter?] at small
      split at small
      · cases small
      · rcases Option.or_eq_some_iff.mp small with here | ⟨-, later⟩
        · unfold CapitalRun.small? at here
          split at here
          · rename_i h
            cases here
            exact ⟨r, by simp, n - r.first, by omega, h.2.2, rfl⟩
          · cases here
        · obtain ⟨s, mem, k, range, step, eq⟩ := ih later
          exact ⟨s, by simp [mem], k, range, step, eq⟩

/-- A small letter is a character other than `İ` and no capital. -/
theorem settled_of_smallLetter? {n m : Nat} (small : smallLetter? capitals n = some m) :
    m ≠ 'İ'.toNat ∧ (Char.ofNat m).toNat = m ∧ smallLetter? capitals m = none := by
  obtain ⟨r, inTable, k, range, step, rfl⟩ := mem_run_of_smallLetter? small
  have checked := List.all_eq_true.mp capitals_clear r inTable
  rw [Bool.and_eq_true, List.all_eq_true] at checked
  obtain ⟨valid, clear⟩ := checked
  simp only [CapitalRun.valid, Bool.and_eq_true, Bool.or_eq_true, decide_eq_true_eq] at valid
  have char : (r.target + k).isValidChar := by
    unfold Nat.isValidChar
    omega
  refine ⟨?_, ?_, ?_⟩
  · have dotted : 'İ'.toNat = 0x130 := rfl
    omega
  · rw [Char.ofNat, dif_pos char]
    rfl
  · exact smallLetter?_eq_none fun s mem => CapitalRun.small?_of_clear (clear s mem) range step

/-- **Lower-case characters stay as they are.** -/
theorem lower_of_mem_lower {c d : Char} (mem : d ∈ lower c) : lower d = [d] := by
  by_cases dotted : c = 'İ'
  · rw [lower, if_pos dotted] at mem
    simp only [List.mem_cons, List.not_mem_nil, or_false] at mem
    rcases mem with rfl | rfl
    · decide +kernel
    · decide +kernel
  · rw [lower, if_neg dotted, List.mem_singleton] at mem
    cases small : smallLetter? capitals c.toNat with
    | none =>
        rw [small, Option.elim_none] at mem
        simp [lower, mem, dotted, small]
    | some m =>
        rw [small, Option.elim_some] at mem
        obtain ⟨plain, valid, settled⟩ := settled_of_smallLetter? small
        have code : d.toNat = m := by rw [mem, valid]
        have undotted : d ≠ 'İ' := by
          rintro rfl
          exact plain code.symm
        rw [lower, if_neg undotted, code, settled, Option.elim_none]

end Wikilink.Text
