/-
# Proofs.Decimal.Whole -- floating numbers beyond the signed integers

Plain text writes a whole number without a point, its last digits as zeros where the shortest
decimal has none (`writeDigits_plain`).  That decimal is looked for on coarser grids first, and
one of seventeen digits is always there (`firstGrid_spec`).  So a number of more digits ends in
zeros (`write_whole`).  An integer from `2 ^ 63` on has nineteen or twenty digits, and is
written with a multiple of a hundred in its place (`coarse_write_ofInt`).
-/
import Mathlib.Algebra.Group.Nat.Defs
import Wikilink.Decimal.Layout

namespace Wikilink.Decimal

set_option autoImplicit false

/-! ## Texts of whole numbers -/

/-- Zeros behind the digits of a number are the digits of the number times a power of ten. -/
theorem toDigits_mul_pow {n : Nat} (positive : 0 < n) (k : Nat) :
    Nat.toDigits 10 (n * 10 ^ k) = Nat.toDigits 10 n ++ List.replicate k '0' := by
  induction k with
  | zero => simp
  | succ k ih =>
      have above : 0 < n * 10 ^ k := Nat.mul_pos positive (Nat.pow_pos (by decide))
      have last : Nat.toDigits 10 0 = ['0'] := Nat.toDigits_zero 10
      have same : 10 * (n * 10 ^ k) + 0 = n * 10 ^ (k + 1) := by
        rw [Nat.add_zero, Nat.pow_succ, Nat.mul_comm, Nat.mul_assoc]
      rw [List.replicate_succ', ← List.append_assoc, ← ih, ← last,
        Nat.toDigits_append_toDigits (by decide) above (by decide), same]

/-- The number that a whole decimal stands for. -/
def Digits.whole (d : Digits) : Nat :=
  d.digits * 10 ^ d.exponent.toNat

/-- In plain text a whole decimal is written as the number that it stands for. -/
theorem writeDigits_plain {d : Digits} (positive : 0 < d.digits) (whole : 0 ≤ d.exponent) :
    Layout.plain.writeDigits d = toString d.whole := by
  have long : 0 < (Nat.toDigits 10 d.digits).length := Nat.length_toDigits_pos
  have leading : ¬ d.exponent + (Nat.toDigits 10 d.digits).length - 1 < 0 := by omega
  have text : String.ofList (Nat.toDigits 10 d.digits) ++ zeros d.exponent.toNat ++ "" =
      toString d.whole := by
    rw [Nat.toString_eq_ofList_toDigits, Digits.whole, toDigits_mul_pow positive,
      String.ofList_append, zeros, String.append_empty]
  simpa only [Layout.writeDigits, Layout.plain, if_true, if_neg leading, if_pos whole] using text

/-- Zeros that are taken off the digits are made up for by the exponent. -/
theorem normalize_whole (k : Nat) {d : Digits} (positive : 0 < d.digits) (whole : 0 ≤ d.exponent) :
    0 < (Digits.normalize k d).digits ∧ 0 ≤ (Digits.normalize k d).exponent ∧
      (Digits.normalize k d).whole = d.whole := by
  induction k generalizing d with
  | zero => exact ⟨positive, whole, rfl⟩
  | succ k ih =>
      rw [Digits.normalize]
      split
      · rename_i round
        obtain ⟨pos, wh, same⟩ :=
          @ih ⟨d.digits / 10, d.exponent + 1⟩ (by simp only; omega) (by simp only; omega)
        refine ⟨pos, wh, same.trans ?_⟩
        have exponent : (d.exponent + 1).toNat = d.exponent.toNat + 1 := by omega
        have digits : d.digits / 10 * 10 = d.digits := by omega
        simp only [Digits.whole, exponent, Nat.pow_succ]
        rw [← Nat.mul_assoc, Nat.mul_right_comm, digits]
      · exact ⟨positive, whole, rfl⟩

/-! ## Grid points -/

variable {tie : Tie} {significand : Nat}

/-- The ends of the interval that rounds to a number, in units of a quarter of its last place. -/
theorem roundingInterval_bounds (significand : Nat) (exponent : Int) :
    (roundingInterval significand exponent).2.1 = 4 * significand ∧
      (roundingInterval significand exponent).2.2 = 4 * significand + 2 ∧
      4 * significand - 2 ≤ (roundingInterval significand exponent).1 ∧
      (roundingInterval significand exponent).1 ≤ 4 * significand := by
  simp only [roundingInterval]
  refine ⟨trivial, trivial, ?_, ?_⟩
  all_goals split <;> omega

theorem scaleTwo_one (place : Nat) : scaleTwo 1 1 ((place + 2 : Nat) - 2 : Int) = (2 ^ place, 1) := by
  have exponent : ((place + 2 : Nat) - 2 : Int).toNat = place := by omega
  have other : (-((place + 2 : Nat) - 2 : Int)).toNat = 0 := by omega
  rw [scaleTwo, exponent, other]
  simp

theorem scaleTen_one (zeros : Nat) : scaleTen 1 1 (zeros : Int) = (10 ^ zeros, 1) := by
  have other : (-(zeros : Int)).toNat = 0 := by omega
  rw [scaleTen, Int.toNat_natCast, other]
  simp

/-- The one of two neighbouring decimals, equally near, that is taken. -/
def Tie.point? (below : Nat) : Tie → Option Nat
  | .up => some (below + 1)
  | .even => some (below + below % 2)

theorem Tie.point?_cases (tie : Tie) (below : Nat) :
    tie.point? below = some below ∨ tie.point? below = some (below + 1) := by
  cases tie with
  | up => exact .inr rfl
  | even =>
      rcases Nat.mod_two_eq_zero_or_one below with even | odd
      · exact .inl (by rw [point?, even, Nat.add_zero])
      · exact .inr (by rw [point?, odd])

section Grid

variable (significand low place zeros : Nat)

/-- A decimal `n * 10 ^ zeros` lies in the interval that rounds to the number, whose ends belong to
it if the significand is even. -/
def Inside (n : Nat) : Prop :=
  if significand % 2 = 0 then
    low * 2 ^ place ≤ n * 10 ^ zeros ∧ n * 10 ^ zeros ≤ (4 * significand + 2) * 2 ^ place
  else low * 2 ^ place < n * 10 ^ zeros ∧ n * 10 ^ zeros < (4 * significand + 2) * 2 ^ place

instance (n : Nat) : Decidable (Inside significand low place zeros n) :=
  inferInstanceAs (Decidable (ite _ _ _))

variable {significand low place zeros} {n : Nat}

theorem Inside.bounds (inside : Inside significand low place zeros n) :
    low * 2 ^ place ≤ n * 10 ^ zeros ∧ n * 10 ^ zeros ≤ (4 * significand + 2) * 2 ^ place := by
  unfold Inside at inside
  split at inside
  · exact inside
  · exact ⟨Nat.le_of_lt inside.1, Nat.le_of_lt inside.2⟩

theorem Inside.of_lt (above : low * 2 ^ place < n * 10 ^ zeros)
    (under : n * 10 ^ zeros < (4 * significand + 2) * 2 ^ place) :
    Inside significand low place zeros n := by
  unfold Inside
  split
  · exact ⟨Nat.le_of_lt above, Nat.le_of_lt under⟩
  · exact ⟨above, under⟩

/-- The choice between the decimals around a number, which is `rest` above the lower one. -/
def pick (tie : Tie) (significand low place zeros below rest : Nat) : Option Nat :=
  if rest = 0 then some below
  else if Inside significand low place zeros below ∧
      Inside significand low place zeros (below + 1) then
    if 2 * rest < 10 ^ zeros then some below
    else if 10 ^ zeros < 2 * rest then some (below + 1)
    else tie.point? below
  else if Inside significand low place zeros below then some below
  else if Inside significand low place zeros (below + 1) then some (below + 1)
  else none

variable {tie : Tie} {below rest : Nat}

/-- What is taken is the number itself or lies inside. -/
theorem of_pick_eq_some (taken : pick tie significand low place zeros below rest = some n) :
    rest = 0 ∧ n = below ∨ Inside significand low place zeros n := by
  unfold pick at taken
  split at taken
  · rename_i hit
    exact .inl ⟨hit, (Option.some.inj taken).symm⟩
  · refine .inr ?_
    split at taken
    · rename_i both
      split at taken
      · exact Option.some.inj taken ▸ both.1
      · split at taken
        · exact Option.some.inj taken ▸ both.2
        · rcases tie.point?_cases below with even | odd
          · exact Option.some.inj (even.symm.trans taken) ▸ both.1
          · exact Option.some.inj (odd.symm.trans taken) ▸ both.2
    · split at taken
      · rename_i inside
        exact Option.some.inj taken ▸ inside
      · split at taken
        · rename_i inside
          exact Option.some.inj taken ▸ inside
        · cases taken

theorem of_pick_eq_none (nothing : pick tie significand low place zeros below rest = none) :
    rest ≠ 0 ∧ ¬ Inside significand low place zeros (below + 1) := by
  unfold pick at nothing
  split at nothing
  · cases nothing
  · rename_i above
    refine ⟨above, fun inside => ?_⟩
    split at nothing
    · split at nothing
      · cases nothing
      · split at nothing
        · cases nothing
        · rcases tie.point?_cases below with even | odd
          · cases even.symm.trans nothing
          · cases odd.symm.trans nothing
    · split at nothing <;> cases nothing

variable (significand place zeros tie)

/-- On whole numbers the grid point is picked by whole numbers. -/
theorem exists_gridPoint?_eq :
    ∃ low, 4 * significand - 2 ≤ low ∧ low ≤ 4 * significand ∧
      gridPoint? tie significand (place + 2 : Nat) zeros =
        pick tie significand low place zeros (4 * significand * 2 ^ place / 10 ^ zeros)
          (4 * significand * 2 ^ place % 10 ^ zeros) := by
  obtain ⟨value, upper, lower, most⟩ := roundingInterval_bounds significand (place + 2 : Nat)
  unfold gridPoint?
  generalize roundingInterval significand (place + 2 : Nat) = interval at *
  obtain ⟨low, middle, high⟩ := interval
  simp only at value upper lower most
  subst value upper
  refine ⟨low, lower, most, ?_⟩
  simp only [scaleTwo_one, scaleTen_one, Nat.mul_one]
  rfl

/-- A number of last place `2 ^ (place + 2)`, between whole decimals that end in `zeros` zeros: the
grid point is one of these decimals, within half a place of the number.  There is none only if the
decimals are further apart than that. -/
theorem gridPoint?_spec :
    (∃ n, gridPoint? tie significand (place + 2 : Nat) zeros = some n ∧
      (4 * significand - 2) * 2 ^ place ≤ n * 10 ^ zeros ∧
      n * 10 ^ zeros ≤ (4 * significand + 2) * 2 ^ place) ∨
    gridPoint? tie significand (place + 2 : Nat) zeros = none ∧ 2 * 2 ^ place < 10 ^ zeros := by
  obtain ⟨low, lower, most, picked⟩ := exists_gridPoint?_eq significand place zeros tie
  have low_le : low * 2 ^ place ≤ 4 * significand * 2 ^ place := Nat.mul_le_mul_right _ most
  have le_low : (4 * significand - 2) * 2 ^ place ≤ low * 2 ^ place := Nat.mul_le_mul_right _ lower
  have high : (4 * significand + 2) * 2 ^ place = 4 * significand * 2 ^ place + 2 * 2 ^ place :=
    Nat.add_mul _ _ _
  have whole := Nat.div_add_mod' (4 * significand * 2 ^ place) (10 ^ zeros)
  have next := Nat.succ_mul (4 * significand * 2 ^ place / 10 ^ zeros) (10 ^ zeros)
  cases point : gridPoint? tie significand (place + 2 : Nat) zeros with
  | some n =>
      refine .inl ⟨n, rfl, ?_⟩
      rcases of_pick_eq_some (picked.symm.trans point) with ⟨hit, rfl⟩ | inside
      · exact ⟨by omega, by omega⟩
      · exact ⟨Nat.le_trans le_low inside.bounds.1, inside.bounds.2⟩
  | none =>
      obtain ⟨above, outside⟩ := of_pick_eq_none (picked.symm.trans point)
      refine .inr ⟨rfl, Nat.lt_of_not_le fun fine => outside (.of_lt ?_ ?_)⟩
      · rw [Nat.succ_mul]
        omega
      · rw [Nat.succ_mul]
        omega

end Grid

/-! ## Shortest decimals -/

section Shortest

variable {tie : Tie} {significand place l : Nat}

/-- Among grids the last of which is fine enough, the first with a grid point is one of them. -/
theorem firstGrid_spec {count left : Nat} (some : 0 < left) (room : count + left ≤ l + 2)
    (fine : 10 ^ (l + 2 - (count + left)) ≤ 2 * 2 ^ place) :
    ∃ zeros n, l + 2 - (count + left) ≤ zeros ∧
      firstGrid tie significand (place + 2 : Nat) l count left =
        Digits.normalize 17 ⟨n, (zeros : Nat)⟩ ∧
      (4 * significand - 2) * 2 ^ place ≤ n * 10 ^ zeros ∧
      n * 10 ^ zeros ≤ (4 * significand + 2) * 2 ^ place := by
  induction left generalizing count with
  | zero => omega
  | succ left ih =>
      have grid : (l : Int) - count + 1 = (l + 1 - count : Nat) := by omega
      rw [firstGrid]
      simp only [grid]
      rcases gridPoint?_spec significand place (l + 1 - count) tie with
        ⟨n, found, lower, upper⟩ | ⟨none, coarse⟩
      · exact ⟨l + 1 - count, n, by omega, by simp only [found], lower, upper⟩
      · have more : 0 < left := by
          rcases Nat.eq_zero_or_pos left with rfl | more
          · have last : l + 2 - (count + (0 + 1)) = l + 1 - count := by omega
            rw [last] at fine
            omega
          · exact more
        have later : count + 1 + left = count + (left + 1) := by omega
        simp only [none]
        rw [← later] at room fine ⊢
        exact ih more room fine

theorem digitCount_eq {n : Nat} (least : 10 ^ l ≤ n) (most : n < 10 ^ (l + 1)) :
    digitCount n = l + 1 := by
  have positive : n ≠ 0 := by
    have := Nat.pow_pos (n := l) (show 0 < 10 by decide)
    omega
  have upper := (Nat.length_toDigits_le_iff (b := 10) (n := n) (by decide) l.succ_pos).mpr most
  have lower : ¬ (Nat.toDigits 10 n).length ≤ l := by
    intro short
    rcases Nat.eq_zero_or_pos l with rfl | some
    · have long := Nat.length_toDigits_pos (b := 10) (n := n)
      omega
    · have small := (Nat.length_toDigits_le_iff (b := 10) (n := n) (by decide) some).mp short
      omega
  rw [digitCount, if_neg positive]
  omega

theorem shortest_eq (least : 10 ^ l ≤ significand * 2 ^ (place + 2))
    (most : significand * 2 ^ (place + 2) < 10 ^ (l + 1)) :
    shortest tie significand (place + 2 : Nat) =
      firstGrid tie significand (place + 2 : Nat) l 1 17 := by
  have positive := Nat.pow_pos (n := l) (show 0 < 10 by decide)
  have other : (-((place + 2 : Nat) : Int)).toNat = 0 := by omega
  have ratio : Binary64.ratio significand (place + 2 : Nat) =
      (significand * 2 ^ (place + 2), 1) := by
    rw [Binary64.ratio, scaleTwo, Int.toNat_natCast, other]
    simp
  have leading : floorLog10 (significand * 2 ^ (place + 2)) 1 = l := by
    rw [floorLog10, if_pos (by omega), Nat.div_one, digitCount_eq least most]
    omega
  rw [shortest, ratio]
  simp only [leading]

/-- **A number with more than seventeen digits before the point is written with zeros for the other
digits**, and within half a place of the number. -/
theorem write_whole (least : 10 ^ l ≤ significand * 2 ^ (place + 2))
    (most : significand * 2 ^ (place + 2) < 10 ^ (l + 1)) (long : 16 ≤ l)
    (fine : 10 ^ (l - 16) ≤ 2 * 2 ^ place) :
    ∃ zeros n, l - 16 ≤ zeros ∧
      Layout.plain.write (.finite false significand (place + 2 : Nat)) = toString (n * 10 ^ zeros) ∧
      (4 * significand - 2) * 2 ^ place ≤ n * 10 ^ zeros ∧
      n * 10 ^ zeros ≤ (4 * significand + 2) * 2 ^ place := by
  have positive : 0 < significand := by
    rcases Nat.eq_zero_or_pos significand with rfl | positive
    · have := Nat.pow_pos (n := l) (show 0 < 10 by decide)
      omega
    · exact positive
  have last : l + 2 - (1 + 17) = l - 16 := by omega
  obtain ⟨zeros, n, many, short, lower, upper⟩ :=
    @firstGrid_spec .up significand place l 1 17 (by decide) (by omega) (last ▸ fine)
  rw [last] at many
  have some : 0 < n := by
    refine Nat.pos_of_ne_zero fun none => ?_
    have above : 0 < (4 * significand - 2) * 2 ^ place :=
      Nat.mul_pos (by omega) (Nat.pow_pos (by decide))
    rw [none, Nat.zero_mul] at lower
    omega
  obtain ⟨digits, whole, same⟩ := normalize_whole 17 (d := ⟨n, zeros⟩) some (Int.natCast_nonneg zeros)
  refine ⟨zeros, n, many, ?_, lower, upper⟩
  rw [← shortest_eq least most] at short
  rw [← short] at digits whole same
  show (if significand = 0 then "0" ++ "" else Layout.plain.writeDigits (shortest .up significand _)) = _
  rw [if_neg (by omega), writeDigits_plain digits whole, same, Digits.whole, Int.toNat_natCast]

end Shortest

/-! ## Integers beyond the signed ones -/

theorem roundHalfEven_bounds (num den : Nat) :
    num / den ≤ roundHalfEven num den ∧ roundHalfEven num den ≤ num / den + 1 := by
  unfold roundHalfEven
  simp only
  split
  · omega
  · split <;> omega

theorem floorLog2_eq {n k : Nat} (least : 2 ^ k ≤ n) (most : n < 2 ^ (k + 1)) :
    Binary64.floorLog2 n 1 = k := by
  have positive := Nat.pow_pos (n := k) (show 0 < 2 by decide)
  have log : n.log2 = k := (Nat.log2_eq_iff (by omega)).mpr ⟨least, most⟩
  have one : Nat.log2 1 = 0 := by decide
  have scaled : scaleTwo n 1 (-(k : Int)) = (n, 2 ^ k) := by
    have down : (-(k : Int)).toNat = 0 := by omega
    have up : (-(-(k : Int))).toNat = k := by omega
    rw [scaleTwo, down, up]
    simp
  simp only [Binary64.floorLog2, log, one, Int.natCast_zero, Int.sub_zero, scaled, if_pos least]

/-- The floating number of an integer beyond the signed ones has a full significand. -/
theorem ofInt_of_large {n : Nat} (large : 2 ^ 63 ≤ n) (small : n < 2 ^ 64) :
    (∃ m, 2 ^ 52 ≤ m ∧ m < 2 ^ 53 ∧ Binary64.ofInt n = .finite false m (9 + 2 : Nat)) ∨
      Binary64.ofInt n = .finite false (2 ^ 52) (10 + 2 : Nat) := by
  have log : Binary64.floorLog2 n 1 = (63 : Nat) := floorLog2_eq large small
  have exponent : max (((63 : Nat) : Int) - (((53 : Nat) : Int) - 1)) (-1074) = 11 := by decide
  have scaled : scaleTwo n 1 (-11) = (n, 2048) := by
    rw [scaleTwo]
    simp
  have positive : ¬ (n = 0 ∨ 1 = 0) := by omega
  obtain ⟨lower, upper⟩ := roundHalfEven_bounds n 2048
  have sign : decide ((n : Int) < 0) = false := by simp
  rw [Binary64.ofInt, sign, Int.natAbs_natCast, Binary64.ofRatio, if_neg positive]
  simp only [log, Binary64.precision, Binary64.leastExponent, exponent, scaled]
  by_cases full : roundHalfEven n 2048 = 2 ^ 53
  · have finite : ¬ Binary64.greatestExponent < 11 + 1 := by decide
    exact .inr (by simp only [Nat.pow_eq, if_pos full, if_neg finite]; rfl)
  · have finite : ¬ Binary64.greatestExponent < 11 := by decide
    refine .inl ⟨roundHalfEven n 2048, by omega, by omega, ?_⟩
    simp only [Nat.pow_eq, if_neg full, if_neg finite]
    rfl

/-- The text of a whole number from `2 ^ 63` on, of at most twenty digits, the last two zeros. -/
def Coarse (text : String) : Prop :=
  ∃ n, text = toString n ∧ 2 ^ 63 ≤ n ∧ n < 10 ^ 20 ∧ 100 ∣ n

theorem coarse_of_zeros {text : String} {zeros n : Nat} (many : 2 ≤ zeros)
    (written : text = toString (n * 10 ^ zeros)) (lower : 2 ^ 63 ≤ n * 10 ^ zeros)
    (upper : n * 10 ^ zeros < 10 ^ 20) : Coarse text :=
  ⟨n * 10 ^ zeros, written, lower, upper, Nat.dvd_mul_left_of_dvd (Nat.pow_dvd_pow 10 many) n⟩

/-- A full significand leaves no room for the last two digits. -/
theorem coarse_write {m : Nat} (least : 2 ^ 52 ≤ m) (most : m < 2 ^ 53) :
    Coarse (Layout.plain.write (.finite false m (9 + 2 : Nat))) := by
  rcases Nat.eq_or_lt_of_le least with rfl | above
  · refine ⟨9223372036854776000, ?_, by decide, by decide, by decide⟩
    decide +kernel
  · by_cases long : 10 ^ 19 ≤ m * 2 ^ (9 + 2)
    · obtain ⟨zeros, n, many, written, lower, upper⟩ :=
        @write_whole m 9 19 long (by omega) (by decide) (by decide)
      exact coarse_of_zeros (by omega) written (by omega) (by omega)
    · obtain ⟨zeros, n, many, written, lower, upper⟩ :=
        @write_whole m 9 18 (by omega) (by omega) (by decide) (by decide)
      exact coarse_of_zeros (by omega) written (by omega) (by omega)

/-- **An integer from `2 ^ 63` on, as a floating number, is not written with its last digits.** -/
theorem coarse_write_ofInt {n : Nat} (large : 2 ^ 63 ≤ n) (small : n < 2 ^ 64) :
    Coarse (Layout.plain.write (.ofInt n)) := by
  rcases ofInt_of_large large small with ⟨m, least, most, float⟩ | float
  · rw [float]
    exact coarse_write least most
  · rw [float]
    obtain ⟨zeros, k, many, written, lower, upper⟩ :=
      @write_whole (2 ^ 52) 10 19 (by decide) (by decide) (by decide) (by decide)
    exact coarse_of_zeros (by omega) written (by omega) (by omega)

end Wikilink.Decimal
