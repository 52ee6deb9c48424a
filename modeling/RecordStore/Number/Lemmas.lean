import Mathlib.Algebra.Group.Nat.Defs
import RecordStore.Number.Basic

/-!
# The value of an integer as a double

The bits that are put together for a whole number denote its significand, rounded to fifty-three
bits and scaled back. The one delicate case, a significand that rounds up to the next power of two,
needs no case of its own: its carry runs into the exponent field, and the value comes out the same.
-/

namespace RecordStore.Extended

theorem unitsPerOne_eq : unitsPerOne = (2 ^ 1074 : Nat) := by
  rw [unitsPerOne, Nat.pow_eq]

theorem unitsPerOne_pos : 0 < unitsPerOne := by
  rw [unitsPerOne_eq]
  exact Int.natCast_pos.2 (Nat.two_pow_pos _)

end RecordStore.Extended

namespace RecordStore.Binary64

/-! ### Rounded significands -/

theorem roundShift_le (n k : Nat) : roundShift n k ≤ n / 2 ^ k + 1 := by
  simp only [roundShift, Nat.pow_eq]
  split <;> omega

theorem le_roundShift (n k : Nat) : n / 2 ^ k ≤ roundShift n k := by
  simp only [roundShift, Nat.pow_eq]
  split <;> omega

theorem le_roundedSignificand {n : Nat} (h : n ≠ 0) : 2 ^ 52 ≤ roundedSignificand n := by
  have hlow := Nat.log2_self_le h
  simp only [roundedSignificand, Nat.pow_eq]
  split
  · rename_i hsmall
    calc 2 ^ 52 = 2 ^ n.log2 * 2 ^ (52 - n.log2) := by rw [← Nat.pow_add]; congr 1; omega
      _ ≤ n * 2 ^ (52 - n.log2) := Nat.mul_le_mul_right _ hlow
  · refine Nat.le_trans ?_ (le_roundShift _ _)
    rw [Nat.le_div_iff_mul_le (Nat.two_pow_pos _), ← Nat.pow_add]
    rwa [show 52 + (n.log2 - 52) = n.log2 by omega]

theorem roundedSignificand_le (n : Nat) : roundedSignificand n ≤ 2 ^ 53 := by
  have hhigh := @Nat.lt_log2_self n
  simp only [roundedSignificand, Nat.pow_eq]
  split
  · rename_i hsmall
    calc n * 2 ^ (52 - n.log2) ≤ 2 ^ (n.log2 + 1) * 2 ^ (52 - n.log2) :=
          Nat.mul_le_mul_right _ (Nat.le_of_lt hhigh)
      _ = 2 ^ 53 := by rw [← Nat.pow_add]; congr 1; omega
  · refine Nat.le_trans (roundShift_le _ _) ?_
    rw [Nat.succ_le_iff, Nat.div_lt_iff_lt_mul (Nat.two_pow_pos _), ← Nat.pow_add]
    rwa [show 53 + (n.log2 - 52) = n.log2 + 1 by omega]

/-! ### Bits and values -/

/-- The value of the double nearest to a whole number, in units of `2 ^ -1074`. -/
def nearestUnits (n : Nat) : Nat := roundedSignificand n * 2 ^ (n.log2 + 1022)

private theorem nearestUnits_zero : nearestUnits 0 = 0 := by
  rw [nearestUnits, roundedSignificand, if_pos (by decide), Nat.zero_mul, Nat.zero_mul]

private theorem natBits_lt {n : Nat} (h : n < 2 ^ 1023) : natBits n < 2047 * 2 ^ 52 := by
  simp only [natBits, Nat.pow_eq]
  split
  · omega
  · rename_i hn
    have hlog : n.log2 < 1023 := (Nat.log2_lt hn).2 h
    have hle := roundedSignificand_le n
    clear h
    omega

private theorem toNat_ofParts {low : Nat} (negative : Bool) (h : low < 2047 * 2 ^ 52) :
    (ofParts negative low).bits.toNat = low + if negative then 2 ^ 63 else 0 := by
  rw [ofParts, UInt64.toNat_ofNat', Nat.pow_eq]
  cases negative <;> simp only [Bool.false_eq_true, ↓reduceIte] <;> omega

private theorem negative_ofParts {low : Nat} (negative : Bool) (h : low < 2047 * 2 ^ 52) :
    (ofParts negative low).negative = negative := by
  rw [Binary64.negative, toNat_ofParts negative h, Nat.pow_eq]
  cases negative <;> simp
  omega

private theorem exponent_ofParts {low : Nat} (negative : Bool) (h : low < 2047 * 2 ^ 52) :
    (ofParts negative low).exponent = low / 2 ^ 52 := by
  rw [Binary64.exponent, toNat_ofParts negative h, Nat.pow_eq, Nat.pow_eq]
  cases negative <;> simp only [Bool.false_eq_true, ↓reduceIte] <;> omega

private theorem fraction_ofParts {low : Nat} (negative : Bool) (h : low < 2047 * 2 ^ 52) :
    (ofParts negative low).fraction = low % 2 ^ 52 := by
  rw [Binary64.fraction, toNat_ofParts negative h, Nat.pow_eq]
  cases negative <;> simp only [Bool.false_eq_true, ↓reduceIte] <;> omega

private theorem magnitude_ofParts {n : Nat} (negative : Bool) (h : n < 2 ^ 1023) :
    (ofParts negative (natBits n)).magnitude = nearestUnits n := by
  have hbits := natBits_lt h
  rw [magnitude, significand, scale, exponent_ofParts negative hbits,
    fraction_ofParts negative hbits]
  by_cases hn : n = 0
  · subst hn
    rw [nearestUnits_zero]
    rfl
  · rw [nearestUnits]
    have hlow := le_roundedSignificand hn
    have hhigh := roundedSignificand_le n
    simp only [natBits, if_neg hn, Nat.pow_eq]
    by_cases htop : roundedSignificand n = 2 ^ 53
    · rw [htop, show ((n.log2 + 1022) * 2 ^ 52 + 2 ^ 53) / 2 ^ 52 = n.log2 + 1024 by omega,
        show ((n.log2 + 1022) * 2 ^ 52 + 2 ^ 53) % 2 ^ 52 = 0 by omega, if_neg (by omega),
        show n.log2 + 1024 - 1 = n.log2 + 1022 + 1 by omega, Nat.pow_succ]
      omega
    · rw [show ((n.log2 + 1022) * 2 ^ 52 + roundedSignificand n) / 2 ^ 52 = n.log2 + 1023 by omega,
        show ((n.log2 + 1022) * 2 ^ 52 + roundedSignificand n) % 2 ^ 52 =
          roundedSignificand n - 2 ^ 52 by omega, if_neg (by omega),
        show 2 ^ 52 + (roundedSignificand n - 2 ^ 52) = roundedSignificand n by omega]
      rfl

theorem value_ofInt {n : Int} (h : n.natAbs < 2 ^ 1023) :
    (ofInt n).value =
      .finite (if n < 0 then -(nearestUnits n.natAbs : Int) else nearestUnits n.natAbs) := by
  have hbits := natBits_lt h
  have hexp : natBits n.natAbs / 2 ^ 52 ≠ Nat.pow 2 11 - 1 := by
    rw [Nat.pow_eq]
    omega
  rw [ofInt, value, exponent_ofParts _ hbits, if_neg hexp, negative_ofParts _ hbits,
    magnitude_ofParts _ h]
  simp only [decide_eq_true_eq]

theorem significand_ofInt_mod_two {n : Int} (h : n.natAbs < 2 ^ 1023) :
    (ofInt n).significand % 2 = roundedSignificand n.natAbs % 2 := by
  have hbits := natBits_lt h
  rw [ofInt, significand, exponent_ofParts _ hbits, fraction_ofParts _ hbits]
  by_cases hn : n.natAbs = 0
  · rw [hn]
    rfl
  · have hlow := le_roundedSignificand hn
    have hhigh := roundedSignificand_le n.natAbs
    simp only [natBits, if_neg hn, Nat.pow_eq]
    clear hbits h
    split <;> omega

/-! ### Counts -/

/-- A double stands for a count when it is a whole number of at most `2 ^ 64`, and that one is cut
down to the largest count. -/
theorem toCount?_eq_some_iff {x : Binary64} {count : Nat} :
    x.toCount? = some count ↔
      ∃ whole : Nat, x.value = .finite (whole * Extended.unitsPerOne) ∧ whole ≤ 2 ^ 64 ∧
        count = min whole (2 ^ 64 - 1) := by
  have hpos := Extended.unitsPerOne_pos
  rw [toCount?, Nat.pow_eq]
  constructor
  · intro h
    split at h
    · rename_i units hvalue
      split at h
      · rename_i hwhole
        obtain ⟨hnonneg, hmod, hle⟩ := hwhole
        obtain ⟨whole, hunits⟩ := Int.dvd_of_emod_eq_zero hmod
        rw [Int.mul_comm] at hunits
        subst hunits
        obtain ⟨whole, rfl⟩ := Int.eq_ofNat_of_zero_le (Int.nonneg_of_mul_nonneg_left hnonneg hpos)
        have hle := Int.le_of_mul_le_mul_right hle hpos
        rw [Int.mul_ediv_cancel _ (Int.ne_of_gt hpos), Int.toNat_natCast] at h
        exact ⟨whole, hvalue, by omega, (Option.some.inj h).symm⟩
      · cases h
    · cases h
  · rintro ⟨whole, hvalue, hle, rfl⟩
    have hcount : (0 : Int) ≤ whole * Extended.unitsPerOne ∧
        whole * Extended.unitsPerOne % Extended.unitsPerOne = 0 ∧
        whole * Extended.unitsPerOne ≤ (2 ^ 64 : Nat) * Extended.unitsPerOne :=
      ⟨Int.mul_nonneg (Int.natCast_nonneg _) (Int.le_of_lt hpos), Int.mul_emod_left _ _,
        Int.mul_le_mul_of_nonneg_right (by omega) (Int.le_of_lt hpos)⟩
    simp only [hvalue]
    rw [if_pos hcount, Int.mul_ediv_cancel _ (Int.ne_of_gt hpos), Int.toNat_natCast]

end RecordStore.Binary64

namespace RecordStore.Number

theorem toCount?_lt {n : Number} {count : Nat} (h : n.toCount? = some count) : count < 2 ^ 64 := by
  cases n with
  | integer n =>
    have hbound := n.toInt_lt
    rw [toCount?] at h
    split at h
    · cases h
      omega
    · cases h
  | natural n =>
    cases h
    exact n.toNat_lt
  | double x =>
    obtain ⟨whole, -, -, rfl⟩ := Binary64.toCount?_eq_some_iff.1 h
    omega

theorem toCount?_ofCount {count : Nat} (h : count < 2 ^ 64) :
    (ofCount count).toCount? = some count := by
  rw [ofCount, toCount?, UInt64.toNat_ofNat_of_lt' h]

end RecordStore.Number
