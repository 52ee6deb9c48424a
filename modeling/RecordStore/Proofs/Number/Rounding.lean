import RecordStore.Number.Lemmas

/-!
# Rounding integers to doubles

The double that is made for an integer is the nearest one there is, and where two are as near the one
with an even significand. The bits are put together without looking at any other double; that none is
nearer comes from how doubles lie: from `2 ^ 52` times a power of two on there are only whole multiples
of that power, and rounding picks the better of the two around the integer.

All that comparisons rely on follows from nearness alone. Rounding keeps the order, however it breaks
ties, and an integer that is the value of a double keeps that value. So a number that stands for a
count and the number made for that count are the same, at the very top as well, where a count that is
no double is rounded back to the double that it came from.
-/

namespace RecordStore.Binary64

/-! ### The two neighbours on a grid -/

theorem roundShift_cases (n k : Nat) :
    (roundShift n k = n / 2 ^ k ∧ (2 * (n % 2 ^ k) < 2 ^ k ∨
      2 * (n % 2 ^ k) = 2 ^ k ∧ roundShift n k % 2 = 0)) ∨
    (roundShift n k = n / 2 ^ k + 1 ∧ (2 ^ k < 2 * (n % 2 ^ k) ∨
      2 ^ k = 2 * (n % 2 ^ k) ∧ roundShift n k % 2 = 0)) := by
  simp only [roundShift, Nat.pow_eq]
  split
  · omega
  · omega

/-- Of two neighbours on the grid the rounded one is the nearer, and no other number is as near unless
it is halfway between them. -/
theorem roundShift_nearest (n k : Nat) {unit units : Nat} (hunit : 0 < unit)
    (hcell : units ≤ n / 2 ^ k * (2 ^ k * unit) ∨ (n / 2 ^ k + 1) * (2 ^ k * unit) ≤ units) :
    let rounded := roundShift n k * (2 ^ k * unit)
    let here := ((rounded : Int) - (n * unit : Nat)).natAbs
    let there := ((units : Int) - (n * unit : Nat)).natAbs
    here ≤ there ∧ (here = there → units = rounded ∨ roundShift n k % 2 = 0) := by
  intro rounded here there
  have hn : n * unit = n / 2 ^ k * (2 ^ k * unit) + n % 2 ^ k * unit := by
    rw [← Nat.mul_assoc, ← Nat.add_mul, Nat.div_add_mod']
  have hbelow : n % 2 ^ k * unit < 2 ^ k * unit :=
    Nat.mul_lt_mul_of_pos_right (Nat.mod_lt n (Nat.two_pow_pos k)) hunit
  have hlt : 2 * (n % 2 ^ k * unit) < 2 ^ k * unit ↔ 2 * (n % 2 ^ k) < 2 ^ k := by
    rw [← Nat.mul_assoc]
    exact Nat.mul_lt_mul_right hunit
  have hgt : 2 ^ k * unit < 2 * (n % 2 ^ k * unit) ↔ 2 ^ k < 2 * (n % 2 ^ k) := by
    rw [← Nat.mul_assoc]
    exact Nat.mul_lt_mul_right hunit
  rw [Nat.add_mul, Nat.one_mul] at hcell
  rcases roundShift_cases n k with ⟨hround, hrest⟩ | ⟨hround, hrest⟩
  · have hrounded : rounded = n / 2 ^ k * (2 ^ k * unit) := by simp only [rounded, hround]
    omega
  · have hrounded : rounded = n / 2 ^ k * (2 ^ k * unit) + 2 ^ k * unit := by
      simp only [rounded, hround, Nat.add_mul, Nat.one_mul]
    omega

/-! ### Magnitudes -/

/-- The form of the absolute value of a double, in units of `2 ^ -1074`. -/
def IsMagnitude (units : Nat) : Prop := ∃ m s, m < 2 ^ 53 ∧ units = m * 2 ^ s

/-- From `2 ^ 52` on there is none between two neighbouring multiples of a power of two. -/
theorem IsMagnitude.le_or_le {units : Nat} (h : IsMagnitude units) {q k : Nat} (hq : 2 ^ 52 ≤ q) :
    units ≤ q * 2 ^ k ∨ (q + 1) * 2 ^ k ≤ units := by
  obtain ⟨m, s, hm, rfl⟩ := h
  -- A magnitude on a finer grid is too small to be among these multiples; any other is one of them.
  rcases Nat.lt_or_ge s k with hs | hs
  · left
    calc m * 2 ^ s ≤ 2 ^ 53 * 2 ^ s := Nat.mul_le_mul_right _ (Nat.le_of_lt hm)
      _ = 2 ^ 52 * 2 ^ (s + 1) := by rw [Nat.pow_succ]; omega
      _ ≤ 2 ^ 52 * 2 ^ k := Nat.mul_le_mul_left _ (Nat.pow_le_pow_right Nat.two_pos hs)
      _ ≤ q * 2 ^ k := Nat.mul_le_mul_right _ hq
  · have hsplit : m * 2 ^ s = m * 2 ^ (s - k) * 2 ^ k := by
      rw [Nat.mul_assoc, ← Nat.pow_add, Nat.sub_add_cancel hs]
    rw [hsplit]
    rcases Nat.lt_or_ge q (m * 2 ^ (s - k)) with hlt | hle
    · exact .inr (Nat.mul_le_mul_right _ hlt)
    · exact .inl (Nat.mul_le_mul_right _ hle)

/-- No magnitude is nearer to a whole number than the one to which it is rounded. One that is as near
leaves it with an even significand. -/
theorem nearestUnits_nearest (n : Nat) {units : Nat} (h : IsMagnitude units) :
    let here := ((nearestUnits n : Int) - (n * 2 ^ 1074 : Nat)).natAbs
    let there := ((units : Int) - (n * 2 ^ 1074 : Nat)).natAbs
    here ≤ there ∧ (here = there → units = nearestUnits n ∨ roundedSignificand n % 2 = 0) := by
  -- Up to fifty-three bits nothing is rounded.
  by_cases hsmall : n.log2 ≤ 52
  · have hscale : 52 - n.log2 + (n.log2 + 1022) = 1074 := by omega
    have hexact : nearestUnits n = n * 2 ^ 1074 := by
      rw [nearestUnits, roundedSignificand, if_pos hsmall, Nat.pow_eq, Nat.mul_assoc,
        ← Nat.pow_add, hscale]
    rw [hexact]
    generalize n * 2 ^ 1074 = exact
    omega
  · have hn : n ≠ 0 := by
      rintro rfl
      simp at hsmall
    have hrounded : roundedSignificand n = roundShift n (n.log2 - 52) := by
      rw [roundedSignificand, if_neg hsmall]
    have hscale : n.log2 + 1022 = n.log2 - 52 + 1074 := by omega
    have hquotient : 2 ^ 52 ≤ n / 2 ^ (n.log2 - 52) := by
      rw [Nat.le_div_iff_mul_le (Nat.two_pow_pos _), ← Nat.pow_add,
        show 52 + (n.log2 - 52) = n.log2 by omega]
      exact Nat.log2_self_le hn
    have hcell := h.le_or_le (k := n.log2 - 52 + 1074) hquotient
    rw [Nat.pow_add] at hcell
    rw [nearestUnits, hrounded, hscale, Nat.pow_add]
    exact roundShift_nearest n _ (Nat.two_pow_pos _) hcell

theorem significand_lt (x : Binary64) : x.significand < 2 ^ 53 := by
  have hfraction : x.fraction < 2 ^ 52 := Nat.mod_lt _ (by decide)
  rw [significand, Nat.pow_eq]
  split <;> omega

theorem natAbs_of_value {x : Binary64} {units : Int} (h : x.value = .finite units) :
    units.natAbs = x.magnitude := by
  rw [value] at h
  split at h
  · split at h
    · cases h
    · split at h <;> cases h
  · cases h
    split <;> omega

theorem isMagnitude_of_value {x : Binary64} {units : Int} (h : x.value = .finite units) :
    IsMagnitude units.natAbs :=
  ⟨x.significand, x.scale, x.significand_lt, by rw [natAbs_of_value h, magnitude, Nat.pow_eq]⟩

/-! ### The nearest double -/

/-- What it means that a double is the one nearest to an integer, and has an even significand if
another one is as near. -/
structure IsNearest (n : Int) (x : Binary64) (units : Int) : Prop where
  value_eq : x.value = .finite units
  nearest : ∀ (y : Binary64) others, y.value = .finite others →
    (units - n * Extended.unitsPerOne).natAbs ≤ (others - n * Extended.unitsPerOne).natAbs
  even : ∀ (y : Binary64) others, y.value = .finite others →
    (units - n * Extended.unitsPerOne).natAbs = (others - n * Extended.unitsPerOne).natAbs →
      others = units ∨ x.significand % 2 = 0

theorem mul_unitsPerOne (n : Int) :
    n * Extended.unitsPerOne =
      if n < 0 then -((n.natAbs * 2 ^ 1074 : Nat) : Int) else (n.natAbs * 2 ^ 1074 : Nat) := by
  rw [Extended.unitsPerOne_eq, Int.natCast_mul]
  split
  · rw [← Int.neg_mul]
    congr 1
    omega
  · congr 1
    omega

theorem isNearest_ofInt {n : Int} (h : n.natAbs < 2 ^ 1023) :
    ∃ units, IsNearest n (ofInt n) units := by
  have hvalue := value_ofInt h
  -- Zero is a magnitude, too, so that nothing on its other side can be nearer.
  have hzero := (nearestUnits_nearest n.natAbs ⟨0, 0, by decide, rfl⟩).1
  have hnearest := fun units => @nearestUnits_nearest n.natAbs units
  have hproduct := mul_unitsPerOne n
  rw [← significand_ofInt_mod_two h] at hnearest
  generalize nearestUnits n.natAbs = rounded at *
  generalize n.natAbs * 2 ^ 1074 = exact at *
  refine ⟨_, hvalue, ?_, ?_⟩
  · intro y others hy
    have hthere := (hnearest _ (isMagnitude_of_value hy)).1
    rw [hproduct]
    split <;> omega
  · intro y others hy hsame
    have hthere := hnearest _ (isMagnitude_of_value hy)
    rw [hproduct] at hsame
    split at hsame <;> omega

/-- Rounding to nearest never turns an order around, whichever way it breaks ties. -/
theorem IsNearest.le {n m : Int} {x y : Binary64} {units others : Int} (hx : IsNearest n x units)
    (hy : IsNearest m y others) (h : n < m) : units ≤ others := by
  have hleft := hx.nearest y others hy.value_eq
  have hright := hy.nearest x units hx.value_eq
  have hproduct : n * Extended.unitsPerOne < m * Extended.unitsPerOne :=
    Int.mul_lt_mul_of_pos_right h Extended.unitsPerOne_pos
  omega

theorem value_ofInt_of_isMagnitude {n : Int} (h : n.natAbs < 2 ^ 1023)
    (hmagnitude : IsMagnitude (n.natAbs * 2 ^ 1074)) :
    (ofInt n).value = .finite (n * Extended.unitsPerOne) := by
  have hexact := (nearestUnits_nearest n.natAbs hmagnitude).1
  rw [value_ofInt h, mul_unitsPerOne]
  generalize n.natAbs * 2 ^ 1074 = exact at hexact ⊢
  apply congrArg
  split <;> omega

theorem value_ofInt_of_value {n : Int} (h : n.natAbs < 2 ^ 1023) {x : Binary64}
    (hx : x.value = .finite (n * Extended.unitsPerOne)) : (ofInt n).value = x.value := by
  rw [hx]
  apply value_ofInt_of_isMagnitude h
  have hmagnitude := isMagnitude_of_value hx
  rwa [Int.natAbs_mul, Extended.unitsPerOne_eq, Int.natAbs_natCast] at hmagnitude

theorem value_ofInt_of_le {n : Int} (h : n.natAbs ≤ 2 ^ 53) :
    (ofInt n).value = .finite (n * Extended.unitsPerOne) := by
  have hlt : n.natAbs < 2 ^ 1023 :=
    Nat.lt_of_le_of_lt h (Nat.pow_lt_pow_right (by decide) (by decide))
  refine value_ofInt_of_isMagnitude hlt ?_
  rcases Nat.lt_or_eq_of_le h with hlt | heq
  · exact ⟨n.natAbs, 1074, hlt, rfl⟩
  · refine ⟨2 ^ 52, 1075, by decide, ?_⟩
    rw [heq, ← Nat.pow_add, ← Nat.pow_add]

theorem value_ofInt_last :
    (ofInt (2 ^ 64 - 1 : Nat)).value = .finite ((2 ^ 64 : Nat) * Extended.unitsPerOne) := by
  decide +kernel

end RecordStore.Binary64

namespace RecordStore.Number

theorem value_ofCount {n : Number} {count : Nat} (h : n.toCount? = some count) :
    (ofCount count).value = n.value := by
  have hcount : (ofCount count).value = (Binary64.ofInt count).value := by
    rw [ofCount, value, toBinary64, UInt64.toNat_ofNat_of_lt' (toCount?_lt h)]
  rw [hcount]
  cases n with
  | integer n =>
    rw [toCount?] at h
    split at h
    · rename_i hpos
      cases h
      rw [Int.toNat_of_nonneg hpos]
      rfl
    · cases h
  | natural n =>
    cases h
    rfl
  | double x =>
    obtain ⟨whole, hvalue, hle, rfl⟩ := Binary64.toCount?_eq_some_iff.1 h
    -- Only `2 ^ 64` is cut down, and the count that it is cut down to is rounded back up to it.
    rcases Nat.lt_or_eq_of_le hle with hlt | rfl
    · rw [Nat.min_eq_left (by omega)]
      refine Binary64.value_ofInt_of_value ?_ hvalue
      rw [Int.natAbs_natCast]
      exact Nat.lt_trans hlt (Nat.pow_lt_pow_right (by decide) (by decide))
    · rw [Nat.min_eq_right (by omega)]
      exact Binary64.value_ofInt_last.trans hvalue.symm

end RecordStore.Number
