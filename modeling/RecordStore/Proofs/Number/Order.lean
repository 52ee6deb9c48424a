import RecordStore.Proofs.Number.Rounding

/-!
# The order of numbers

Numbers are compared by the values of their doubles, whatever their representations. Those values lie
on one line, from the negative to the positive infinity, on which only what is not a number has no
place. So the order is total and transitive across representations, and two numbers are the same when
they have the same place.

Integers may lose their differences on the way to that line, but rounding cannot turn them around:
a smaller integer is never found greater, and up to `2 ^ 53` nothing is lost.
-/

namespace RecordStore.Extended

/-! ### Places -/

/-- The place of a value on the line, its infinities in front of and behind everything finite. What is
not a number has none. -/
def place? : Extended → Option (Int × Int)
  | notNumber => none
  | negativeInfinity => some (-1, 0)
  | finite units => some (0, units)
  | positiveInfinity => some (1, 0)

theorem place?_eq_none_iff {x : Extended} : x.place? = none ↔ x = .notNumber := by
  cases x <;> simp [place?]

theorem le_iff {x y : Extended} :
    x.le y = true ↔ ∃ p q, x.place? = some p ∧ y.place? = some q ∧
      (p.1 < q.1 ∨ p.1 = q.1 ∧ p.2 ≤ q.2) := by
  cases x with
  | finite units => cases y <;> simp [le, compare, place?, Int.isLE_compare]
  | notNumber | negativeInfinity | positiveInfinity => cases y <;> simp [le, compare, place?]

theorem le_trans {x y z : Extended} (hxy : x.le y = true) (hyz : y.le z = true) :
    x.le z = true := by
  obtain ⟨p, q, hx, hy, hpq⟩ := le_iff.1 hxy
  obtain ⟨q', r, hy', hz, hqr⟩ := le_iff.1 hyz
  cases hy.symm.trans hy'
  refine le_iff.2 ⟨p, r, hx, hz, ?_⟩
  omega

theorem le_or_le {x y : Extended} (hx : x ≠ .notNumber) (hy : y ≠ .notNumber) :
    x.le y = true ∨ y.le x = true := by
  obtain ⟨p, hp⟩ := Option.ne_none_iff_exists'.1 (mt place?_eq_none_iff.1 hx)
  obtain ⟨q, hq⟩ := Option.ne_none_iff_exists'.1 (mt place?_eq_none_iff.1 hy)
  have hplace : (p.1 < q.1 ∨ p.1 = q.1 ∧ p.2 ≤ q.2) ∨ (q.1 < p.1 ∨ q.1 = p.1 ∧ q.2 ≤ p.2) := by
    omega
  rcases hplace with h | h
  · exact .inl (le_iff.2 ⟨p, q, hp, hq, h⟩)
  · exact .inr (le_iff.2 ⟨q, p, hq, hp, h⟩)

theorem le_self {x : Extended} (hx : x ≠ .notNumber) : x.le x = true :=
  (le_or_le hx hx).elim id id

theorem le_notNumber (x : Extended) : x.le .notNumber = false := by
  cases x <;> rfl

theorem notNumber_le (x : Extended) : notNumber.le x = false := rfl

/-! ### Comparisons -/

theorem compare_eq_none_iff {x y : Extended} :
    x.compare y = none ↔ x = .notNumber ∨ y = .notNumber := by
  cases x <;> cases y <;> simp [compare]

theorem compare_swap (x y : Extended) : y.compare x = (x.compare y).map Ordering.swap := by
  cases x with
  | finite units =>
    cases y with
    | finite others => exact congrArg some (Int.compare_swap units others).symm
    | notNumber | negativeInfinity | positiveInfinity => rfl
  | notNumber | negativeInfinity | positiveInfinity => cases y <;> rfl

theorem le_eq_true_iff {x y : Extended} :
    x.le y = true ↔ x.compare y = some .lt ∨ x.compare y = some .eq := by
  rw [le]
  rcases x.compare y with _ | _ | _ | _ <;> decide

theorem compare_eq_some_eq_iff {x y : Extended} :
    x.compare y = some .eq ↔ x.le y = true ∧ y.le x = true := by
  rw [le, le, compare_swap x y]
  rcases x.compare y with _ | _ | _ | _ <;> decide

end RecordStore.Extended

namespace RecordStore.Binary64

theorem value_eq_notNumber_iff {x : Binary64} :
    x.value = .notNumber ↔ x.exponent = 2 ^ 11 - 1 ∧ x.fraction ≠ 0 := by
  rw [value, Nat.pow_eq]
  split
  · next hexponent =>
    -- The infinities share this exponent, but have no fraction.
    by_cases hfraction : x.fraction = 0
    · cases hnegative : x.negative <;> simp [hfraction]
    · simp [hexponent, hfraction]
  · next hexponent => simp [hexponent]

end RecordStore.Binary64

namespace RecordStore.Number

def le (a b : Number) : Bool := (a.compare b).any Ordering.isLE

theorem le_eq_value_le (a b : Number) : a.le b = a.value.le b.value := rfl

theorem same_iff {a b : Number} : a.same b = true ↔ a.compare b = some .eq := by
  rw [same, beq_iff_eq]

theorem same_of_value_eq {a b : Number} (h : a.value = b.value) (ha : a.value ≠ .notNumber) :
    a.same b = true := by
  rw [same_iff, compare, ← h]
  exact Extended.compare_eq_some_eq_iff.2 ⟨Extended.le_self ha, Extended.le_self ha⟩

/-! ### Integers -/

/-- The integer that a number was made from, unless it is a double. -/
def toInt? : Number → Option Int
  | integer n => some n.toInt
  | natural n => some n.toNat
  | double _ => none

theorem natAbs_lt_of_toInt? {a : Number} {x : Int} (h : a.toInt? = some x) :
    x.natAbs < 2 ^ 1023 := by
  have hbound : x.natAbs < 2 ^ 64 := by
    cases a with
    | integer n =>
      cases h
      have hlow := n.le_toInt
      have hhigh := n.toInt_lt
      omega
    | natural n =>
      cases h
      exact n.toNat_lt
    | double _ => cases h
  exact Nat.lt_trans hbound (Nat.pow_lt_pow_right (by decide) (by decide))

theorem toBinary64_of_toInt? {a : Number} {x : Int} (h : a.toInt? = some x) :
    a.toBinary64 = .ofInt x := by
  cases a with
  | integer n | natural n =>
    cases h
    rfl
  | double _ => cases h

theorem isNearest_of_toInt? {a : Number} {x : Int} (h : a.toInt? = some x) :
    ∃ units, Binary64.IsNearest x a.toBinary64 units := by
  rw [toBinary64_of_toInt? h]
  exact Binary64.isNearest_ofInt (natAbs_lt_of_toInt? h)

theorem value_ne_of_toInt? {a : Number} {x : Int} (h : a.toInt? = some x) :
    a.value ≠ .notNumber := by
  obtain ⟨units, hunits⟩ := isNearest_of_toInt? h
  rw [value, hunits.value_eq]
  simp

theorem value_eq_notNumber_iff {a : Number} :
    a.value = .notNumber ↔ ∃ x, a = .double x ∧ x.exponent = 2 ^ 11 - 1 ∧ x.fraction ≠ 0 := by
  cases a with
  | integer n => simpa using value_ne_of_toInt? (a := .integer n) rfl
  | natural n => simpa using value_ne_of_toInt? (a := .natural n) rfl
  | double x =>
    have hvalue := Binary64.value_eq_notNumber_iff (x := x)
    simpa [value, toBinary64] using hvalue

/-- A number that stands for a count is the same as that count. -/
theorem same_of_toCount? {n : Number} {count : Nat} (h : n.toCount? = some count) :
    (ofCount count).same n = true :=
  same_of_value_eq (value_ofCount h) (value_ne_of_toInt? rfl)

/-- Rounding may make two integers the same but never turns their order around. -/
theorem le_of_toInt?_le {a b : Number} {x y : Int} (ha : a.toInt? = some x)
    (hb : b.toInt? = some y) (h : x ≤ y) : a.le b = true := by
  rcases Int.lt_or_eq_of_le h with hlt | rfl
  · obtain ⟨units, hunits⟩ := isNearest_of_toInt? ha
    obtain ⟨others, hothers⟩ := isNearest_of_toInt? hb
    rw [le_eq_value_le, value, value, hunits.value_eq, hothers.value_eq]
    exact Int.isLE_compare.2 (hunits.le hothers hlt)
  · have hvalue : a.value = b.value := by
      rw [value, value, toBinary64_of_toInt? ha, toBinary64_of_toInt? hb]
    rw [le_eq_value_le, hvalue]
    exact Extended.le_self (value_ne_of_toInt? hb)

theorem compare_of_toInt?_le {a b : Number} {x y : Int} (ha : a.toInt? = some x)
    (hb : b.toInt? = some y) (hx : x.natAbs ≤ 2 ^ 53) (hy : y.natAbs ≤ 2 ^ 53) :
    a.compare b = some (Ord.compare x y) := by
  have hpos := Extended.unitsPerOne_pos
  rw [compare, value, value, toBinary64_of_toInt? ha, toBinary64_of_toInt? hb,
    Binary64.value_ofInt_of_le hx, Binary64.value_ofInt_of_le hy]
  apply congrArg some
  rcases hcompare : Ord.compare x y with _ | _ | _
  · rw [Int.compare_eq_lt] at hcompare ⊢
    exact Int.mul_lt_mul_of_pos_right hcompare hpos
  · rw [Int.compare_eq_eq] at hcompare ⊢
    rw [hcompare]
  · rw [Int.compare_eq_gt] at hcompare ⊢
    exact Int.mul_lt_mul_of_pos_right hcompare hpos

/-! ### All numbers -/

/-- Numbers of all three representations, except for those that are none, are totally ordered up to
sameness. A double stands in this order by its own value, and integers keep their order as far as
doubles can tell them apart. -/
theorem compare_orders (a b c : Number) :
    (a.compare b = none ↔ a.value = .notNumber ∨ b.value = .notNumber) ∧
    (a.value = .notNumber ↔
      ∃ x, a = .double x ∧ x.exponent = 2 ^ 11 - 1 ∧ x.fraction ≠ 0) ∧
    (∀ x : Binary64, (double x).value = x.value) ∧
    (a.same b = true ↔ a.compare b = some .eq) ∧
    (a.le b = true ↔ a.compare b = some .lt ∨ a.compare b = some .eq) ∧
    b.compare a = (a.compare b).map Ordering.swap ∧
    (a.value ≠ .notNumber → a.compare a = some .eq) ∧
    (a.le b = true ∧ b.le a = true ↔ a.compare b = some .eq) ∧
    (a.le b = true → b.le c = true → a.le c = true) ∧
    ∀ x, a.toInt? = some x →
      (∃ units, Binary64.IsNearest x a.toBinary64 units) ∧
      ∀ y, b.toInt? = some y →
        (x ≤ y → a.compare b = some .lt ∨ a.compare b = some .eq) ∧
        (x.natAbs ≤ 2 ^ 53 → y.natAbs ≤ 2 ^ 53 → a.compare b = some (Ord.compare x y)) := by
  refine ⟨Extended.compare_eq_none_iff, value_eq_notNumber_iff, fun _ => rfl, same_iff,
    Extended.le_eq_true_iff, Extended.compare_swap _ _, ?_, Extended.compare_eq_some_eq_iff.symm,
    Extended.le_trans, ?_⟩
  · intro ha
    exact same_iff.1 (same_of_value_eq rfl ha)
  · intro x hx
    refine ⟨isNearest_of_toInt? hx, ?_⟩
    intro y hy
    refine ⟨?_, compare_of_toInt?_le hx hy⟩
    intro h
    exact Extended.le_eq_true_iff.1 (le_of_toInt?_le hx hy h)

/-- Next to `2 ^ 53` the integer above it is rounded down, so the two are no longer told apart. A
half keeps its place between two integers, and what is not a number has none, not even next to
itself. -/
theorem compare_orders_rounded :
    let half : Binary64 := ⟨0x3fe0000000000000⟩
    let undefined : Number := double ⟨0x7ff8000000000000⟩
    ((integer 9007199254740992).compare (natural 9007199254740993) = some .lt ∨
      (integer 9007199254740992).compare (natural 9007199254740993) = some .eq) ∧
    (integer (-7)).compare (natural 9007199254740992) = some .lt ∧
    (integer (-7)).le (double ⟨0x4340000000000000⟩) = true ∧
    (double half).value = .finite (Extended.unitsPerOne / 2) ∧
    (integer 0).compare (double half) = some .lt ∧
    (integer 1).compare (double half) = some .gt ∧
    undefined.value = .notNumber ∧ undefined.compare undefined = none ∧
    (natural 1).compare undefined = none := by
  intro half undefined
  have hbelow : (integer (-7)).le (natural 9007199254740992) = true := by decide +kernel
  have habove : (natural 9007199254740992).le (double ⟨0x4340000000000000⟩) = true := by
    decide +kernel
  obtain ⟨-, -, -, -, -, -, -, -, -, hrounded⟩ := compare_orders (integer 9007199254740992)
    (natural 9007199254740993) (natural 0)
  obtain ⟨-, -, -, -, -, -, -, -, htrans, hexact⟩ := compare_orders (integer (-7))
    (natural 9007199254740992) (double ⟨0x4340000000000000⟩)
  obtain ⟨-, -, hvalue, -, -, hswap, -⟩ := compare_orders (double half) (integer 1) (natural 0)
  have hhalf : half.value = .finite (Extended.unitsPerOne / 2) := by decide +kernel
  have hone : (double half).compare (integer 1) = some .lt := by decide +kernel
  obtain ⟨hnowhere, hnumber, -⟩ := compare_orders undefined undefined (natural 0)
  have hvoid : undefined.value = .notNumber :=
    hnumber.2 ⟨_, rfl, by decide +kernel, by decide +kernel⟩
  obtain ⟨hbeside, -⟩ := compare_orders (natural 1) undefined (natural 0)
  refine ⟨((hrounded _ rfl).2 _ rfl).1 (by decide), ?_, htrans hbelow habove,
    (hvalue half).trans hhalf, by decide +kernel, ?_, hvoid, hnowhere.2 (.inl hvoid),
    hbeside.2 (.inr hvoid)⟩
  · exact ((hexact _ rfl).2 _ rfl).2 (by decide) (by decide)
  · rw [hswap, hone]
    rfl

end RecordStore.Number
