/-!
# Double-precision numbers

A number of this format is its 64 bits: a sign, eleven bits of exponent and fifty-two of fraction.
Every finite one is a whole multiple of `2 ^ -1074`, so its exact value is an integer count of those
units. Order and rounding are then integer arithmetic, and nothing here rests on the machine's own
floating point. Powers are called by name, because the sign for them would come to mean another
operation, if an equal one, wherever monoids are known.
-/

namespace RecordStore

open Nat (pow)

/-- A double-precision number, given by its bits. -/
structure Binary64 where
  bits : UInt64
deriving DecidableEq

/-- What the bits of a number denote. A finite value is counted in units of `2 ^ -1074`. -/
inductive Extended
  | notNumber
  | negativeInfinity
  | finite (units : Int)
  | positiveInfinity
deriving DecidableEq

namespace Extended

def compare : Extended → Extended → Option Ordering
  | notNumber, _ => none
  | _, notNumber => none
  | finite x, finite y => some (Ord.compare x y)
  | negativeInfinity, negativeInfinity => some .eq
  | positiveInfinity, positiveInfinity => some .eq
  | negativeInfinity, _ => some .lt
  | _, negativeInfinity => some .gt
  | positiveInfinity, _ => some .gt
  | _, positiveInfinity => some .lt

/-- Whether one value is at most another; never when one of them is not a number. -/
def le (x y : Extended) : Bool := (x.compare y).any Ordering.isLE

/-- How many units of `2 ^ -1074` make one. -/
def unitsPerOne : Int := pow 2 1074

end Extended

namespace Binary64

/-! ### The fields and the value -/

/-- The sign bit: whether the number is negative, zero included. -/
def negative (x : Binary64) : Bool := pow 2 63 ≤ x.bits.toNat

def exponent (x : Binary64) : Nat := x.bits.toNat / pow 2 52 % pow 2 11

def fraction (x : Binary64) : Nat := x.bits.toNat % pow 2 52

/-- The significand of a finite number: the fraction under its leading bit, which the smallest
exponent lacks. -/
def significand (x : Binary64) : Nat :=
  if x.exponent = 0 then x.fraction else pow 2 52 + x.fraction

/-- The power of two that scales the significand to units of `2 ^ -1074`. The two smallest exponents
share it. -/
def scale (x : Binary64) : Nat := x.exponent - 1

/-- The absolute value of a finite number, in units of `2 ^ -1074`. -/
def magnitude (x : Binary64) : Nat := x.significand * pow 2 x.scale

/-- The value that the bits denote. The largest exponent holds the infinities and what is not a
number. -/
def value (x : Binary64) : Extended :=
  if x.exponent = pow 2 11 - 1 then
    if x.fraction ≠ 0 then .notNumber
    else if x.negative then .negativeInfinity else .positiveInfinity
  else .finite (if x.negative then -(x.magnitude : Int) else x.magnitude)

/-! ### Conversion from integers and from single precision -/

/-- `n / 2 ^ k` as the nearest whole number, a half going to the even neighbour. -/
def roundShift (n k : Nat) : Nat :=
  let quotient := n / pow 2 k
  let remainder := n % pow 2 k
  if 2 * remainder < pow 2 k ∨ (2 * remainder = pow 2 k ∧ quotient % 2 = 0) then quotient
  else quotient + 1

/-- The significand of a positive whole number, rounded to fifty-three bits. It may come out as
`2 ^ 53`, one bit too long. -/
def roundedSignificand (n : Nat) : Nat :=
  if n.log2 ≤ 52 then n * pow 2 (52 - n.log2) else roundShift n (n.log2 - 52)

/-- The bits, less the sign, of the number nearest to a whole number, a tie going to the even
significand. The leading bit of the significand adds one to the exponent field, and so does a
significand that is one bit too long, which makes its carry come out right. -/
def natBits (n : Nat) : Nat :=
  if n = 0 then 0 else (n.log2 + 1022) * pow 2 52 + roundedSignificand n

def ofParts (negative : Bool) (low : Nat) : Binary64 :=
  ⟨UInt64.ofNat (low + if negative then pow 2 63 else 0)⟩

/-- The number nearest to an integer below `2 ^ 1023` in absolute value. -/
def ofInt (n : Int) : Binary64 := ofParts (n < 0) (natBits n.natAbs)

/-- The number of double precision with the value of a number of single precision, which is always
exact. Single precision has eight bits of exponent and twenty-three of fraction, and its smallest
positive value is `2 ^ -149`. -/
def ofSingle (single : UInt32) : Binary64 :=
  let negative := pow 2 31 ≤ single.toNat
  let exponent := single.toNat / pow 2 23 % pow 2 8
  let fraction := single.toNat % pow 2 23
  ofParts negative <|
    if exponent = pow 2 8 - 1 then (pow 2 11 - 1) * pow 2 52 + fraction * pow 2 29
    else if exponent ≠ 0 then (exponent + 896) * pow 2 52 + fraction * pow 2 29
    else if fraction = 0 then 0
    else (fraction.log2 + 873) * pow 2 52 + fraction * pow 2 (52 - fraction.log2)

/-! ### Whole numbers -/

/-- The count that a number stands for: its value when that is whole, not negative and at most
`2 ^ 64`. The last one is beyond every count and gives the largest. -/
def toCount? (x : Binary64) : Option Nat :=
  match x.value with
  | .finite units =>
    if 0 ≤ units ∧ units % Extended.unitsPerOne = 0 ∧
        units ≤ pow 2 64 * Extended.unitsPerOne then
      some (min (units / Extended.unitsPerOne).toNat (pow 2 64 - 1))
    else none
  | _ => none

end Binary64

end RecordStore
