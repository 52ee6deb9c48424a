import RecordStore.Number.Binary64

/-!
# Shortest decimal text

A finite number is written with the fewest digits that no other number of its format is nearer to,
and among those with the nearest. Every finite number, and every midpoint between two neighbours, is
a whole multiple of `10 ^ -1075`, so the search works on natural numbers only: it asks, for one
digit, then two, and so on, whether the number's lower or upper neighbour on that decimal grid reads
back.

The text is positional for every size: all digits are written out and no exponent is used.
-/

namespace RecordStore

open Nat (pow)

/-- The decimal number `digits * 10 ^ exponent`. -/
structure Decimal where
  digits : Nat
  exponent : Int
deriving DecidableEq

namespace Decimal

/-- The same decimal number without trailing zeros among its digits. -/
def reduced (d : Decimal) : Decimal :=
  if h : d.digits ≠ 0 ∧ d.digits % 10 = 0 then reduced ⟨d.digits / 10, d.exponent + 1⟩ else d
termination_by d.digits
decreasing_by omega

def text (d : Decimal) : String :=
  let digits := Nat.toDigits 10 d.digits
  if 0 ≤ d.exponent then String.ofList (digits ++ List.replicate d.exponent.toNat '0')
  else
    let places := (-d.exponent).toNat
    let padded := List.replicate (places + 1 - digits.length) '0' ++ digits
    let whole := padded.length - places
    String.ofList (padded.take whole ++ '.' :: padded.drop whole)

end Decimal

namespace Binary64

/-- The reals that round to a positive finite number: the ends lie halfway to its neighbours and
belong to it when they are `closed`. All three are counted in units of `10 ^ -1075`. -/
structure RoundingInterval where
  lower : Nat
  center : Nat
  upper : Nat
  closed : Bool

def RoundingInterval.holds (i : RoundingInterval) (x : Nat) : Bool :=
  if i.closed then i.lower ≤ x && x ≤ i.upper else i.lower < x && x < i.upper

/-- The interval of a positive finite number. The neighbour below a power of two is half as far away
as the one above. -/
def roundingInterval (x : Binary64) : RoundingInterval :=
  let above := pow 2 x.scale
  let below := if x.significand = pow 2 52 ∧ 0 < x.scale then pow 2 (x.scale - 1) else above
  let center := 2 * x.magnitude
  { lower := (center - below) * pow 5 1075
    center := center * pow 5 1075
    upper := (center + above) * pow 5 1075
    closed := x.significand % 2 = 0 }

/-- The point of the interval on the grid of the multiples of `step` that is nearest to its center,
a tie going up, if one of the center's two neighbours on that grid lies in the interval. -/
def RoundingInterval.nearest? (i : RoundingInterval) (step : Nat) : Option Nat :=
  let below := i.center / step * step
  let above := below + step
  match i.holds below, i.holds above with
  | true, true => some (if above - i.center ≤ i.center - below then above else below)
  | true, false => some below
  | false, true => some above
  | false, false => none

/-- The shortest decimal number that reads back as a positive finite number. Seventeen digits always
suffice. -/
def shortest (x : Binary64) : Decimal :=
  let interval := x.roundingInterval
  let width := (Nat.toDigits 10 interval.center).length
  let found := (List.range 17).findSome? fun k =>
    let step := pow 10 (width - (k + 1))
    (interval.nearest? step).map fun point =>
      (⟨point / step, (width - (k + 1) : Nat) - 1075⟩ : Decimal)
  (found.getD ⟨interval.center, -1075⟩).reduced

def text (x : Binary64) : String :=
  match x.value with
  | .notNumber => "NaN"
  | .positiveInfinity => "inf"
  | .negativeInfinity => "-inf"
  | .finite _ =>
    (if x.negative then "-" else "") ++ if x.magnitude = 0 then "0" else x.shortest.text

end Binary64

end RecordStore
