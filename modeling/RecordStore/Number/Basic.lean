import RecordStore.Number.Decimal

/-!
# Numbers

A number is a signed or an unsigned 64-bit integer or a double-precision number. The three are told
apart only where a number is written out or counted. Everywhere else a number is the double nearest
to it, so that an integer and a double of one value are equal, and two integers beyond `2 ^ 53` that
round to the same double are equal as well.
-/

namespace RecordStore

inductive Number
  | integer (n : Int64)
  | natural (n : UInt64)
  | double (x : Binary64)
deriving DecidableEq

namespace Number

/-- The double nearest to a number. -/
def toBinary64 : Number → Binary64
  | integer n => .ofInt n.toInt
  | natural n => .ofInt n.toNat
  | double x => x

/-- The value by which a number is compared. -/
def value (n : Number) : Extended := n.toBinary64.value

/-- The order of two numbers, undefined when one of them is not a number. -/
def compare (a b : Number) : Option Ordering := a.value.compare b.value

/-- Two numbers are the same when their order is defined and neither is smaller. -/
def same (a b : Number) : Bool := a.compare b == some .eq

/-- The count that a number stands for, if it is a whole number that is not negative. -/
def toCount? : Number → Option Nat
  | integer n => if 0 ≤ n.toInt then some n.toInt.toNat else none
  | natural n => some n.toNat
  | double x => x.toCount?

def text : Number → String
  | integer n => toString n.toInt
  | natural n => toString n.toNat
  | double x => x.text

def ofCount (n : Nat) : Number := natural (UInt64.ofNat n)

end Number

end RecordStore
