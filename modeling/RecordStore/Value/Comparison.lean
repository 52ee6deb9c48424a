import RecordStore.Value.Operand

/-!
# Comparisons

What a value and an operand have to do with each other, whatever the mode: their order, whether they
are equal, which truth the value has, and whether it lies in an interval. An order needs two sides
of one kind or a null among them, and there is none otherwise. Equality has an answer for any two
kinds.
-/

namespace RecordStore

namespace Value

/-- The order of a value and an operand: undefined next to null or to what is not a number, and
without an answer when the two are of different kinds. -/
def order? : Value → Operand → Option (Option Ordering)
  | .null, _ => some none
  | _, .null => some none
  | .number a, .number b => some (a.compare b)
  | .string a, .string b => some (some (Ord.compare a b))
  | .char a, .char b => some (some (Ord.compare a b))
  | .bool a, .bool b => some (some (Ord.compare a b))
  | _, _ => none

/-- Whether a value equals an operand. Different kinds are different values. -/
def equals : Value → Operand → Bool
  | .null, .null => true
  | .bool a, .bool b => a == b
  | .number a, .number b => a.same b
  | .char a, .char b => a == b
  | .string a, .string b => a == b
  | _, _ => false

/-- Whether a value has the truth that is asked for. Only null is of unknown truth. -/
def hasTruth (v : Value) : Truth → Bool
  | .unknown => v.truth? == none
  | .true => v.truth? == some true
  | .false => v.truth? == some false

end Value

/-- Whether a number lies in the interval of two bounds, given in either order and both included. -/
def Number.between (n first second : Number) : Bool :=
  if first.value.le second.value then first.value.le n.value && n.value.le second.value
  else second.value.le n.value && n.value.le first.value

end RecordStore
