/-!
# Kinds

The kinds of the values that records hold and of the operands that they are compared with. A failed
comparison names the kinds of both sides.
-/

namespace RecordStore

/-- The kind of a value or of an operand. A value has one of the first five. -/
inductive Kind
  | null
  | bool
  | number
  | char
  | string
  | list
  | range
  | pattern
  | truth
deriving DecidableEq

def Kind.name : Kind → String
  | null => "null"
  | bool => "bool"
  | number => "number"
  | char => "char"
  | string => "string"
  | list => "list"
  | range => "range"
  | pattern => "pattern"
  | truth => "truth"

end RecordStore
