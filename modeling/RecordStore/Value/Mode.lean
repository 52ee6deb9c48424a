/-!
# Comparison modes

A mode says how a value is tested against an operand. Five of them are decided by the order of the
two sides; the others look for a pattern, a member of a list, a place in an interval, or a truth.
-/

namespace RecordStore

/-- How a value is tested against an operand. -/
inductive Mode
  | exact
  | lessThan
  | greaterThan
  | lessThanEqual
  | greaterThanEqual
  | pattern
  | member
  | between
  | truth
deriving DecidableEq

namespace Mode

def token : Mode → String
  | exact => "="
  | lessThan => "<"
  | greaterThan => ">"
  | lessThanEqual => "<="
  | greaterThanEqual => ">="
  | pattern => "like"
  | member => "in"
  | between => "<>"
  | truth => "is"

/-- Whether the order of the two sides decides. -/
def isOrdering : Mode → Bool
  | exact | lessThan | greaterThan | lessThanEqual | greaterThanEqual => true
  | _ => false

/-- Whether an order of the two sides fulfils the mode. Modes that order does not decide accept
none. -/
def admits : Mode → Ordering → Bool
  | exact, order => order == .eq
  | lessThan, order => order == .lt
  | greaterThan, order => order == .gt
  | lessThanEqual, order => order != .gt
  | greaterThanEqual, order => order != .lt
  | _, _ => false

end Mode

end RecordStore
