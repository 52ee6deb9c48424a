import RecordStore.Session.Error
import RecordStore.Value.Comparison

/-!
# Questions

A comparison that runs asks whether the value of a field fulfils a mode with respect to an operand.
Two sides are comparable only when they are of one kind. Null is the exception: it is comparable
with everything, but the order is then undefined, and no mode except the exact one with null on both
sides accepts that. A membership test compares with every candidate and takes those of another kind
as different; a truth test looks at the value alone.

The order of two sides can be asked for by itself, and its failure names the exact mode. Where a
mode needs the order, the failure is replaced by one that names that mode.

A pattern is always matched. What it is compiled to is a well formed expression, whatever the
pattern, and is taken to stay within the size that a matcher puts up with.
-/

namespace RecordStore

namespace Value

/-- The failure of a comparison whose two sides do not fit the mode or each other. -/
def mismatch (field : String) (mode : Mode) (v : Value) (operand : Operand) : EvalError :=
  .typeMismatch field mode operand.kind v.kind

def compare (field : String) (v : Value) (operand : Operand) :
    Except EvalError (Option Ordering) :=
  match v.order? operand with
  | some order => .ok order
  | none => .error (v.mismatch field .exact operand)

/-- Whether the value of a field fulfils a mode with respect to an operand. -/
def fulfils (field : String) (v : Value) (operand : Operand) (mode : Mode) :
    Except EvalError Bool :=
  match mode with
  | .exact =>
    match v, operand with
    | .null, .null => .ok true
    | .null, _ => .ok false
    | _, .null => .ok false
    | _, _ =>
      ((v.compare field operand).mapError fun _ => v.mismatch field mode operand).map
        (· == some .eq)
  | .lessThan | .greaterThan | .lessThanEqual | .greaterThanEqual =>
    ((v.compare field operand).mapError fun _ => v.mismatch field mode operand).map
      fun order => order.any mode.admits
  | .pattern =>
    match v, operand with
    | .null, _ => .ok false
    | .string s, .pattern glob => .ok (glob.isMatch s)
    | _, _ => .error (v.mismatch field mode operand)
  | .member =>
    match operand with
    | .list items => .ok (items.any v.equals)
    | _ => .error (v.mismatch field mode operand)
  | .between =>
    match v, operand with
    | .null, .range _ _ => .ok false
    | .number n, .range first second => .ok (n.between first second)
    | _, _ => .error (v.mismatch field mode operand)
  | .truth =>
    match operand with
    | .truth answer => .ok (v.hasTruth answer)
    | _ => .error (v.mismatch field mode operand)

end Value

structure Question where
  field : String
  operand : Operand
  mode : Mode

def Question.answer (q : Question) (v : Value) : Except EvalError Bool :=
  v.fulfils q.field q.operand q.mode

end RecordStore
