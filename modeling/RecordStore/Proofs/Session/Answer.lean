import RecordStore.Session.Question

/-!
# Answers

Whatever the mode, a question has an answer or ends in the mismatch that names the mode asked for,
even where the order that was needed failed under the name of another. The field does nothing but
stand in that failure. So an answer comes down to a test of the value against the operand, which has
no result where there is a mismatch.
-/

namespace RecordStore

namespace Value

/-- Whether a value fulfils a mode with respect to an operand, without a result when the two do not
fit the mode or each other. -/
def test? (v : Value) (operand : Operand) (mode : Mode) : Option Bool :=
  match mode with
  | .exact =>
    match v, operand with
    | .null, .null => some true
    | .null, _ => some false
    | _, .null => some false
    | _, _ => (v.order? operand).map (· == some .eq)
  | .lessThan | .greaterThan | .lessThanEqual | .greaterThanEqual =>
    (v.order? operand).map fun order => order.any mode.admits
  | .pattern =>
    match v, operand with
    | .null, _ => some false
    | .string s, .pattern glob => some (glob.isMatch s)
    | _, _ => none
  | .member =>
    match operand with
    | .list items => some (items.any v.equals)
    | _ => none
  | .between =>
    match v, operand with
    | .null, .range _ _ => some false
    | .number n, .range first second => some (n.between first second)
    | _, _ => none
  | .truth =>
    match operand with
    | .truth answer => some (v.hasTruth answer)
    | _ => none

end Value

theorem Value.mapError_compare (field : String) (v : Value) (operand : Operand) (mode : Mode) :
    ((v.compare field operand).mapError fun _ => v.mismatch field mode operand) =
      match v.order? operand with
      | some order => .ok order
      | none => .error (v.mismatch field mode operand) := by
  rw [compare]
  cases v.order? operand <;> rfl

namespace Question

theorem answer_eq_test? (q : Question) (v : Value) :
    q.answer v =
      match v.test? q.operand q.mode with
      | some verdict => .ok verdict
      | none => .error (v.mismatch q.field q.mode q.operand) := by
  obtain ⟨field, operand, mode⟩ := q
  cases mode with
  | lessThan | greaterThan | lessThanEqual | greaterThanEqual =>
    simp only [answer, Value.fulfils, Value.mapError_compare, Value.test?]
    cases v.order? operand <;> rfl
  | exact | pattern | member | between | truth => cases v <;> cases operand <;> rfl

theorem answer_eq_ok_iff {q : Question} {v : Value} {verdict : Bool} :
    q.answer v = .ok verdict ↔ v.test? q.operand q.mode = some verdict := by
  rw [answer_eq_test?]
  cases v.test? q.operand q.mode <;> simp

theorem answer_eq_error_iff {q : Question} {v : Value} {error : EvalError} :
    q.answer v = .error error ↔
      v.test? q.operand q.mode = none ∧ error = v.mismatch q.field q.mode q.operand := by
  rw [answer_eq_test?]
  cases v.test? q.operand q.mode <;> simp [eq_comm]

end Question

end RecordStore
