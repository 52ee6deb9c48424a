import RecordStore.Program.Step

/-!
# Why an evaluation fails

The evaluation of a record fails when a field is unknown, when a value does not fit the mode or the
operand, or when a comparison lacks its field or its operand. A scan that fails adds the position of
the record. There is no failure for a pattern, since every pattern is taken to compile.
-/

namespace RecordStore

/-- Why the evaluation of one record failed. -/
inductive EvalError
  | fieldNotFound (record field : String)
  | typeMismatch (field : String) (mode : Mode) (expected actual : Kind)
  | noFieldBound (command : Command)
  | missingOperand (command : Command) (field : String)
deriving DecidableEq

def EvalError.message : EvalError → String
  | fieldNotFound record field => "field '" ++ field ++ "' not found on " ++ record
  | typeMismatch field mode expected actual =>
    "type mismatch on '" ++ field ++ "': " ++ mode.token ++ " cannot compare " ++ actual.name ++
      " field with " ++ expected.name ++ " operand"
  | noFieldBound command =>
    command.name ++ " has no field bound; call where_ (or and_where/or_where) first"
  | missingOperand command field => command.name ++ " on '" ++ field ++ "' has no operand"

/-- The failure of a scan: the position of the record that could not be evaluated, and why. -/
structure ScanError where
  position : Nat
  cause : EvalError
deriving DecidableEq

def ScanError.message (e : ScanError) : String :=
  "record #" ++ toString e.position ++ ": " ++ e.cause.message

end RecordStore
