import RecordStore.Value.Mode
import RecordStore.Value.Operand

/-!
# Steps

A program is a list of steps. A step compares a field, joins the next comparison to the verdict so
far, turns the next comparison around, binds the field that later comparisons speak of, or caps the
number of results. What a step does, together with the field that it names, is its action; the
action with the name forgotten is its command. Any step may carry an operand, though only
comparisons and limits look at theirs.
-/

namespace RecordStore

/-- How the next comparison is joined to the verdict so far. -/
inductive Connective
  | and
  | or
deriving DecidableEq

namespace Connective

def token : Connective → String
  | and => "and"
  | or => "or"

/-- Whether the verdict so far already decides, so that the next comparison need not run. -/
def settledBy : Connective → Bool → Bool
  | and, verdict => !verdict
  | or, verdict => verdict

end Connective

inductive Test
  | eq
  | ne
  | lt
  | gt
  | le
  | ge
  | like
  | member
  | between
  | is
  | isNot
deriving DecidableEq

namespace Test

def mode : Test → Mode
  | eq | ne => .exact
  | lt => .lessThan
  | gt => .greaterThan
  | le => .lessThanEqual
  | ge => .greaterThanEqual
  | like => .pattern
  | member => .member
  | between => .between
  | is | isNot => .truth

/-- Whether a test asks for the opposite of what its mode finds. -/
def inverts : Test → Bool
  | ne | isNot => true
  | _ => false

def token : Test → String
  | ne => "!="
  | isNot => "is not"
  | test => test.mode.token

def name : Test → String
  | eq => "Eq"
  | ne => "Ne"
  | lt => "Lt"
  | gt => "Gt"
  | le => "Le"
  | ge => "Ge"
  | like => "Like"
  | member => "In"
  | between => "Between"
  | is => "Is"
  | isNot => "IsNot"

end Test

/-! ### Commands -/

/-- What a step does, apart from the field that it names. The flag says whether it names one. -/
inductive Command
  | connect (connective : Connective) (named : Bool)
  | negate
  | bind (named : Bool)
  | compare (test : Test) (named : Bool)
  | limit
deriving DecidableEq

namespace Command

def takesField : Command → Bool
  | connect _ named | bind named | compare _ named => named
  | negate | limit => false

def mode? : Command → Option Mode
  | compare test _ => some test.mode
  | _ => none

def isComparison (command : Command) : Bool := command.mode?.isSome

/-- Whether the verdict of a step of this command is the opposite of what its mode finds. -/
def inverts : Command → Bool
  | compare test _ => test.inverts
  | _ => false

/-- The word or operator under which a command is written. A binding has none. -/
def token : Command → String
  | connect connective _ => connective.token
  | negate => "not"
  | bind _ => ""
  | compare test _ => test.token
  | limit => "limit"

/-- How the name of a command shows that it names a field. -/
def fieldMark (named : Bool) : String := if named then "Field" else ""

def name : Command → String
  | connect .and named => "And" ++ fieldMark named
  | connect .or named => "Or" ++ fieldMark named
  | negate => "Not"
  | bind named => "Where" ++ fieldMark named
  | compare test named => test.name ++ fieldMark named
  | limit => "Limit"

def all : List Command :=
  let tests : List Test :=
    [.eq, .ne, .lt, .gt, .le, .ge, .like, .member, .between, .is, .isNot]
  let both := fun (command : Bool → Command) => [command false, command true]
  both (connect .and) ++ both (connect .or) ++ [negate] ++ both bind ++
    tests.flatMap (fun test => both (compare test)) ++ [limit]

def ofName? (name : String) : Option Command := all.find? (·.name == name)

end Command

/-! ### Actions and steps -/

/-- What a step does, with the field that it names, if any. -/
inductive Action
  | connect (connective : Connective) (field : Option String)
  | negate
  | bind (field : Option String)
  | compare (test : Test) (field : Option String)
  | limit
deriving DecidableEq

namespace Action

def command : Action → Command
  | connect connective field => .connect connective field.isSome
  | negate => .negate
  | bind field => .bind field.isSome
  | compare test field => .compare test field.isSome
  | limit => .limit

def field : Action → Option String
  | connect _ field | bind field | compare _ field => field
  | negate | limit => none

end Action

structure Step where
  action : Action
  operand : Option Operand := none

namespace Step

def command (step : Step) : Command := step.action.command

def field (step : Step) : Option String := step.action.field

/-- Whether two steps are the same, their operands compared as operands. -/
def same (a b : Step) : Bool :=
  a.action == b.action &&
    match a.operand, b.operand with
    | none, none => true
    | some x, some y => x.same y
    | _, _ => false

/-- Why a command and a field make no step. -/
inductive Malformed
  | fieldMissing (command : Command)
  | fieldUnexpected (command : Command)
deriving DecidableEq

def Malformed.message : Malformed → String
  | fieldMissing command => command.name ++ " requires a field name"
  | fieldUnexpected command => command.name ++ " does not take a field name"

/-- The action of a command without a field name, if it is one that does without. -/
def plainAction? (command : Command) : Except Malformed Action :=
  match command with
  | .connect connective false => .ok (.connect connective none)
  | .negate => .ok .negate
  | .bind false => .ok (.bind none)
  | .compare test false => .ok (.compare test none)
  | .limit => .ok .limit
  | .connect _ true | .bind true | .compare _ true => .error (.fieldMissing command)

/-- The action of a command on a named field, if it is one that takes a name. -/
def namedAction? (command : Command) (field : String) : Except Malformed Action :=
  match command with
  | .connect connective true => .ok (.connect connective (some field))
  | .bind true => .ok (.bind (some field))
  | .compare test true => .ok (.compare test (some field))
  | .negate | .limit | .connect _ false | .bind false | .compare _ false =>
    .error (.fieldUnexpected command)

/-- The step of a command, with a field name exactly when the command takes one. -/
def make? (command : Command) (field : Option String) (operand : Option Operand) :
    Except Malformed Step :=
  match field with
  | none => (plainAction? command).map fun action => ⟨action, operand⟩
  | some name => (namedAction? command name).map fun action => ⟨action, operand⟩

end Step

end RecordStore
