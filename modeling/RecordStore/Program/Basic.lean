import RecordStore.Program.Step

/-!
# Programs

A program is a query in replayable form: its steps in the order in which they are evaluated, the
collection that it is meant for, and the cap on the number of results. It is built by appending
steps, and the cap is kept beside them: it is set by every limit step whose operand stands for a
count, the last one winning, and a cap of zero means that there is none.
-/

namespace RecordStore

/-- A query: steps in order of evaluation, with a target and a cap. -/
structure Program where
  collection : Option String := none
  steps : List Step := []
  cap : Option Nat := none

namespace Program

def on (collection : String) : Program := ⟨some collection, [], none⟩

def withCollection (program : Program) (collection : String) : Program :=
  ⟨some collection, program.steps, program.cap⟩

/-- The cap that a step sets: the count that the operand of a limit stands for. -/
def capOf (step : Step) : Option Nat :=
  match step.action with
  | .limit => step.operand.bind Operand.count?
  | _ => none

/-- The program with one more step, which sets the cap if it can. -/
def push (program : Program) (step : Step) : Program :=
  ⟨program.collection, program.steps ++ [step], (capOf step).or program.cap⟩

/-- The most results that the program wants, if it is bounded. -/
def limit (program : Program) : Option Nat := program.cap.filter (0 < ·)

/-- Whether a program has no steps. It then matches nothing. -/
def isEmpty (program : Program) : Bool := program.steps.isEmpty

def sameSteps : List Step → List Step → Bool
  | [], [] => true
  | a :: as, b :: bs => a.same b && sameSteps as bs
  | _, _ => false

def same (a b : Program) : Bool :=
  a.collection == b.collection && sameSteps a.steps b.steps && a.cap == b.cap

/-! ### Appending steps -/

/-- Appends a step with an action and, if it has one, an operand. -/
def append (program : Program) (action : Action) (operand : Option Operand := none) : Program :=
  program.push ⟨action, operand⟩

/-- Binds the field that the following comparisons speak of. -/
def whereField (program : Program) (field : String) : Program :=
  program.append (.bind (some field))

/-- Keeps the bound field, which changes nothing. -/
def whereCurrent (program : Program) : Program := program.append (.bind none)

def connect (program : Program) (connective : Connective) (field : Option String := none) :
    Program :=
  program.append (.connect connective field)

def negate (program : Program) : Program := program.append .negate

def compare (program : Program) (test : Test) (operand : Operand) : Program :=
  program.append (.compare test none) (some operand)

def compareField (program : Program) (field : String) (test : Test) (operand : Operand) :
    Program :=
  program.append (.compare test (some field)) (some operand)

def isNull (program : Program) : Program := program.compare .is (.truth .unknown)

def isNotNull (program : Program) : Program := program.compare .isNot (.truth .unknown)

def limitTo (program : Program) (n : Nat) : Program :=
  program.append .limit (some (.number (.ofCount n)))

end Program

end RecordStore
