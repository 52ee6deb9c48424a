import RecordStore.Program.Basic
import RecordStore.Session.Question

/-!
# Sessions

A record is evaluated by replaying the steps of a program over a small state: the verdict so far,
whether the next comparison is skipped or turned around, and the field that is bound. There is
neither precedence nor grouping. A connective only decides whether the next comparison runs, and a
skipped comparison looks nothing up, so that whatever is wrong with it goes unnoticed.

A step is settled by the state alone, except for a comparison that runs: that one asks a question,
and the answer is fed back. Where the answers come from is left open, so the same session serves a
record at rest and one that is looked up while the store changes.
-/

namespace RecordStore

/-- What a session remembers between two steps. -/
structure Session where
  verdict : Bool := false
  skip : Bool := false
  negate : Bool := false
  field : Option String := none
deriving DecidableEq

/-- Where one step takes a session. -/
inductive Transition
  | settled (next : Session)
  | asks (question : Question) (inverts : Bool)
  | fails (error : EvalError)

namespace Session

/-- Where a comparison takes a session. A skipped one uses up the skip and the negation. -/
def compare (s : Session) (test : Test) (field : Option String) (operand : Option Operand) :
    Transition :=
  if s.skip then .settled { s with skip := false, negate := false }
  else
    match field.or s.field with
    | none => .fails (.noFieldBound (.compare test field.isSome))
    | some name =>
      match operand with
      | none => .fails (.missingOperand (.compare test field.isSome) name)
      | some operand => .asks ⟨name, operand, test.mode⟩ test.inverts

def step (s : Session) (step : Step) : Transition :=
  match step.action with
  | .connect connective field =>
    .settled { s with skip := connective.settledBy s.verdict, field := field.or s.field }
  | .negate => .settled { s with negate := true }
  | .bind field => .settled { s with field := field.or s.field }
  | .limit => .settled s
  | .compare test field => s.compare test field step.operand

def answered (s : Session) (inverts answer : Bool) : Session :=
  { s with verdict := (answer ^^ s.negate) ^^ inverts, negate := false }

/-! ### Replaying steps

Field values come from a lookup, which may depend on a surrounding state and change it. Whether the
answer is used or not, the change is kept.
-/

/-- A source of field values for one record within a surrounding state. -/
abbrev Lookup (σ : Type) := String → σ → Except EvalError Value × σ

variable {σ : Type}

/-- Takes one step, looking a field up when the step asks a question. -/
def advance (lookup : Lookup σ) (s : Session) (step : Step) (state : σ) :
    Except EvalError Session × σ :=
  match s.step step with
  | .settled next => (.ok next, state)
  | .fails error => (.error error, state)
  | .asks question inverts =>
    let found := lookup question.field state
    ((found.1.bind question.answer).map (s.answered inverts), found.2)

/-- Takes all steps in turn, up to the first that fails. -/
def replay (lookup : Lookup σ) (s : Session) : List Step → σ → Except EvalError Session × σ
  | [], state => (.ok s, state)
  | step :: rest, state =>
    match s.advance lookup step state with
    | (.ok next, state) => next.replay lookup rest state
    | (.error error, state) => (.error error, state)

/-- What a replay passes through: the sessions after each of the steps, the failure that ended them,
if there was one, and the state at the end. -/
structure Trail (σ : Type) where
  sessions : List Session
  failure : Option EvalError
  state : σ

/-- Takes all steps in turn, up to the first that fails, and keeps every session on the way. -/
def trail (lookup : Lookup σ) (s : Session) : List Step → σ → Trail σ
  | [], state => ⟨[], none, state⟩
  | step :: rest, state =>
    match s.advance lookup step state with
    | (.ok next, state) =>
      let later := next.trail lookup rest state
      { later with sessions := next :: later.sessions }
    | (.error error, state) => ⟨[], some error, state⟩

end Session

/-! ### Evaluating programs -/

/-- The fields of one record, as far as it has them. -/
abbrev Fields := String → Except EvalError Value

namespace Fields

/-- The lookup that answers from fixed fields and touches no state. -/
def lookup (fields : Fields) {σ : Type} : Session.Lookup σ := fun name state => (fields name, state)

/-- The lookup that answers from fixed fields and notes every name that is looked up. -/
def noted (fields : Fields) : Session.Lookup (List String) :=
  fun name names => (fields name, names ++ [name])

end Fields

namespace Program

/-- The verdict of a program on a record whose fields are looked up within a surrounding state. -/
def judge {σ : Type} (program : Program) (lookup : Session.Lookup σ) (state : σ) :
    Except EvalError Bool × σ :=
  let last := Session.replay lookup {} program.steps state
  (last.1.map Session.verdict, last.2)

def verdict (program : Program) (fields : Fields) : Except EvalError Bool :=
  (program.judge fields.lookup ()).1

end Program

end RecordStore
