import RecordStore.Program.Basic

/-!
# The text of a program

A program is written as a query for people to read. Each comparison is preceded by its field, which
is written as soon as it is bound; a negation that follows the binding is moved in front of the last
word, so that it reads before the field. Steps that do nothing are not written, and neither is a
limit among the steps: the one in force stands at the end.
-/

namespace RecordStore

namespace Program

/-- The words written so far, the field that is bound, and whether that field has been written and
still waits for its operator. -/
structure Draft where
  words : List String := []
  field : Option String := none
  pending : Bool := false

/-- What is written where a field or an operand is missing. -/
def unbound : String := "?"

def fieldWord (field : Option String) : String := field.getD unbound

def operandWord (operand : Option Operand) : String := (operand.map Operand.text).getD unbound

namespace Draft

def write (draft : Draft) (words : List String) : Draft :=
  { draft with words := draft.words ++ words }

def writeBeforeLast (draft : Draft) (word : String) : Draft :=
  { draft with words := draft.words.dropLast ++ word :: draft.words.getLast?.toList }

def bind (draft : Draft) (field : String) : Draft :=
  { words := draft.words ++ [field], field := some field, pending := true }

/-- The words for the subject of a comparison: its own field, or the bound one unless that has just
been written. -/
def subject (draft : Draft) : Option String → List String
  | some field => [field]
  | none => if draft.pending then [] else [fieldWord draft.field]

def step (draft : Draft) (step : Step) : Draft :=
  match step.action with
  | .bind none | .limit => draft
  | .bind (some field) => draft.bind field
  | .connect connective none => draft.write [connective.token]
  | .connect connective (some field) => (draft.write [connective.token]).bind field
  | .negate =>
    if draft.pending then draft.writeBeforeLast Command.negate.token
    else draft.write [Command.negate.token]
  | .compare test field =>
    { draft.write (draft.subject field ++ [test.token, operandWord step.operand]) with
      pending := false }

end Draft

def words (steps : List Step) : List String := (steps.foldl Draft.step {}).words

def text (program : Program) : String :=
  let clause := words program.steps
  "select * from " ++ program.collection.getD "records" ++
    (if clause.isEmpty then "" else " where " ++ String.intercalate " " clause) ++
    match program.limit with
    | some n => " limit " ++ toString n
    | none => ""

end Program

end RecordStore
