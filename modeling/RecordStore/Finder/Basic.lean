import RecordStore.Finder.Error
import RecordStore.Finder.Name
import RecordStore.Program.Basic

/-!
# Finders

The words of a finder are read from left to right. `And` and `Or` end the comparison before them;
`Not` turns the comparison that is being read around, and `Like` makes it match a pattern; `Limit`,
as the very last word, asks for a cap. Where a comparison has no field yet, `Not`, `Like` and every
other word begin its name; words after that extend it. Keywords are recognised whatever the case of
their ASCII letters.

Read this way a name becomes a list of parts, and each comparison and the limit take one argument,
in order.
-/

namespace RecordStore

inductive FinderPart
  | compare (test : Test) (field : String)
  | connect (connective : Connective)
  | negate
  | limit
deriving DecidableEq

/-- A finder name that has been read, for a collection. -/
structure Finder where
  collection : String
  name : String
  multiplicity : Finder.Multiplicity
  parts : List FinderPart
deriving DecidableEq

namespace Finder

/-! ### Reading a name -/

/-- The words that have a meaning of their own. -/
inductive Keyword
  | connect (connective : Connective)
  | negate
  | like
  | limit
deriving DecidableEq

def keyword? (word : List Char) : Option Keyword :=
  let lower := Text.asciiLowercase word
  if lower = "and".toList then some (.connect .and)
  else if lower = "or".toList then some (.connect .or)
  else if lower = "not".toList then some .negate
  else if lower = "like".toList then some .like
  else if lower = "limit".toList then some .limit
  else none

/-- The comparison that is being read: the words of its field, run together, and whether the last of
its words made it match a pattern. -/
structure Clause where
  field : List Char := []
  like : Bool := false
deriving DecidableEq

namespace Clause

def part (clause : Clause) : FinderPart :=
  .compare (if clause.like then .like else .eq) (String.ofList (fieldName clause.field))

/-- The parts for a clause, which are none before it has a field. -/
def parts (clause : Clause) : List FinderPart :=
  if clause.field = [] then [] else [clause.part]

def extend (clause : Clause) (word : List Char) : Clause := ⟨clause.field ++ word, false⟩

end Clause

/-- The parts for a list of words, given the clause that is being read. The failure is the
connective that no field precedes. -/
def readParts (clause : Clause) : List (List Char) → Except (List Char) (List FinderPart)
  | [] => .ok clause.parts
  | word :: rest =>
    match keyword? word with
    | some (.connect connective) =>
      if clause.field = [] then .error word
      else
        (readParts {} rest).map fun parts => clause.part :: .connect connective :: parts
    | some .negate =>
      if clause.field = [] then readParts (clause.extend word) rest
      else (readParts clause rest).map (.negate :: ·)
    | some .like =>
      if clause.field = [] then readParts (clause.extend word) rest
      else readParts { clause with like := true } rest
    | some .limit =>
      if rest = [] then .ok (clause.parts ++ [.limit])
      else readParts (clause.extend word) rest
    | none => readParts (clause.extend word) rest

def read (collection name : String) : Except QueryFault Finder :=
  match splitOpening? name.toList with
  | none => .error (.badOpening name)
  | some (multiplicity, criteria) =>
    if criteria = [] then .error (.noCriteria name)
    else
      match readParts {} (splitWords criteria) with
      | .ok parts => .ok ⟨collection, name, multiplicity, parts⟩
      | .error word => .error (.danglingConnective name (String.ofList word))

/-! ### Binding arguments -/

def takesArgument : FinderPart → Bool
  | .compare _ _ | .limit => true
  | .connect _ | .negate => false

def arity (finder : Finder) : Nat := finder.parts.countP takesArgument

/-- The operand that an argument becomes: a string to be matched is a pattern. -/
def operandFor (test : Test) (argument : Operand) : Operand :=
  match test, argument with
  | .like, .string source => .like source
  | _, _ => argument

/-- The steps for a list of parts, which use up the arguments in order. -/
def bindParts (name : String) :
    List FinderPart → List Operand → Except QueryFault (List Step)
  | [], _ => .ok []
  | .connect connective :: parts, arguments =>
    (bindParts name parts arguments).map (⟨.connect connective none, none⟩ :: ·)
  | .negate :: parts, arguments => (bindParts name parts arguments).map (⟨.negate, none⟩ :: ·)
  | .compare _ _ :: _, [] => .error .tooFewArguments
  | .compare test field :: parts, argument :: arguments =>
    (bindParts name parts arguments).map
      (⟨.compare test (some field), some (operandFor test argument)⟩ :: ·)
  | .limit :: _, [] => .error .tooFewArguments
  | .limit :: parts, argument :: arguments =>
    match argument.count? with
    | none => .error (.badLimit name)
    | some n =>
      (bindParts name parts arguments).map (⟨.limit, some (.number (.ofCount n))⟩ :: ·)

/-- The program of a finder for the given arguments, whose number is checked first. -/
def bind (finder : Finder) (arguments : List Operand) : Except BindError Program :=
  if arguments.length ≠ finder.arity then .error (.wrongCount finder.arity arguments.length)
  else
    match bindParts finder.name finder.parts arguments with
    | .ok steps => .ok (steps.foldl Program.push (.on finder.collection))
    | .error fault => .error (.fault fault)

end Finder

end RecordStore
