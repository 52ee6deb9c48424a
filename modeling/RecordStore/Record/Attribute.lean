import RecordStore.Record.Lexeme
import RecordStore.Text.Letter

/-!
# Field attributes

An attribute on a field of a record type can keep the field out of queries or give it another name
there. Only the first record attribute of a field counts, and within it the last name. A name has to
be an identifier, and a field that is kept out can have none.
-/

namespace RecordStore.Record

inductive Entry
  | skip
  | rename (name : String)
  | renameByExpression
  | unknown
deriving DecidableEq

/-- An attribute of a field, as far as records are concerned. -/
inductive Attribute
  | record (entries : List Entry)
  | recordWithoutEntries
  | recordAssigned
  | foreign
deriving DecidableEq

inductive AttributeError
  | nameNotIdentifier
  | nameNotLiteral
  | unknownEntry
  | skippedAndRenamed
  | entriesMissing
  | entriesAssigned
deriving DecidableEq

def AttributeError.message : AttributeError → String
  | nameNotIdentifier => "rename must be a non-empty identifier (letters, digits, '_')"
  | nameNotLiteral => "rename must be a string literal"
  | unknownEntry => "unknown record attribute. Expected: skip or rename = \"...\""
  | skippedAndRenamed => "skip and rename cannot be combined"
  | entriesMissing => "expected attribute arguments in parentheses: #[record(...)]"
  | entriesAssigned => "expected parentheses: #[record(...)]"

/-- What the attributes of a field ask for. -/
structure FieldOptions where
  skip : Bool := false
  rename : Option String := none
deriving DecidableEq

/-- Whether a name is an identifier: a letter or an underscore, followed by letters, digits and
underscores. -/
def isIdentifier (name : String) : Bool :=
  match name.toList with
  | [] => false
  | c :: rest =>
    (Text.isAlphabetic c || c == '_') && rest.all fun d => Text.isAlphanumeric d || d == '_'

namespace FieldOptions

def add (options : FieldOptions) : Entry → Except AttributeError FieldOptions
  | .skip => .ok { options with skip := true }
  | .rename name =>
    if isIdentifier name then .ok { options with rename := some name }
    else .error .nameNotIdentifier
  | .renameByExpression => .error .nameNotLiteral
  | .unknown => .error .unknownEntry

/-- Takes several entries into account, up to the first that is wrong. -/
def addAll (options : FieldOptions) : List Entry → Except AttributeError FieldOptions
  | [] => .ok options
  | entry :: rest =>
    match options.add entry with
    | .ok next => next.addAll rest
    | .error fault => .error fault

def ofEntries (entries : List Entry) : Except AttributeError FieldOptions :=
  match addAll {} entries with
  | .ok options =>
    if options.skip && options.rename.isSome then .error .skippedAndRenamed else .ok options
  | .error fault => .error fault

/-- What the attributes of a field ask for: what the first record attribute does. -/
def ofAttributes : List Attribute → Except AttributeError FieldOptions
  | [] => .ok {}
  | .foreign :: rest => ofAttributes rest
  | .record entries :: _ => ofEntries entries
  | .recordWithoutEntries :: _ => .error .entriesMissing
  | .recordAssigned :: _ => .error .entriesAssigned

end FieldOptions

/-! ### Reading attributes

An attribute is written as its path, followed by nothing, by an equals sign and a value, or by
entries between brackets of any of the three shapes.
-/

def Entry.ofLexemes : List Lexeme → Entry
  | [.word key] => if key = "skip".toList then .skip else .unknown
  | [.word key, .mark '=', .string name] =>
    if key = "rename".toList then .rename (String.ofList name) else .unknown
  | .word key :: .mark '=' :: _ :: _ =>
    if key = "rename".toList then .renameByExpression else .unknown
  | _ => .unknown

def Attribute.ofLexemes : List Lexeme → Attribute
  | .word path :: rest =>
    if path ≠ "record".toList then .foreign
    else
      match rest with
      | [] => .recordWithoutEntries
      | .mark '=' :: _ => .recordAssigned
      | bracket :: inner =>
        if bracket.opens then
          let written := (Lexeme.parts false [] 0 0 inner).map (·.1)
          .record ((written.filter (· ≠ [])).map Entry.ofLexemes)
        else .foreign
  | _ => .foreign

def Attribute.ofText (text : String) : Attribute := ofLexemes (Lexeme.ofText text)

end RecordStore.Record
