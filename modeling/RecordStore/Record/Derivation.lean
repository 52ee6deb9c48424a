import RecordStore.Record.Attribute
import RecordStore.Record.Generics
import RecordStore.Text.Case
import RecordStore.Value.Basic

/-!
# Deriving records from descriptions

From the description of a type follows how its values are queried: under which names its fields are
found, and which constants hold these names. Only types with named fields qualify. A field that is
kept out has no name, and no two fields can have the same one.
-/

namespace RecordStore.Record

/-- What a type is made of. -/
inductive Shape
  | named
  | tuple
  | unit
  | enumeration
  | union
deriving DecidableEq

structure FieldDeclaration where
  name : String
  attributes : List Attribute := []
deriving DecidableEq

/-- The description of a type. The fields matter for a type with named ones only. -/
structure Description where
  shape : Shape
  name : String
  parameters : List TypeParameter := []
  fields : List FieldDeclaration
deriving DecidableEq

/-- A field that can be queried: the name it is found under and the name it is declared with. -/
structure DerivedField where
  query : String
  field : String
deriving DecidableEq

/-- What follows from a description: the queryable fields in the order of their declaration, and the
type itself. -/
structure Derivation where
  fields : List DerivedField
  selfType : String
deriving DecidableEq

inductive DerivationError
  | fieldsNotNamed
  | notStructure
  | faultyAttribute (fault : AttributeError)
  | duplicateName (name : String)
deriving DecidableEq

def DerivationError.message : DerivationError → String
  | fieldsNotNamed => "Record can only be derived for structs with named fields"
  | notStructure => "Record can only be derived for structs"
  | faultyAttribute fault => fault.message
  | duplicateName name => "duplicate record field name '" ++ name ++ "'"

/-! ### Names -/

/-- A declared name without the marks that make it a raw identifier. -/
def withoutRawMark : List Char → List Char
  | 'r' :: '#' :: rest => withoutRawMark rest
  | name => name

/-- The name under which a field is found, unless it is renamed. -/
def FieldDeclaration.plainName (field : FieldDeclaration) : String :=
  String.ofList (withoutRawMark field.name.toList)

/-- The name of a constant, made of the rest of a field's name: ASCII letters in upper case,
separators as underscores, and an underscore where an uppercase letter follows a letter or digit
that is not. The flag says whether the last character was such a letter or digit. -/
def constantChars (afterWord : Bool) : List Char → List Char
  | [] => []
  | c :: rest =>
    if Text.isUppercase c then
      (if afterWord then ['_'] else []) ++ c :: constantChars false rest
    else if c = '_' ∨ c = '-' ∨ c = ' ' then '_' :: constantChars false rest
    else c.toUpper :: constantChars (Text.isAlphanumeric c) rest

def constantName (name : String) : String := String.ofList (constantChars false name.toList)

/-! ### The derivation -/

/-- The queryable fields among the declared ones, given the names that are taken. -/
def deriveFields (taken : List String) :
    List FieldDeclaration → Except DerivationError (List DerivedField)
  | [] => .ok []
  | field :: rest =>
    match FieldOptions.ofAttributes field.attributes with
    | .error fault => .error (.faultyAttribute fault)
    | .ok options =>
      if options.skip then deriveFields taken rest
      else
        let query := options.rename.getD field.plainName
        if taken.contains query then .error (.duplicateName query)
        else (deriveFields (query :: taken) rest).map (⟨query, field.name⟩ :: ·)

def derive (description : Description) : Except DerivationError Derivation :=
  match description.shape with
  | .named =>
    (deriveFields [] description.fields).map fun fields =>
      ⟨fields, description.name ++ TypeParameter.arguments description.parameters⟩
  | .tuple | .unit => .error .fieldsNotNamed
  | .enumeration | .union => .error .notStructure

namespace Derivation

/-- The names under which fields are found, in the order of declaration. -/
def fieldNames (d : Derivation) : List String := d.fields.map (·.query)

/-- The constants that hold the names of the fields, each with the name that it holds. -/
def constants (d : Derivation) : List (String × String) :=
  d.fields.map fun f => (constantName f.query, f.query)

/-- The declared field that is found under a name: the first that has it. -/
def fieldOf? (d : Derivation) (query : String) : Option String :=
  (d.fields.find? (·.query == query)).map (·.field)

/-- The value that is found under a name, in a record whose declared fields hold the given values.
-/
def valueOf? (d : Derivation) (values : String → Value) (query : String) : Option Value :=
  (d.fieldOf? query).map values

end Derivation

end RecordStore.Record
