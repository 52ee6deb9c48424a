import RecordStore.Record.TypeName
import RecordStore.Session.Error
import RecordStore.Text.Quoted
import RecordStore.Text.Sorted
import RecordStore.Value.Basic

/-!
# Schemas

A schema makes records queryable that do not name their own fields, or exposes values that are
computed: it maps field names to the ways of reading them. Registering a name again replaces the
earlier reading.
-/

namespace RecordStore

def unknownField (typeName field : String) : EvalError :=
  .fieldNotFound (TypeName.short typeName) field

/-- The readings of the records of one type, by field name. Each name is registered once. -/
structure Schema (ρ : Type) where
  typeName : String
  readings : List (String × (ρ → Value)) := []

namespace Schema

variable {ρ : Type}

/-- Registers a reading under a name, in the place of the one registered before. -/
def register (schema : Schema ρ) (name : String) (reading : ρ → Value) : Schema ρ :=
  { schema with
    readings := schema.readings.filter (fun entry => entry.1 != name) ++ [(name, reading)] }

def contains (schema : Schema ρ) (name : String) : Bool :=
  schema.readings.any fun entry => entry.1 == name

def names (schema : Schema ρ) : List String := Text.sorted (schema.readings.map (·.1))

def resolve (schema : Schema ρ) (record : ρ) (name : String) : Except EvalError Value :=
  match schema.readings.lookup name with
  | some reading => .ok (reading record)
  | none => .error (unknownField schema.typeName name)

def describe (schema : Schema ρ) : String :=
  "Schema \x7b record: " ++ Text.quote schema.typeName ++ ", fields: " ++
    Text.quoteList schema.names ++ " \x7d"

end Schema

end RecordStore
