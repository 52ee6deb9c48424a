import RecordStore.Record.Schema
import RecordStore.Session.Basic

/-!
# Catalogs

A catalog lists the record types that a store can hold. Each is known by a tag and comes with its
records, an equality on them that decides which record replaces which, its full name, and its
fields. A type whose records have no fields of their own can still be queried through a schema.
-/

namespace RecordStore

/-- The record types that a store can hold. -/
structure Catalog where
  Tag : Type
  Row : Tag → Type
  typeName : Tag → String
  value? : (tag : Tag) → Row tag → String → Option Value
  [tagEq : DecidableEq Tag]
  [rowEq : ∀ tag, BEq (Row tag)]

namespace Catalog

attribute [instance] tagEq rowEq

def fields (C : Catalog) (tag : C.Tag) (record : C.Row tag) : Fields := fun name =>
  match C.value? tag record name with
  | some value => .ok value
  | none => .error (unknownField (C.typeName tag) name)

end Catalog

/-- The fields of a record as a schema gives them. -/
def Schema.fields {ρ : Type} (schema : Schema ρ) (record : ρ) : Fields := schema.resolve record

end RecordStore
