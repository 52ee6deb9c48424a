/-!
# Type names

A record type is known by its full name, a path of modules before the name proper. Messages about a
record show the short name, which leaves the path out; the type arguments, if there are any, stay as
they are, paths included.
-/

namespace RecordStore.TypeName

/-- What follows the last path separator before the type arguments, if there is one. -/
def afterPath? : List Char → Option (List Char)
  | [] => none
  | '<' :: _ => none
  | c :: rest =>
    match afterPath? rest with
    | some name => some name
    | none => if c = ':' ∧ rest.head? = some ':' then some rest.tail else none

/-- The name of a type without its path. -/
def short (full : String) : String :=
  match afterPath? full.toList with
  | some name => String.ofList name
  | none => full

end RecordStore.TypeName
