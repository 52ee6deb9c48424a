import RecordStore.Record.Lexeme

/-!
# Type parameters

The parameters of a generic type are written between angle brackets, each with its attributes and
its bounds, and a constant with its type. The type itself is referred to by their names alone,
lifetimes first.
-/

namespace RecordStore.Record

/-- A parameter of a type: its name, whether it is a lifetime, and whether a comma follows it. -/
structure TypeParameter where
  name : List Char
  isLifetime : Bool
  followed : Bool
deriving DecidableEq

namespace TypeParameter

/-- A part of a parameter list without the attributes in front of it, which are hashes with square
brackets behind them. The number says how many brackets are open. -/
def withoutAttributes : (depth : Nat) → List Lexeme → List Lexeme
  | _, [] => []
  | 0, lexeme :: rest =>
    if lexeme = .mark '#' then withoutAttributes 0 rest
    else if lexeme = .mark '[' then withoutAttributes 1 rest
    else lexeme :: rest
  | depth + 1, lexeme :: rest =>
    if lexeme.opens then withoutAttributes (depth + 2) rest
    else if lexeme.closes then withoutAttributes depth rest
    else withoutAttributes (depth + 1) rest

def ofPart? (part : List Lexeme) (followed : Bool) : Option TypeParameter :=
  match withoutAttributes 0 part with
  | .lifetime name :: _ => some ⟨'\'' :: name, true, followed⟩
  | .word name :: rest =>
    if name ≠ "const".toList then some ⟨name, false, followed⟩
    else
      match rest with
      | .word name :: _ => some ⟨name, false, followed⟩
      | _ => none
  | _ => none

/-- The parameters of a list written between angle brackets, which may be absent. -/
def ofText (text : String) : List TypeParameter :=
  match Lexeme.ofText text with
  | .mark '<' :: rest =>
    (Lexeme.parts true [] 0 0 rest).filterMap fun (part, followed) => ofPart? part followed
  | _ => []

def written (p : TypeParameter) : List Char := p.name ++ if p.followed then [','] else []

/-- The arguments by which a type with the given parameters refers to itself. A comma is added
behind the lifetimes where other parameters follow and there is none. -/
def arguments (parameters : List TypeParameter) : String :=
  let lifetimes := parameters.filter (·.isLifetime)
  let others := parameters.filter (!·.isLifetime)
  let separated := others.isEmpty || (lifetimes.getLast?.map (·.followed)).getD true
  if parameters.isEmpty then ""
  else
    String.ofList ('<' :: (lifetimes.flatMap written ++ (if separated then [] else [',']) ++
      others.flatMap written ++ ['>']))

end TypeParameter

end RecordStore.Record
