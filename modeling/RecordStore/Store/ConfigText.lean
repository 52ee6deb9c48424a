import RecordStore.Store.Config
import RecordStore.Store.ConfigText.Scalar

/-!
# Configuration texts

A configuration is written as one mapping from keys to scalars: a key and its value to a line, or
all of them between braces. Comments and empty lines are left out of account, and a text without any
content stands for the defaults. Each key may occur once, and no others are known. The words that
stand for a truth value are not to be quoted.

A text that is not of this form is refused as a whole, so the readers below answer with nothing as
soon as something does not fit. They take the place of a parser that is not the store's own, and a
store is given a configuration that has been read.
-/

namespace RecordStore

namespace ConfigText

/-! ### Keys -/

/-- Reads the colon between a key and its value. Between braces no space needs to follow it. -/
def readColon (inFlow : Bool) : List Place → Option (Place × List Place)
  | [] => none
  | place :: rest =>
    if place.char = ':' ∧ (inFlow || beforeSpace rest) then some (place, rest) else none

/-- Reads a key and the colon behind it, which has to be in the same line, at most 1024 columns
after the beginning of the key. -/
def readKey (inFlow : Bool) (indent : Nat) (places : List Place) :
    Option (Scalar × Remainder) := do
  let first ← places.head?
  let (key, rest) ← readScalar inFlow indent places
  let (colon, rest) ← readColon inFlow (rest.skip inFlow).places
  if colon.line = first.line ∧ colon.column ≤ first.column + 1024 then some (key, ⟨false, rest⟩)
  else none

/-! ### Mappings over lines

The keys of such a mapping have one column, and everything else is further to the right. A question
mark can stand in the column of the keys instead of a key, which then follows it, and its colon
comes in a line of its own, in that column as well.
-/

/-- Reads a key behind its question mark, and its colon. -/
def readMarkedKey (indent : Nat) (places : List Place) : Option (Scalar × Remainder) := do
  let start := (⟨true, places⟩ : Remainder).skip false
  let first ← start.places.head?
  let (key, rest) ← readScalar false (indent + 1) start.places
  let rest := rest.skip false
  let (colon, places) ← readColon false rest.places
  if indent < first.column ∧ rest.fresh ∧ colon.column = indent then some (key, ⟨true, places⟩)
  else none

def readValue (indent : Nat) (start : Remainder) : Option (Scalar × Remainder) := do
  let places := (start.skip false).places
  let first ← places.head?
  let (value, rest) ← readScalar false (indent + 1) places
  if indent < first.column then some (value, rest.skip false) else none

/-- Reads a mapping whose keys have the given column, up to the end of the document. Every entry
takes up some of the text, so its length bounds their number. -/
def readLines (indent : Nat) :
    (bound : Nat) → Remainder → Option (List (Scalar × Scalar) × Remainder)
  | 0, _ => none
  | bound + 1, start =>
    match start.places with
    | [] => some ([], start)
    | first :: rest =>
      if atMark (first :: rest) then some ([], start)
      else if first.column ≠ indent ∨ !start.fresh then none
      else do
        let (key, rest) ←
          if first.char = '?' ∧ beforeSpace rest then readMarkedKey indent rest
          else readKey false (indent + 1) (first :: rest)
        let (value, rest) ← readValue indent rest
        let (entries, rest) ← readLines indent bound rest
        some ((key, value) :: entries, rest)

/-! ### Mappings between braces -/

def skipInFlow (places : List Place) : List Place := (skipFrom true false false places).places

/-- Reads a key between braces and its colon. A question mark before the key lifts the limit on
where the colon may be. -/
def readFlowKey (first : Place) (rest : List Place) : Option (Scalar × List Place) :=
  if first.char = '?' then do
    let (key, rest) ← readScalar true 0 (skipInFlow rest)
    let (_, rest) ← readColon true (skipInFlow rest.places)
    some (key, rest)
  else (readKey true 0 (first :: rest)).map fun (key, rest) => (key, rest.places)

/-- Reads the entries of a mapping behind its opening brace or a comma, and what follows the closing
brace. -/
def readFlow : (bound : Nat) → List Place → Option (List (Scalar × Scalar) × List Place)
  | 0, _ => none
  | bound + 1, places =>
    match skipInFlow places with
    | [] => none
    | first :: rest =>
      if first.char = '\x7d' then some ([], rest)
      else do
        let (key, rest) ← readFlowKey first rest
        let (value, rest) ← readScalar true 0 (skipInFlow rest)
        match skipInFlow rest.places with
        | [] => none
        | last :: rest =>
          if last.char = ',' then
            (readFlow bound rest).map fun (entries, rest) => ((key, value) :: entries, rest)
          else if last.char = '\x7d' then some ([(key, value)], rest)
          else none

/-! ### Documents -/

/-- Whether nothing follows a document but marks of its end. -/
def isEnding : (bound : Nat) → Remainder → Bool
  | 0, _ => false
  | bound + 1, rest =>
    let places := (rest.skip false).places
    places.isEmpty || (isMark '.' places && isEnding bound ⟨false, places.drop 3⟩)

def readMapping (bound : Nat) (start : Remainder) :
    Option (List (Scalar × Scalar) × Remainder) :=
  match start.places with
  | [] => some ([], start)
  | first :: rest =>
    if first.char = '\x7b' then
      (readFlow bound rest).map fun (entries, rest) => (entries, ⟨false, rest⟩)
    else readLines first.column bound start

/-- The entries of a text, if it is of the form described above. A mark may introduce the document,
and only then may it be ended without any content. -/
def entries? (text : List Char) : Option (List (Scalar × Scalar)) :=
  let bound := text.length + 1
  let start := (⟨true, placesFrom 0 0 (unifyBreaks text)⟩ : Remainder).skip false
  if !text.all isAllowed || isMark '.' start.places then none
  else do
    let start :=
      if isMark '-' start.places then (⟨false, start.places.drop 3⟩ : Remainder).skip false
      else start
    let (entries, rest) ← readMapping bound start
    if isEnding bound rest then some entries else none

end ConfigText

/-! ### From entries to a configuration -/

namespace Config

def consistencyOf? (scalar : ConfigText.Scalar) : Option Consistency :=
  if scalar.content = "weak".toList then some .weak
  else if scalar.content = "snapshot".toList then some .snapshot
  else none

/-- The truth value that a scalar stands for. -/
def boolOf? (scalar : ConfigText.Scalar) : Option Bool :=
  if scalar.quoted then none
  else if ["true", "True", "TRUE"].contains (String.ofList scalar.content) then some true
  else if ["false", "False", "FALSE"].contains (String.ofList scalar.content) then some false
  else none

/-- The value of a key among the entries: absent, or read from the only entry that has the key. -/
def entry? {α : Type} (key : String) (read : ConfigText.Scalar → Option α) (default : α)
    (entries : List (ConfigText.Scalar × ConfigText.Scalar)) : Option α :=
  match entries.filter fun entry => entry.1.content == key.toList with
  | [] => some default
  | [(_, value)] => read value
  | _ => none

def keys : List String := ["scan", "create_missing"]

def ofText? (text : String) : Option Config :=
  match ConfigText.entries? text.toList with
  | none => none
  | some entries =>
    if entries.any fun entry => !keys.contains (String.ofList entry.1.content) then none
    else
      match entry? "scan" consistencyOf? .weak entries,
          entry? "create_missing" boolOf? true entries with
      | some scan, some createMissing => some ⟨scan, createMissing⟩
      | _, _ => none

end Config

end RecordStore
