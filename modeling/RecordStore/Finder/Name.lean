import RecordStore.Text.Case

/-!
# Finder names

A finder is a query that is spelled out in its own name: a beginning that says how many records are
wanted, and criteria written in words with capital initials. This module splits a name into its
words and turns words into field names. Letters of every script count, by the case that the
character standard gives them.
-/

namespace RecordStore.Finder

/-- Splits a text before every uppercase character, the first one apart. -/
def splitWords : List Char → List (List Char)
  | [] => []
  | c :: rest =>
    match splitWords rest with
    | [] => [[c]]
    | word :: words =>
      if rest.head?.any Text.isUppercase then [c] :: word :: words else (c :: word) :: words

/-- A character of a field name, in lower case. Uppercase ones inside the name get an underscore in
front. -/
def fieldChar (inside : Bool) (c : Char) : List Char :=
  if Text.isUppercase c then (if inside then ['_'] else []) ++ Text.lowercase c else [c]

/-- The field name written in words with capital initials: its words in lower case, joined by
underscores. -/
def fieldName : List Char → List Char
  | [] => []
  | c :: rest => fieldChar false c ++ rest.flatMap (fieldChar true)

/-! ### Beginnings -/

inductive Multiplicity
  | one
  | many
deriving DecidableEq

def openings : List (List Char × Multiplicity) :=
  [("findOneBy".toList, .one), ("findAllBy".toList, .many), ("findBy".toList, .many)]

def dropOpening? : List Char → List Char → Option (List Char)
  | [], text => some text
  | _ :: _, [] => none
  | a :: opening, b :: text => if a = b then dropOpening? opening text else none

/-- Splits a finder name into what its beginning asks for and its criteria. -/
def splitOpening? (name : List Char) : Option (Multiplicity × List Char) :=
  openings.findSome? fun (opening, multiplicity) =>
    (dropOpening? opening name).map fun criteria => (multiplicity, criteria)

end RecordStore.Finder
