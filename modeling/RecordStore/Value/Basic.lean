import RecordStore.Number.Basic
import RecordStore.Text.Blank
import RecordStore.Value.Kind

/-!
# Values

A value is what a field of a record holds when it is looked up. Every value has a kind, a text, and,
unless it is null, a truth: a number is true when it is positive, and a character or a string when
it is not blank.
-/

namespace RecordStore

inductive Value
  | null
  | bool (b : Bool)
  | number (n : Number)
  | char (c : Char)
  | string (s : String)
deriving DecidableEq, Inhabited

namespace Value

/-- The value of an optional field: null when it is absent. -/
def ofOption : Option Value → Value
  | some v => v
  | none => null

def kind : Value → Kind
  | null => .null
  | bool _ => .bool
  | number _ => .number
  | char _ => .char
  | string _ => .string

def isNull (v : Value) : Bool := v.kind == .null

def string? : Value → Option String
  | string s => some s
  | _ => none

def number? : Value → Option Number
  | number n => some n
  | _ => none

def bool? : Value → Option Bool
  | bool b => some b
  | _ => none

/-- The text of a value. Characters and strings stand between single quotes, as they are. -/
def text : Value → String
  | null => "null"
  | bool b => toString b
  | number n => n.text
  | char c => "'" ++ c.toString ++ "'"
  | string s => "'" ++ s ++ "'"

/-- The truth of a value, which null does not have. -/
def truth? : Value → Option Bool
  | null => none
  | bool b => some b
  | number n => some (n.value.compare (.finite 0) == some .gt)
  | char c => some !Text.isBlank c
  | string s => some !Text.allBlank s

end Value

end RecordStore
