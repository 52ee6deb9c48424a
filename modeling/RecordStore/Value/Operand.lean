import RecordStore.Glob.Basic
import RecordStore.Value.Basic

/-!
# Operands

An operand is what a field is compared with. Next to the plain values there are the candidates of a
membership test, the bounds of an interval, a pattern, and the three answers of a truth test.
Operands are the same when their contents are; numbers are the same when they compare as equal,
whatever their representations, and one that is not a number is not even the same as itself.
-/

namespace RecordStore

/-- The answers that a truth test can ask for. -/
inductive Truth
  | true
  | false
  | unknown
deriving DecidableEq

namespace Truth

def ofBool : Bool → Truth
  | Bool.true => true
  | Bool.false => false

/-- The answer that an optional boolean asks for: unknown when it is absent. -/
def ofOption : Option Bool → Truth
  | some b => ofBool b
  | none => unknown

def text : Truth → String
  | true => "true"
  | false => "false"
  | unknown => "unknown"

end Truth

/-- What a field is compared with. -/
inductive Operand
  | null
  | bool (b : Bool)
  | number (n : Number)
  | char (c : Char)
  | string (s : String)
  | list (items : List Operand)
  | range (first second : Number)
  | pattern (glob : Glob)
  | truth (answer : Truth)
deriving Inhabited

namespace Operand

def like (source : String) : Operand := pattern ⟨source⟩

def kind : Operand → Kind
  | null => .null
  | bool _ => .bool
  | number _ => .number
  | char _ => .char
  | string _ => .string
  | list _ => .list
  | range _ _ => .range
  | pattern _ => .pattern
  | truth _ => .truth

def number? : Operand → Option Number
  | number n => some n
  | _ => none

def count? (operand : Operand) : Option Nat := operand.number?.bind Number.toCount?

/-! ### Text and sameness -/

mutual

/-- The text of an operand. A string and a pattern look alike. -/
def text : Operand → String
  | null => "null"
  | bool b => toString b
  | number n => n.text
  | char c => "'" ++ c.toString ++ "'"
  | string s => "'" ++ s ++ "'"
  | list items => "(" ++ String.intercalate ", " (texts items) ++ ")"
  | range first second => "[" ++ first.text ++ ", " ++ second.text ++ "]"
  | pattern glob => "'" ++ glob.source ++ "'"
  | truth answer => answer.text

def texts : List Operand → List String
  | [] => []
  | item :: rest => item.text :: texts rest

end

mutual

def same : Operand → Operand → Bool
  | null, null => true
  | bool a, bool b => a == b
  | number a, number b => a.same b
  | char a, char b => a == b
  | string a, string b => a == b
  | list a, list b => sameAll a b
  | range a b, range c d => a.same c && b.same d
  | pattern a, pattern b => a == b
  | truth a, truth b => a == b
  | _, _ => false

/-- Whether two lists of operands have the same length and the same operands at each place. -/
def sameAll : List Operand → List Operand → Bool
  | [], [] => true
  | a :: as, b :: bs => a.same b && sameAll as bs
  | _, _ => false

end

end Operand

end RecordStore
