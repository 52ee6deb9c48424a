/-!
# Glob patterns

A pattern is read from left to right: `%` stands for any text, `\%` for a percent sign, and every
other character for itself, a backslash that no percent sign follows included. A pattern always
speaks of a whole text, and its wildcard crosses line ends like any other character.
-/

namespace RecordStore

/-- A pattern, given by the text it was written as. -/
structure Glob where
  source : String
deriving DecidableEq

namespace Glob

/-- One item of a pattern: a character that stands for itself, or the wildcard. -/
inductive Token
  | literal (c : Char)
  | wildcard
deriving DecidableEq

def tokenize : List Char → List Token
  | '\\' :: '%' :: rest => .literal '%' :: tokenize rest
  | '%' :: rest => .wildcard :: tokenize rest
  | c :: rest => .literal c :: tokenize rest
  | [] => []

def tokens (pattern : Glob) : List Token := tokenize pattern.source.toList

/-! ### Matching

The items are matched from the last to the first. For each of them the verdicts on all endings of
the text are kept, from the whole text down to the empty one, so that the work is bounded by the
product of the two lengths however many wildcards there are.
-/

/-- Turns each entry into whether it or one after it holds. -/
def anyLater : List Bool → List Bool
  | [] => []
  | here :: rest =>
    match anyLater rest with
    | [] => [here]
    | later :: more => (here || later) :: later :: more

/-- For each ending of the text, the longest first, whether the items match exactly that ending. -/
def matchEndings (text : List Char) : List Token → List Bool
  | [] => text.map (fun _ => false) ++ [true]
  | .literal c :: rest =>
    List.zipWith (fun d after => d == c && after) text (matchEndings text rest).tail ++ [false]
  | .wildcard :: rest => anyLater (matchEndings text rest)

def accepts (items : List Token) (text : List Char) : Bool :=
  (matchEndings text items).head?.getD false

def isMatch (pattern : Glob) (text : String) : Bool := accepts pattern.tokens text.toList

end Glob

end RecordStore
