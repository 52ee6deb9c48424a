import RecordStore.Glob.Basic
import RecordStore.Text.Quoted

/-!
# Globs as regular expressions

A pattern is compiled to a regular expression, and a text is matched with the pattern by a search
for that. The expression is tied to both ends of the text, its dot matches line ends too, and each
character of the pattern that would have a meaning of its own there is escaped. So every pattern can
be compiled, as far as its expression is not too large for the engine that searches, and that much
is taken for granted: to match with a pattern never fails.
-/

namespace RecordStore.Glob

/-- The characters that have a meaning of their own in a regular expression. -/
def metacharacters : List Char := "\\.+*?()|[]\x7b\x7d^$#&-~".toList

/-- A character as a regular expression that matches just that character. -/
def escapeChar (c : Char) : List Char := if metacharacters.contains c then ['\\', c] else [c]

def escape (literal : String) : String := String.ofList (literal.toList.flatMap escapeChar)

/-- Writes the regular expression for the rest of a pattern behind what is written already. Literal
text is held back until a wildcard or the end comes, and is then escaped as a whole. -/
def writeExpression (written pending : String) : List Char → String
  | '\\' :: '%' :: rest => writeExpression written (pending.push '%') rest
  | '%' :: rest => writeExpression (written ++ escape pending ++ ".*") "" rest
  | c :: rest => writeExpression written (pending.push c) rest
  | [] => written ++ escape pending ++ "$"

/-- The regular expression that matches what the pattern matches. -/
def expression (pattern : Glob) : String := writeExpression "(?s)^" "" pattern.source.toList

def describe (pattern : Glob) : String := "GlobPattern(" ++ Text.quote pattern.source ++ ")"

end RecordStore.Glob
