import RecordStore.Text.Blank

/-!
# Lexemes of declarations

The parameters and the attributes of a declaration are read from their text, which consists of words
and marks between blanks and comments. What stands in a literal is not read any further: a comma in
a text, or a bracket that is a character, structures nothing.

A derivation is given a declaration that has been read already, by a parser that is not its own.
The readers here take the place of that parser, and the derivation does not rest on them.
-/

namespace RecordStore.Record

/-- A word, a lifetime by its name, a string literal as it is written between its quotes, any other
quoted literal, an arrow, or a single mark. -/
inductive Lexeme
  | word (name : List Char)
  | lifetime (name : List Char)
  | string (content : List Char)
  | literal
  | arrow
  | mark (c : Char)
deriving DecidableEq

namespace Lexeme

/-! ### Characters -/

/-- Whether a character separates lexemes. The two marks of writing direction do, too. -/
def isSpace (c : Char) : Bool := Text.isBlank c || c.toNat == 0x200e || c.toNat == 0x200f

/-- Whether a character is part of a word. Beyond ASCII, all but the separating ones are. -/
def isWordChar (c : Char) : Bool :=
  if c.toNat < 0x80 then c.isAlphanum || c == '_' else !isSpace c

def opens (lexeme : Lexeme) : Bool :=
  lexeme == .mark '(' || lexeme == .mark '[' || lexeme == .mark '\x7b'

def closes (lexeme : Lexeme) : Bool :=
  lexeme == .mark ')' || lexeme == .mark ']' || lexeme == .mark '\x7d'

/-! ### Reading -/

/-- Skips blanks and comments. A comment goes on to the end of its line, or is enclosed, and then
may enclose others. The number says how many enclosed comments are open, and the flag whether one
that ends with its line is. -/
def skipSpace : (depth : Nat) → (inLine : Bool) → List Char → List Char
  | _, _, [] => []
  | 0, true, c :: rest => skipSpace 0 (c != '\n') rest
  | 0, false, '/' :: '/' :: rest => skipSpace 0 true rest
  | depth, _, '/' :: '*' :: rest => skipSpace (depth + 1) false rest
  | depth + 1, _, '*' :: '/' :: rest => skipSpace depth false rest
  | depth + 1, _, _ :: rest => skipSpace (depth + 1) false rest
  | 0, false, c :: rest => if isSpace c then skipSpace 0 false rest else c :: rest

def splitQuoted (quote : Char) : List Char → List Char × List Char
  | [] => ([], [])
  | '\\' :: c :: rest =>
    let (content, rest) := splitQuoted quote rest
    ('\\' :: c :: content, rest)
  | c :: rest =>
    if c = quote then ([], rest)
    else
      let (content, rest) := splitQuoted quote rest
      (c :: content, rest)

/-- Splits a text behind an opening quote at the first one with the given hashes behind it. -/
def splitRaw (hashes : List Char) : List Char → List Char × List Char
  | [] => ([], [])
  | c :: rest =>
    if c = '"' ∧ hashes.isPrefixOf rest then ([], rest.drop hashes.length)
    else
      let (content, rest) := splitRaw hashes rest
      (c :: content, rest)

/-- Splits a text behind the name at its beginning. A name is a word, or a raw one: a word with the
letter and the hash in front of it that keep it from being read as a keyword. -/
def splitName (text : List Char) : List Char × List Char :=
  let name := text.takeWhile isWordChar
  let rest := text.dropWhile isWordChar
  match rest with
  | '#' :: c :: more =>
    if name = ['r'] ∧ isWordChar c then
      ('r' :: '#' :: (c :: more).takeWhile isWordChar, (c :: more).dropWhile isWordChar)
    else (name, rest)
  | _ => (name, rest)

/-- The lexeme that begins with a name, and what follows it. Some names announce a literal without
escapes, whose quotes may have hashes around them. -/
def afterName (name rest : List Char) : Lexeme × List Char :=
  let hashes := rest.takeWhile (· == '#')
  match rest.drop hashes.length with
  | '"' :: inner =>
    if name = ['r'] then
      let (content, rest) := splitRaw hashes inner
      (.string content, rest)
    else if name = ['b', 'r'] ∨ name = ['c', 'r'] then (.literal, (splitRaw hashes inner).2)
    else (.word name, rest)
  | _ => (.word name, rest)

/-- The lexeme that begins with a single quote, and what follows it: a character, which is followed
by another quote, or a lifetime. -/
def afterQuote : List Char → Lexeme × List Char
  | '\\' :: c :: rest => (.literal, (splitQuoted '\'' ('\\' :: c :: rest)).2)
  | _ :: '\'' :: rest => (.literal, rest)
  | text =>
    let (name, rest) := splitName text
    (.lifetime name, rest)

def next? (text : List Char) : Option (Lexeme × List Char) :=
  match skipSpace 0 false text with
  | [] => none
  | '-' :: '>' :: rest => some (.arrow, rest)
  | '\'' :: rest => some (afterQuote rest)
  | '"' :: rest =>
    let (content, rest) := splitQuoted '"' rest
    some (.string content, rest)
  | c :: rest =>
    if isWordChar c then
      let (name, rest) := splitName (c :: rest)
      some (afterName name rest)
    else some (.mark c, rest)

/-- The lexemes of a text. Every lexeme takes up some of it, so its length bounds their number. -/
def read : (bound : Nat) → List Char → List Lexeme
  | 0, _ => []
  | bound + 1, text =>
    match next? text with
    | none => []
    | some (lexeme, rest) => lexeme :: read bound rest

def ofText (text : String) : List Lexeme := read text.length text.toList

/-! ### Lists -/

/-- The parts of a list that commas separate, from behind its opening bracket to the closing one,
each with whether a comma ended it. An angled list is closed by an angle bracket, and its parts may
contain such brackets in pairs. Inside other brackets neither commas nor angle brackets count. -/
def parts (angled : Bool) (part : List Lexeme) (depth angles : Nat) :
    List Lexeme → List (List Lexeme × Bool)
  | [] => [(part.reverse, false)]
  | lexeme :: rest =>
    if lexeme.opens then parts angled (lexeme :: part) (depth + 1) angles rest
    else if lexeme.closes then
      if depth = 0 then [(part.reverse, false)]
      else parts angled (lexeme :: part) (depth - 1) angles rest
    else if depth ≠ 0 then parts angled (lexeme :: part) depth angles rest
    else if angled ∧ lexeme = .mark '<' then parts angled (lexeme :: part) 0 (angles + 1) rest
    else if angled ∧ lexeme = .mark '>' then
      if angles = 0 then [(part.reverse, false)]
      else parts angled (lexeme :: part) 0 (angles - 1) rest
    else if angles = 0 ∧ lexeme = .mark ',' then (part.reverse, true) :: parts angled [] 0 0 rest
    else parts angled (lexeme :: part) 0 angles rest

end Lexeme

end RecordStore.Record
