/-!
# The layout of configuration texts

A configuration text is read from places: every character with its line and its column, because it
is their columns that tell the keys of a mapping from values, and a key and its colon share a line.
What is still to be read goes with a flag that says whether a key may begin there.
-/

namespace RecordStore.ConfigText

/-! ### Characters -/

/-- Whether a character separates words within a line. -/
def isGap (c : Char) : Bool := c == ' ' || c == '\t'

/-- Whether a character ends a line, once the line breaks of several kinds have been unified. -/
def isBreak (c : Char) : Bool := c == '\n' || c.toNat == 0x2028 || c.toNat == 0x2029

def isSpace (c : Char) : Bool := isGap c || isBreak c

def isAllowed (c : Char) : Bool :=
  let code := c.toNat
  c == '\t' || c == '\n' || c == '\r' || (0x20 ≤ code && code ≤ 0x7e) || code == 0x85 ||
    (0xa0 ≤ code && code != 0xfffe && code != 0xffff)

/-- A text with one character for each line break, and the same one for all kinds but the separators
of lines and of paragraphs. A carriage return breaks a line by itself as well as before a line feed.
-/
def unifyBreaks : List Char → List Char
  | [] => []
  | '\r' :: '\n' :: rest => '\n' :: unifyBreaks rest
  | c :: rest => (if c = '\r' ∨ c.toNat = 0x85 then '\n' else c) :: unifyBreaks rest

/-! ### Places -/

/-- A character with its line and its column, both counted from zero. -/
structure Place where
  char : Char
  line : Nat
  column : Nat
deriving DecidableEq

def placesFrom (line column : Nat) : List Char → List Place
  | [] => []
  | c :: rest =>
    ⟨c, line, column⟩ ::
      if isBreak c then placesFrom (line + 1) 0 rest else placesFrom line (column + 1) rest

/-- What is still to be read, and whether a key may begin there. -/
structure Remainder where
  fresh : Bool
  places : List Place
deriving DecidableEq

def beforeSpace (places : List Place) : Bool := places.head?.all fun place => isSpace place.char

/-- Whether a mark of three equal characters follows, alone at the beginning of its line. -/
def isMark (mark : Char) : List Place → Bool
  | a :: b :: c :: rest =>
    a.column == 0 && a.char == mark && b.char == mark && c.char == mark && beforeSpace rest
  | _ => false

/-- Skips spaces and comments, given whether a key may begin here and whether a comment has begun. A
new line lets a key begin, except between braces. Where a key may begin there are no tabs, since
they would leave its column open. A byte order mark may begin a line. -/
def skipFrom (inFlow : Bool) : (fresh inComment : Bool) → List Place → Remainder
  | fresh, _, [] => ⟨fresh, []⟩
  | fresh, inComment, place :: rest =>
    if isBreak place.char then skipFrom inFlow (fresh || !inFlow) false rest
    else if inComment || place.char == '#' then skipFrom inFlow fresh true rest
    else if place.char == ' ' || (place.char == '\t' && (inFlow || !fresh)) ||
        (place.char.toNat == 0xfeff && place.column == 0) then
      skipFrom inFlow fresh false rest
    else ⟨fresh, place :: rest⟩

def Remainder.skip (inFlow : Bool) (start : Remainder) : Remainder :=
  skipFrom inFlow start.fresh false start.places

end RecordStore.ConfigText
