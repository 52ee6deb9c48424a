import RecordStore.Store.ConfigText.Layout

/-!
# Scalars of configuration texts

A key or a value is a scalar, which is quoted or plain. It may go on over several lines: what lies
between its words is then folded, a single line break to a space and a sequence of them to one break
less. The readers answer with the content and with what follows it, or with nothing if the text is
faulty.
-/

namespace RecordStore.ConfigText

/-- A scalar: its content, and whether it was quoted. -/
structure Scalar where
  content : List Char
  quoted : Bool
deriving DecidableEq

/-! ### Gaps inside scalars -/

/-- The spaces since the last word of a scalar, the latest first, and whether an escaped line break
came before them. -/
structure Gap where
  spaces : List Char := []
  escaped : Bool := false
deriving DecidableEq

namespace Gap

/-- Whether a gap contains a line break, apart from an escaped one. -/
def isBroken (gap : Gap) : Bool := gap.spaces.any isBreak

def push (gap : Gap) (c : Char) : Gap := { gap with spaces := c :: gap.spaces }

/-- What a gap stands for. Spaces within a line are kept, and those around line breaks are not. An
escaped line break stands for nothing itself and has those after it kept as they are. -/
def text (gap : Gap) : List Char :=
  let breaks := gap.spaces.reverse.filter isBreak
  if gap.escaped then breaks
  else
    match breaks with
    | [] => gap.spaces.reverse
    | ['\n'] => [' ']
    | '\n' :: more => more
    | _ => breaks

end Gap

/-- Puts the text of a gap and some characters in front of what has been read. -/
def prepend {α : Type} (gap : Gap) (chars : List Char) (found : Option (List Char × α)) :
    Option (List Char × α) :=
  found.map fun (content, rest) => (gap.text ++ chars ++ content, rest)

/-! ### Quoted scalars -/

/-- Whether a mark of documents follows. No scalar goes on behind it. -/
def atMark (places : List Place) : Bool := isMark '-' places || isMark '.' places

/-- Reads a single-quoted scalar behind its opening quote, up to the closing one. A quote written
twice stands for itself. -/
def readSingle (gap : Gap) : List Place → Option (List Char × List Place)
  | [] => none
  | place :: rest =>
    if isSpace place.char then readSingle (gap.push place.char) rest
    else if atMark (place :: rest) then none
    else if place.char ≠ '\'' then prepend gap [place.char] (readSingle {} rest)
    else
      match rest with
      | [] => some (gap.text, [])
      | next :: more =>
        if next.char = '\'' then prepend gap ['\''] (readSingle {} more)
        else some (gap.text, next :: more)

def shortEscape? (c : Char) : Option Char :=
  [('0', '\x00'), ('a', '\x07'), ('b', '\x08'), ('t', '\t'), ('\t', '\t'), ('n', '\n'),
    ('v', '\x0b'), ('f', '\x0c'), ('r', '\r'), ('e', '\x1b'), (' ', ' '), ('"', '"'), ('/', '/'),
    ('\\', '\\'), ('N', '\u0085'), ('_', '\u00a0'), ('L', '\u2028'), ('P', '\u2029')].lookup c

def longEscape? (c : Char) : Option Nat := [('x', 2), ('u', 4), ('U', 8)].lookup c

def hexDigit? (c : Char) : Option Nat :=
  if c.isDigit then some (c.toNat - '0'.toNat)
  else if 'a' ≤ c ∧ c ≤ 'f' then some (c.toNat - 'a'.toNat + 10)
  else if 'A' ≤ c ∧ c ≤ 'F' then some (c.toNat - 'A'.toNat + 10)
  else none

/-- Reads a double-quoted scalar behind its opening quote, up to the closing one, given how many
digits of an escape are still to come and the code that the digits so far make. -/
def readDouble : (digits code : Nat) → Gap → List Place → Option (List Char × List Place)
  | _, _, _, [] => none
  | digits + 1, code, gap, place :: rest =>
    match hexDigit? place.char with
    | none => none
    | some value =>
      let code := 16 * code + value
      if digits ≠ 0 then readDouble digits code gap rest
      else if code.isValidChar then prepend gap [Char.ofNat code] (readDouble 0 0 {} rest)
      else none
  | 0, _, gap, place :: rest =>
    if isSpace place.char then readDouble 0 0 (gap.push place.char) rest
    else if atMark (place :: rest) then none
    else if place.char = '"' then some (gap.text, rest)
    else if place.char ≠ '\\' then prepend gap [place.char] (readDouble 0 0 {} rest)
    else
      match rest with
      | [] => none
      | next :: more =>
        if isBreak next.char then prepend gap [] (readDouble 0 0 { escaped := true } more)
        else
          match longEscape? next.char, shortEscape? next.char with
          | some digits, _ => readDouble digits 0 gap more
          | none, some d => prepend gap [d] (readDouble 0 0 {} more)
          | none, none => none

/-! ### Plain scalars -/

def isFlowMark (c : Char) : Bool := c == ',' || c == '[' || c == ']' || c == '\x7b' || c == '\x7d'

/-- Whether a character means something else at its place than the beginning of a plain scalar. -/
def isIndicator (c : Char) : Bool :=
  isFlowMark c || "-?:#&*!|>'\"%@\x60".contains c

/-- Whether a plain scalar ends before the given places: at a colon with a space behind it, between
braces at any of their marks, and, behind a gap, at a comment, at a mark of documents, or to the
left of where it has to be. -/
def endsPlain (inFlow : Bool) (indent : Nat) (afterGap : Bool) (place : Place)
    (rest : List Place) : Bool :=
  (place.char == ':' && beforeSpace rest) || (inFlow && isFlowMark place.char) ||
    (afterGap && (place.char == '#' || atMark (place :: rest) || place.column < indent))

/-- Whether there is a colon between braces that neither ends a scalar nor belongs to one. -/
def isStrayColon (inFlow : Bool) (place : Place) (rest : List Place) : Bool :=
  inFlow && place.char == ':' && rest.head?.any fun next => next.char == '?' || isFlowMark next.char

/-- Reads a plain scalar. Its further lines have to be indented to the given column, and not by
tabs. The gap behind it is read as well; a key may follow if that contains a line break. -/
def readPlain (inFlow : Bool) (indent : Nat) (gap : Gap) :
    List Place → Option (List Char × Remainder)
  | [] => some ([], ⟨gap.isBroken, []⟩)
  | place :: rest =>
    if isSpace place.char then
      if place.char = '\t' ∧ place.column < indent ∧ gap.isBroken then none
      else readPlain inFlow indent (gap.push place.char) rest
    else if endsPlain inFlow indent (gap ≠ {}) place rest then
      some ([], ⟨gap.isBroken, place :: rest⟩)
    else if isStrayColon inFlow place rest then none
    else prepend gap [place.char] (readPlain inFlow indent {} rest)

/-- Reads a scalar. No key may begin directly behind a quoted one. -/
def readScalar (inFlow : Bool) (indent : Nat) : List Place → Option (Scalar × Remainder)
  | [] => none
  | place :: rest =>
    if place.char = '\'' then
      (readSingle {} rest).map fun (content, rest) => (⟨content, true⟩, ⟨false, rest⟩)
    else if place.char = '"' then
      (readDouble 0 0 {} rest).map fun (content, rest) => (⟨content, true⟩, ⟨false, rest⟩)
    else if isIndicator place.char || isSpace place.char then none
    else
      (readPlain inFlow indent {} (place :: rest)).map fun (content, rest) =>
        (⟨content, false⟩, rest)

end RecordStore.ConfigText
