import RecordStore.Glob.Expression
import RecordStore.Proofs.Glob.Reading

/-!
# Regular expressions of globs

The part of the syntax and meaning of regular expressions that the expression of a pattern uses,
written down on its own: a flag that lets the dot match line ends, the two anchors, a dot with a
star, escaped characters and ordinary ones. Read back in that syntax, the expression of a pattern is
its list of items between the two anchors, and it is found in exactly the texts that the pattern
matches.

The expression is written with a literal text held back, so that what stands already always ends at
a border between items. `toList_writeExpression` says what the held back text amounts to.
-/

namespace RecordStore

namespace Regex

/-- An item of a regular expression: an anchor at the start or the end of the text, any stretch of
text, with or without line ends, or a character. -/
inductive Item
  | start
  | stop
  | stretch (crossesLines : Bool)
  | literal (c : Char)
deriving DecidableEq

/-- The characters that do not stand for themselves unless a backslash escapes them. -/
def special : List Char := "\\.+*?()|[]\x7b\x7d^$".toList

def escapable : List Char := special ++ "#&-~".toList

/-- Reads the items of an expression, as far as they belong to the part of the syntax that is
considered here. -/
def readItems (crossesLines : Bool) : List Char → Option (List Item)
  | [] => some []
  | '\\' :: c :: rest =>
    if escapable.contains c then (readItems crossesLines rest).map (.literal c :: ·) else none
  | '.' :: '*' :: rest => (readItems crossesLines rest).map (.stretch crossesLines :: ·)
  | '^' :: rest => (readItems crossesLines rest).map (.start :: ·)
  | '$' :: rest => (readItems crossesLines rest).map (.stop :: ·)
  | c :: rest =>
    if special.contains c then none else (readItems crossesLines rest).map (.literal c :: ·)

/-- Reads an expression. The flag at its beginning lets the dot match line ends. -/
def read : List Char → Option (List Item)
  | '(' :: '?' :: 's' :: ')' :: rest => readItems true rest
  | expression => readItems false expression

/-- Items match at a place of a text, given by what stands before it and what stands after. -/
inductive Matches : List Item → List Char → List Char → Prop
  | done (before after : List Char) : Matches [] before after
  | start {items : List Item} {after : List Char} (rest : Matches items [] after) :
      Matches (.start :: items) [] after
  | stop {items : List Item} {before : List Char} (rest : Matches items before []) :
      Matches (.stop :: items) before []
  | stretch {items : List Item} {before after : List Char} {crossesLines : Bool}
      (skipped : List Char) (hlines : ∀ c ∈ skipped, crossesLines = true ∨ c ≠ '\n')
      (rest : Matches items (before ++ skipped) after) :
      Matches (.stretch crossesLines :: items) before (skipped ++ after)
  | literal {items : List Item} {before after : List Char} {c : Char}
      (rest : Matches items (before ++ [c]) after) : Matches (.literal c :: items) before (c :: after)

/-- An expression is found in a text if its items match at some place. -/
def FoundIn (expression text : List Char) : Prop :=
  ∃ items before after, read expression = some items ∧ text = before ++ after ∧
    Matches items before after

end Regex

namespace Glob

open Regex

/-! ### Reading the expression back -/

def Token.item : Token → Item
  | .literal c => .literal c
  | .wildcard => .stretch true

def Token.expression : Token → List Char
  | .literal c => escapeChar c
  | .wildcard => ['.', '*']

/-- What stands in the expression when the rest of a pattern is written: the text so far, the text
held back, and the items of the rest. -/
theorem toList_writeExpression (written pending : String) (rest : List Char) :
    (writeExpression written pending rest).toList =
      written.toList ++ pending.toList.flatMap escapeChar ++
        (tokenize rest).flatMap Token.expression ++ ['$'] := by
  induction rest using tokenize.induct generalizing written pending with
  | case1 rest ih =>
    rw [writeExpression, ih, tokenize, String.toList_push]
    simp [Token.expression]
  | case2 rest ih =>
    rw [writeExpression, ih, tokenize]
    simp [Token.expression, escape]
  | case3 c rest hescape hsign ih =>
    rw [writeExpression, ih, tokenize, String.toList_push]
    · simp [Token.expression]
    · exact hescape
    · exact hsign
    · exact hescape
    · exact hsign
  | case4 =>
    rw [writeExpression, tokenize]
    simp [escape]

theorem readItems_ordinary (crossesLines : Bool) {c : Char} (h : special.contains c = false)
    (rest : List Char) :
    readItems crossesLines (c :: rest) = (readItems crossesLines rest).map (.literal c :: ·) := by
  rw [readItems.eq_def]
  split
  · rename_i heq
    cases heq
  · rename_i heq
    obtain ⟨rfl, -⟩ := List.cons.inj heq
    exact absurd h (by decide)
  · rename_i heq
    obtain ⟨rfl, -⟩ := List.cons.inj heq
    exact absurd h (by decide)
  · rename_i heq
    obtain ⟨rfl, -⟩ := List.cons.inj heq
    exact absurd h (by decide)
  · rename_i heq
    obtain ⟨rfl, -⟩ := List.cons.inj heq
    exact absurd h (by decide)
  · rename_i heq
    obtain ⟨rfl, rfl⟩ := List.cons.inj heq
    rw [h, if_neg Bool.false_ne_true]

theorem readItems_escapeChar (crossesLines : Bool) (c : Char) (rest : List Char) :
    readItems crossesLines (escapeChar c ++ rest) =
      (readItems crossesLines rest).map (.literal c :: ·) := by
  have hescapable : escapable = metacharacters := by decide
  rw [escapeChar]
  by_cases hmeta : metacharacters.contains c = true
  · rw [if_pos hmeta, List.cons_append, List.singleton_append, readItems, hescapable, if_pos hmeta]
  · have hspecial : special.contains c = false := by
      have hmeta' : escapable.contains c = false := by
        rw [hescapable]
        exact eq_false_of_ne_true hmeta
      rw [escapable, List.contains_append, Bool.or_eq_false_iff] at hmeta'
      exact hmeta'.1
    rw [if_neg hmeta, List.singleton_append, readItems_ordinary crossesLines hspecial]

theorem readItems_flatMap_expression (items : List Token) :
    readItems true (items.flatMap Token.expression ++ ['$']) =
      some (items.map Token.item ++ [.stop]) := by
  induction items with
  | nil => rfl
  | cons item items ih =>
    rw [List.flatMap_cons, List.append_assoc]
    cases item with
    | literal c =>
      rw [Token.expression, readItems_escapeChar, ih]
      rfl
    | wildcard =>
      rw [Token.expression, List.cons_append, List.singleton_append, readItems, ih]
      rfl

theorem read_expression (pattern : Glob) :
    read pattern.expression.toList = some (.start :: (pattern.tokens.map Token.item ++ [.stop])) := by
  have hitems := readItems_flatMap_expression pattern.tokens
  rw [expression, toList_writeExpression, ← tokens]
  have htext : ("(?s)^".toList ++ "".toList.flatMap escapeChar ++
      pattern.tokens.flatMap Token.expression ++ ['$']) =
      '(' :: '?' :: 's' :: ')' :: '^' :: (pattern.tokens.flatMap Token.expression ++ ['$']) := rfl
  rw [htext, Regex.read, readItems, hitems]
  rfl

/-! ### What the expression finds -/

/-- From any place on, items up to the end of the text match what the pattern accepts there. -/
theorem matches_map_item_iff (items : List Token) (before after : List Char) :
    Matches (items.map Token.item ++ [.stop]) before after ↔ accepts items after = true := by
  induction items generalizing before after with
  | nil =>
    constructor
    · intro h
      cases h with
      | stop rest => rfl
    · intro h
      cases after with
      | nil => exact .stop (.done before [])
      | cons d after => cases h
  | cons item items ih =>
    cases item with
    | literal c =>
      rw [accepts_literal_iff]
      constructor
      · intro h
        cases h with
        | literal rest => exact ⟨_, rfl, (ih _ _).1 rest⟩
      · rintro ⟨later, rfl, h⟩
        exact .literal ((ih _ _).2 h)
    | wildcard =>
      rw [accepts_wildcard_iff]
      constructor
      · intro h
        cases h with
        | stretch skipped _ rest => exact ⟨skipped, _, rfl, (ih _ _).1 rest⟩
      · rintro ⟨skipped, later, rfl, h⟩
        exact .stretch skipped (fun _ _ => .inl rfl) ((ih _ _).2 h)

theorem foundIn_expression_iff (pattern : Glob) (text : List Char) :
    FoundIn pattern.expression.toList text ↔ accepts pattern.tokens text = true := by
  constructor
  · rintro ⟨items, before, after, hread, rfl, hmatches⟩
    rw [read_expression] at hread
    cases hread
    cases hmatches with
    | start rest => exact (matches_map_item_iff _ _ _).1 rest
  · intro h
    exact ⟨_, [], text, read_expression pattern, rfl, .start ((matches_map_item_iff _ _ _).2 h)⟩

/-- A pattern matches a text if and only if it reads the whole of it. That is what the regular
expression of the pattern finds, which denotes the items of the pattern and nothing else. -/
theorem isMatch_iff_reads (pattern : Glob) (text : String) :
    (pattern.isMatch text = true ↔ Reads pattern.source.toList text.toList) ∧
      read pattern.expression.toList =
        some (.start :: (pattern.tokens.map Token.item ++ [.stop])) ∧
      (FoundIn pattern.expression.toList text.toList ↔ pattern.isMatch text = true) :=
  ⟨accepts_tokenize_iff _ _, read_expression pattern, foundIn_expression_iff pattern text.toList⟩

end Glob

end RecordStore
