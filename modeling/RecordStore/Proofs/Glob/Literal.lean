import Mathlib.Logic.ExistsUnique
import RecordStore.Proofs.Glob.Expression

/-!
# Patterns spelled from literals

A text stands for itself in a pattern once its percent signs are escaped, and with percent signs
between them several texts make the pattern that finds them one behind the other, whatever is in the
gaps. One thing can go wrong there: a backslash at the end of a text would escape the percent sign
behind it. A backslash elsewhere does no harm, in front of an escaped sign neither, since it is
followed by the backslash of that sign.

As long as no text but the last ends in a backslash, the pattern has nothing but the characters of
the texts and the wildcards between them as its items. So the items tell the texts apart, and every
pattern is spelled from just one such list: whatever is written, it can be read back. Whether the
pattern is matched itself or the expression that it is compiled to is searched for, the texts found
are the same.
-/

namespace RecordStore.Glob

/-! ### Spelling -/

/-- A text as the part of a pattern that stands for just that text. -/
def quote (literal : List Char) : List Char :=
  literal.flatMap fun c => if c = '%' then ['\\', '%'] else [c]

/-- Texts as a pattern with a wildcard between one and the next. -/
def spell (literals : List (List Char)) : List Char := ['%'].intercalate (literals.map quote)

/-- Texts none of which would escape the wildcard behind it. -/
def Separable (literals : List (List Char)) : Prop :=
  literals ≠ [] ∧ ∀ literal ∈ literals.dropLast, literal.getLast? ≠ some '\\'

instance (literals : List (List Char)) : Decidable (Separable literals) :=
  inferInstanceAs (Decidable (_ ∧ _))

variable {literal next : List Char} {literals : List (List Char)}

theorem separable_singleton (literal : List Char) : Separable [literal] :=
  ⟨List.cons_ne_nil _ _, by simp⟩

theorem separable_cons_cons_iff :
    Separable (literal :: next :: literals) ↔
      literal.getLast? ≠ some '\\' ∧ Separable (next :: literals) := by
  simp [Separable]

theorem spell_singleton (literal : List Char) : spell [literal] = quote literal :=
  List.intercalate_singleton

theorem spell_cons_cons (literal next : List Char) (literals : List (List Char)) :
    spell (literal :: next :: literals) = quote literal ++ '%' :: spell (next :: literals) := by
  rw [spell, List.map_cons, List.map_cons, List.intercalate_cons_cons, ← List.map_cons, ← spell,
    List.append_assoc, List.singleton_append]

theorem quote_cons {c : Char} (hsign : c ≠ '%') (literal : List Char) :
    quote (c :: literal) = c :: quote literal := by
  rw [quote, List.flatMap_cons, if_neg hsign, List.singleton_append, ← quote]

/-- No quoted text begins with a percent sign, so that one that is found in front stands behind the
empty text. -/
theorem eq_nil_of_head?_quote_append {rest : List Char}
    (h : (quote literal ++ rest).head? = some '%') : literal = [] ∧ rest.head? = some '%' := by
  cases literal with
  | nil => exact ⟨rfl, h⟩
  | cons c literal =>
    by_cases hsign : c = '%'
    · subst hsign
      cases h
    · rw [quote_cons hsign] at h
      exact absurd (Option.some.inj h) hsign

/-! ### The items of a spelled pattern -/

/-- The backslash that could escape what follows a quoted text is at the end of the text itself. -/
theorem tokenize_quote_append {rest : List Char}
    (h : rest.head? = some '%' → literal.getLast? ≠ some '\\') :
    tokenize (quote literal ++ rest) = literal.map .literal ++ tokenize rest := by
  induction literal with
  | nil => rfl
  | cons c literal ih =>
    have hlast : rest.head? = some '%' → literal.getLast? ≠ some '\\' := by
      intro hhead hend
      apply h hhead
      rw [List.getLast?_cons, hend, Option.getD_some]
    by_cases hsign : c = '%'
    · subst hsign
      show tokenize ('\\' :: '%' :: (quote literal ++ rest)) = _
      rw [tokenize, ih hlast]
      rfl
    · have hescape : c = '\\' → (quote literal ++ rest).head? ≠ some '%' := by
        rintro rfl hhead
        obtain ⟨rfl, hhead⟩ := eq_nil_of_head?_quote_append hhead
        exact h hhead rfl
      rw [quote_cons hsign, List.cons_append, tokenize_literal hsign hescape, ih hlast]
      rfl

/-- The characters of texts as items, with a wildcard between one text and the next. -/
def separated (literals : List (List Char)) : List Token :=
  [Token.wildcard].intercalate (literals.map (·.map .literal))

theorem separated_singleton (literal : List Char) : separated [literal] = literal.map .literal :=
  List.intercalate_singleton

theorem separated_cons_cons (literal next : List Char) (literals : List (List Char)) :
    separated (literal :: next :: literals) =
      literal.map .literal ++ .wildcard :: separated (next :: literals) := by
  rw [separated, List.map_cons, List.map_cons, List.intercalate_cons_cons, ← List.map_cons,
    ← separated, List.append_assoc, List.singleton_append]

theorem tokenize_spell (h : Separable literals) :
    tokenize (spell literals) = separated literals := by
  induction literals with
  | nil => exact absurd rfl h.1
  | cons literal literals ih =>
    cases literals with
    | nil =>
      have hitems : tokenize (quote literal ++ []) = literal.map .literal ++ tokenize [] :=
        tokenize_quote_append nofun
      rw [List.append_nil] at hitems
      rw [spell_singleton, separated_singleton, hitems, tokenize, List.append_nil]
    | cons next literals =>
      obtain ⟨hlast, hrest⟩ := separable_cons_cons_iff.1 h
      rw [spell_cons_cons, separated_cons_cons, tokenize_quote_append (fun _ => hlast), tokenize,
        ih hrest]

theorem splitOn_separated (h : literals ≠ []) :
    (separated literals).splitOn .wildcard = literals.map (·.map .literal) := by
  apply List.splitOn_intercalate
  · simp
  · simpa using h

theorem eq_of_spell_eq {others : List (List Char)} (h : Separable literals) (h' : Separable others)
    (heq : spell literals = spell others) : literals = others := by
  have hitems := congrArg tokenize heq
  rw [tokenize_spell h, tokenize_spell h'] at hitems
  have hmap := congrArg (·.splitOn Token.wildcard) hitems
  simp only [splitOn_separated h.1, splitOn_separated h'.1] at hmap
  apply (List.map_inj_right ?_).1 hmap
  intro text other htexts
  exact (List.map_inj_right fun _ _ => Token.literal.inj).1 htexts

/-! ### Reading a pattern back -/

theorem spell_cons_head (c : Char) (literal : List Char) (literals : List (List Char)) :
    spell ((c :: literal) :: literals) = quote [c] ++ spell (literal :: literals) := by
  have hquote : quote (c :: literal) = quote [c] ++ quote literal := by simp [quote]
  cases literals with
  | nil => rw [spell_singleton, spell_singleton, hquote]
  | cons next literals => rw [spell_cons_cons, spell_cons_cons, hquote, List.append_assoc]

/-- A character in front of the first text matters only if it is a backslash and the text is empty.
-/
theorem Separable.cons_head {c : Char} (h : Separable (literal :: literals))
    (hc : literals ≠ [] → literal = [] → c ≠ '\\') : Separable ((c :: literal) :: literals) := by
  cases literals with
  | nil => exact separable_singleton _
  | cons next literals =>
    obtain ⟨hlast, hrest⟩ := separable_cons_cons_iff.1 h
    refine separable_cons_cons_iff.2 ⟨?_, hrest⟩
    rw [List.getLast?_cons]
    rcases List.eq_nil_or_concat literal with rfl | ⟨init, last, rfl⟩
    · have hne := hc (List.cons_ne_nil _ _) rfl
      simpa using hne
    · simpa using hlast

theorem exists_eq_spell (pattern : List Char) :
    ∃ literals, Separable literals ∧ pattern = spell literals := by
  induction pattern using tokenize.induct with
  | case1 rest ih =>
    obtain ⟨literals, hseparable, rfl⟩ := ih
    obtain ⟨literal, literals, rfl⟩ := List.exists_cons_of_ne_nil hseparable.1
    refine ⟨('%' :: literal) :: literals, hseparable.cons_head (fun _ _ => by decide), ?_⟩
    rw [spell_cons_head]
    rfl
  | case2 rest ih =>
    obtain ⟨literals, hseparable, rfl⟩ := ih
    obtain ⟨literal, literals, rfl⟩ := List.exists_cons_of_ne_nil hseparable.1
    refine ⟨[] :: literal :: literals, separable_cons_cons_iff.2 ⟨by decide, hseparable⟩, ?_⟩
    rw [spell_cons_cons]
    rfl
  | case3 c rest hescape hsign ih =>
    obtain ⟨literals, hseparable, rfl⟩ := ih
    obtain ⟨literal, literals, rfl⟩ := List.exists_cons_of_ne_nil hseparable.1
    have hsign' : c ≠ '%' := fun hc => hsign hc
    refine ⟨(c :: literal) :: literals, hseparable.cons_head ?_, ?_⟩
    · -- The wildcard behind an empty text would have been escaped.
      rintro hliterals rfl rfl
      obtain ⟨next, literals, rfl⟩ := List.exists_cons_of_ne_nil hliterals
      rw [spell_cons_cons] at hescape
      exact hescape _ rfl rfl
    · rw [spell_cons_head, quote, List.flatMap_singleton, if_neg hsign', List.singleton_append]
  | case4 => exact ⟨[[]], separable_singleton [], rfl⟩

/-! ### What a spelled pattern matches -/

theorem accepts_map_literal_append_iff (literal : List Char) (items : List Token)
    (text : List Char) :
    accepts (literal.map .literal ++ items) text = true ↔
      ∃ rest, text = literal ++ rest ∧ accepts items rest = true := by
  induction literal generalizing text with
  | nil => simp
  | cons c literal ih =>
    rw [List.map_cons, List.cons_append, accepts_literal_iff]
    constructor
    · rintro ⟨later, rfl, hlater⟩
      obtain ⟨rest, rfl, hrest⟩ := (ih later).1 hlater
      exact ⟨rest, rfl, hrest⟩
    · rintro ⟨rest, rfl, hrest⟩
      exact ⟨literal ++ rest, rfl, (ih _).2 ⟨rest, rfl, hrest⟩⟩

theorem accepts_nil_iff (text : List Char) : accepts [] text = true ↔ text = [] := by
  cases text <;> simp

theorem accepts_separated_iff (h : literals ≠ []) (text : List Char) :
    accepts (separated literals) text = true ↔
      ∃ gaps : List (List Char), gaps.length + 1 = literals.length ∧
        text = (List.zipWith (· ++ ·) ([] :: gaps) literals).flatten := by
  induction literals generalizing text with
  | nil => exact absurd rfl h
  | cons literal literals ih =>
    cases literals with
    | nil =>
      have hitems := accepts_map_literal_append_iff literal [] text
      rw [List.append_nil] at hitems
      rw [separated_singleton, hitems]
      simp [accepts_nil_iff]
    | cons next literals =>
      rw [separated_cons_cons, accepts_map_literal_append_iff]
      simp only [accepts_wildcard_iff, ih (List.cons_ne_nil _ _)]
      constructor
      · rintro ⟨-, rfl, gap, -, rfl, gaps, hlength, rfl⟩
        refine ⟨gap :: gaps, by simpa using hlength, ?_⟩
        simp
      · rintro ⟨gaps, hlength, rfl⟩
        cases gaps with
        | nil => simp at hlength
        | cons gap gaps =>
          refine ⟨_, rfl, gap, _, ?_, gaps, by simpa using hlength, rfl⟩
          simp

/-! ### Texts as strings -/

def quoted (literal : String) : String := String.ofList (quote literal.toList)

def spelled (literals : List String) : Glob := ⟨String.intercalate "%" (literals.map quoted)⟩

theorem toList_source_spelled (literals : List String) :
    (spelled literals).source.toList = spell (literals.map String.toList) := by
  have hquoted : String.toList ∘ quoted = quote ∘ String.toList := by
    funext literal
    exact String.toList_ofList
  rw [spelled, String.toList_intercalate, List.map_map, hquoted, ← List.map_map]
  rfl

theorem toList_join_zipWith (gaps literals : List String) :
    (String.join (List.zipWith (· ++ ·) gaps literals)).toList =
      (List.zipWith (· ++ ·) (gaps.map String.toList) (literals.map String.toList)).flatten := by
  rw [String.toList_join, List.flatMap_def, List.map_zipWith, List.zipWith_map]
  simp only [String.toList_append]

theorem isMatch_spelled_iff {literals : List String} (h : Separable (literals.map String.toList))
    (text : String) :
    (spelled literals).isMatch text = true ↔
      ∃ gaps : List String, gaps.length + 1 = literals.length ∧
        text = String.join (List.zipWith (· ++ ·) ("" :: gaps) literals) := by
  rw [isMatch, tokens, toList_source_spelled, tokenize_spell h, accepts_separated_iff h.1]
  constructor
  · rintro ⟨gaps, hlength, htext⟩
    have hgaps : (gaps.map String.ofList).map String.toList = gaps := by simp
    refine ⟨gaps.map String.ofList, by simpa using hlength, ?_⟩
    rw [← String.toList_inj, toList_join_zipWith, List.map_cons, hgaps]
    exact htext
  · rintro ⟨gaps, hlength, rfl⟩
    exact ⟨gaps.map String.toList, by simpa using hlength, toList_join_zipWith _ _⟩

theorem foundIn_spelled_iff {literals : List String} (h : Separable (literals.map String.toList))
    (text : String) :
    Regex.FoundIn (spelled literals).expression.toList text.toList ↔
      ∃ gaps : List String, gaps.length + 1 = literals.length ∧
        text = String.join (List.zipWith (· ++ ·) ("" :: gaps) literals) :=
  (foundIn_expression_iff _ _).trans (isMatch_spelled_iff h text)

theorem eq_spelled_iff (pattern : Glob) (literals : List String) :
    pattern = spelled literals ↔ pattern.source.toList = spell (literals.map String.toList) := by
  rw [← toList_source_spelled, String.toList_inj]
  constructor
  · rintro rfl
    rfl
  · intro h
    cases pattern
    exact congrArg Glob.mk h

theorem existsUnique_spelled (pattern : Glob) :
    ∃! literals : List String,
      Separable (literals.map String.toList) ∧ pattern = spelled literals := by
  obtain ⟨literals, hseparable, hpattern⟩ := exists_eq_spell pattern.source.toList
  have htexts : (literals.map String.ofList).map String.toList = literals := by simp
  refine ⟨literals.map String.ofList, ⟨by rwa [htexts], ?_⟩, ?_⟩
  · rwa [eq_spelled_iff, htexts]
  · rintro others ⟨hothers, hspelled⟩
    rw [eq_spelled_iff, hpattern] at hspelled
    rw [eq_of_spell_eq hseparable hothers hspelled]
    simp

/-- Texts of which none but the last ends in a backslash are spelled as the pattern that finds them
one behind the other, from the beginning to the end and with any text in each gap, and every pattern
is spelled from exactly one list of such texts. A single text is found nowhere but in itself, and
with a wildcard behind it in all texts that begin with it. The expression of the pattern finds what
the pattern does. -/
theorem spelled_by_literals :
    (∀ literals : List String, Separable (literals.map String.toList) → ∀ text : String,
      ((spelled literals).isMatch text = true ↔
        ∃ gaps : List String, gaps.length + 1 = literals.length ∧
          text = String.join (List.zipWith (· ++ ·) ("" :: gaps) literals))) ∧
    (∀ pattern : Glob, ∃! literals : List String,
      Separable (literals.map String.toList) ∧ pattern = spelled literals) ∧
    (∀ literal text : String, Glob.isMatch ⟨quoted literal⟩ text = true ↔ text = literal) ∧
    (∀ literal : String, literal.toList.getLast? ≠ some '\\' → ∀ text : String,
      (Glob.isMatch ⟨quoted literal ++ "%"⟩ text = true ↔ ∃ rest, text = literal ++ rest)) ∧
    ∀ literals : List String, Separable (literals.map String.toList) → ∀ text : String,
      (Regex.FoundIn (spelled literals).expression.toList text.toList ↔
        ∃ gaps : List String, gaps.length + 1 = literals.length ∧
          text = String.join (List.zipWith (· ++ ·) ("" :: gaps) literals)) := by
  refine ⟨fun _ => isMatch_spelled_iff, existsUnique_spelled, ?_, ?_, fun _ => foundIn_spelled_iff⟩
  · intro literal text
    have hseparable : Separable ([literal].map String.toList) := separable_singleton _
    have hspelled : spelled [literal] = ⟨quoted literal⟩ := by simp [spelled]
    rw [← hspelled, isMatch_spelled_iff hseparable]
    simp
  · intro literal hlast text
    have hseparable : Separable ([literal, ""].map String.toList) :=
      separable_cons_cons_iff.2 ⟨hlast, separable_singleton _⟩
    have hspelled : spelled [literal, ""] = ⟨quoted literal ++ "%"⟩ := by
      simp [spelled, quoted, quote]
    rw [← hspelled, isMatch_spelled_iff hseparable]
    constructor
    · rintro ⟨gaps, hlength, rfl⟩
      obtain ⟨gap, rfl⟩ := List.length_eq_one_iff.1 (Nat.succ.inj hlength)
      exact ⟨gap, by simp⟩
    · rintro ⟨rest, rfl⟩
      exact ⟨[rest], rfl, by simp⟩

/-- The second text escapes a percent sign of its own, and the last ends in a backslash. -/
theorem spelled_by_literals_escaped :
    let literals := ["100% of ", "\\%", "C:\\"]
    Separable (literals.map String.toList) ∧
      (spelled literals).source = "100\\% of %\\\\%%C:\\" ∧
      (spelled literals).expression = "(?s)^100% of .*\\\\%.*C:\\\\$" ∧
      (spelled literals).isMatch "100% of all \\% in C:\\" = true ∧
      Regex.FoundIn (spelled literals).expression.toList "100% of all \\% in C:\\".toList ∧
      "C:".toList.getLast? ≠ some '\\' ∧ Glob.isMatch ⟨quoted "C:" ++ "%"⟩ "C:\\" = true := by
  intro literals
  have hseparable : Separable (literals.map String.toList) := by decide
  obtain ⟨hgaps, -, -, hfront, hfound⟩ := spelled_by_literals
  refine ⟨hseparable, rfl, by decide, ?_, ?_, by decide, ?_⟩
  · exact (hgaps literals hseparable _).2 ⟨["all ", " in "], rfl, rfl⟩
  · exact (hfound literals hseparable _).2 ⟨["all ", " in "], rfl, rfl⟩
  · exact (hfront "C:" (by decide) _).2 ⟨"\\", rfl⟩

end RecordStore.Glob
