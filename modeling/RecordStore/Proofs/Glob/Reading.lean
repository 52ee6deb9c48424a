import RecordStore.Glob.Lemmas

/-!
# What a pattern means

The declarative reading of a pattern, without items and without a matcher: `Reads pattern text` says
that the pattern, read from left to right, uses up exactly the text. A backslash in front of a
percent sign takes the sign for itself, any other percent sign takes whatever it likes, and every
other character takes its like. The matcher accepts exactly the texts that are read.
-/

namespace RecordStore.Glob

/-- A pattern is read over a whole text. -/
inductive Reads : List Char → List Char → Prop
  | done : Reads [] []
  | percent {pattern text : List Char} (rest : Reads pattern text) :
      Reads ('\\' :: '%' :: pattern) ('%' :: text)
  | wildcard {pattern text : List Char} (skipped : List Char) (rest : Reads pattern text) :
      Reads ('%' :: pattern) (skipped ++ text)
  | literal {pattern text : List Char} {c : Char} (hsign : c ≠ '%')
      (hescape : c = '\\' → pattern.head? ≠ some '%') (rest : Reads pattern text) :
      Reads (c :: pattern) (c :: text)

theorem tokenize_literal {c : Char} {rest : List Char} (hsign : c ≠ '%')
    (hescape : c = '\\' → rest.head? ≠ some '%') :
    tokenize (c :: rest) = .literal c :: tokenize rest := by
  rw [tokenize.eq_def]
  split
  · rename_i later heq
    obtain ⟨hc, hrest⟩ := List.cons.inj heq
    have hhead : rest.head? = some '%' := by rw [hrest, List.head?_cons]
    exact absurd hhead (hescape hc)
  · rename_i heq
    exact absurd (List.cons.inj heq).1 hsign
  · rename_i heq
    obtain ⟨rfl, rfl⟩ := List.cons.inj heq
    rfl
  · rename_i heq
    cases heq

theorem accepts_wildcard_iff (items : List Token) (text : List Char) :
    accepts (.wildcard :: items) text = true ↔
      ∃ skipped rest, text = skipped ++ rest ∧ accepts items rest = true := by
  induction text with
  | nil =>
    rw [accepts_wildcard_nil]
    constructor
    · intro h
      exact ⟨[], [], rfl, h⟩
    · rintro ⟨skipped, rest, heq, h⟩
      obtain ⟨-, rfl⟩ := List.append_eq_nil_iff.1 heq.symm
      exact h
  | cons d text ih =>
    rw [accepts_wildcard_cons, Bool.or_eq_true, ih]
    constructor
    · rintro (h | ⟨skipped, rest, rfl, h⟩)
      · exact ⟨[], d :: text, rfl, h⟩
      · exact ⟨d :: skipped, rest, rfl, h⟩
    · rintro ⟨skipped, rest, heq, h⟩
      cases skipped with
      | nil =>
        left
        rw [heq]
        exact h
      | cons first skipped =>
        right
        exact ⟨skipped, rest, (List.cons.inj heq).2, h⟩

theorem accepts_of_reads {pattern text : List Char} (h : Reads pattern text) :
    accepts (tokenize pattern) text = true := by
  induction h with
  | done => rfl
  | percent _ ih => simpa [tokenize] using ih
  | wildcard skipped _ ih =>
    rw [tokenize]
    exact (accepts_wildcard_iff _ _).2 ⟨skipped, _, rfl, ih⟩
  | literal hsign hescape _ ih =>
    rw [tokenize_literal hsign hescape]
    simpa using ih

theorem accepts_literal_iff (c : Char) (items : List Token) (text : List Char) :
    accepts (.literal c :: items) text = true ↔
      ∃ rest, text = c :: rest ∧ accepts items rest = true := by
  cases text with
  | nil => simp
  | cons d text =>
    rw [accepts_literal_cons, Bool.and_eq_true, beq_iff_eq]
    constructor
    · rintro ⟨rfl, h⟩
      exact ⟨text, rfl, h⟩
    · rintro ⟨rest, heq, h⟩
      obtain ⟨rfl, rfl⟩ := List.cons.inj heq
      exact ⟨rfl, h⟩

theorem reads_of_accepts (pattern text : List Char)
    (h : accepts (tokenize pattern) text = true) : Reads pattern text := by
  induction pattern using tokenize.induct generalizing text with
  | case1 rest ih =>
    rw [tokenize] at h
    obtain ⟨later, rfl, hlater⟩ := (accepts_literal_iff _ _ _).1 h
    exact .percent (ih later hlater)
  | case2 rest ih =>
    rw [tokenize] at h
    obtain ⟨skipped, later, rfl, hlater⟩ := (accepts_wildcard_iff _ _).1 h
    exact .wildcard skipped (ih later hlater)
  | case3 c rest hescape hsign ih =>
    have hescape' : c = '\\' → rest.head? ≠ some '%' := by
      intro hc hhead
      obtain ⟨later, rfl⟩ := List.head?_eq_some_iff.1 hhead
      exact hescape later hc rfl
    rw [tokenize_literal hsign hescape'] at h
    obtain ⟨later, rfl, hlater⟩ := (accepts_literal_iff _ _ _).1 h
    exact .literal hsign hescape' (ih later hlater)
  | case4 =>
    cases text with
    | nil => exact .done
    | cons d text => simp [tokenize] at h

theorem accepts_tokenize_iff (pattern text : List Char) :
    accepts (tokenize pattern) text = true ↔ Reads pattern text :=
  ⟨reads_of_accepts pattern text, accepts_of_reads⟩

end RecordStore.Glob
