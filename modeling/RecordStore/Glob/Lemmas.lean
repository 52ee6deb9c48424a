import RecordStore.Glob.Basic

/-!
# What a pattern matches

Matching keeps verdicts on all endings of the text at once. The verdict on a longer text only adds
an entry in front of those on its tail, and so the verdict on the whole text obeys the obvious
equations, one for each way a pattern and a text can begin.
-/

namespace RecordStore.Glob

private theorem anyLater_ne_nil {verdicts : List Bool} (h : verdicts ≠ []) :
    anyLater verdicts ≠ [] := by
  cases verdicts with
  | nil => exact absurd rfl h
  | cons here rest =>
    rw [anyLater]
    split <;> exact List.cons_ne_nil _ _

theorem matchEndings_ne_nil (text : List Char) (items : List Token) :
    matchEndings text items ≠ [] := by
  induction items with
  | nil => simp [matchEndings]
  | cons item rest ih =>
    cases item with
    | literal c => simp [matchEndings]
    | wildcard => exact anyLater_ne_nil ih

/-- The verdicts on the endings of a text are the verdict on the text, followed by those on the
endings of its tail. -/
theorem matchEndings_cons (d : Char) (text : List Char) (items : List Token) :
    matchEndings (d :: text) items = accepts items (d :: text) :: matchEndings text items := by
  have tail_eq : (matchEndings (d :: text) items).tail = matchEndings text items := by
    induction items with
    | nil => rfl
    | cons item rest ih =>
      obtain ⟨first, more, hmore⟩ := List.exists_cons_of_ne_nil (matchEndings_ne_nil text rest)
      obtain ⟨here, after, hafter⟩ :=
        List.exists_cons_of_ne_nil (matchEndings_ne_nil (d :: text) rest)
      rw [hafter, List.tail_cons, hmore] at ih
      cases item with
      | literal c => rw [matchEndings, hafter, List.tail_cons, ih, matchEndings, hmore]; rfl
      | wildcard =>
        obtain ⟨later, others, hlater⟩ :=
          List.exists_cons_of_ne_nil (anyLater_ne_nil (List.cons_ne_nil first more))
        rw [matchEndings, hafter, anyLater, ih, hlater, List.tail_cons, matchEndings, hmore, hlater]
  obtain ⟨here, after, hafter⟩ := List.exists_cons_of_ne_nil (matchEndings_ne_nil (d :: text) items)
  rw [accepts, ← tail_eq, hafter]
  rfl

@[simp] theorem accepts_nil_nil : accepts [] [] = true := rfl

@[simp] theorem accepts_nil_cons (d : Char) (text : List Char) :
    accepts [] (d :: text) = false := rfl

@[simp] theorem accepts_literal_nil (c : Char) (items : List Token) :
    accepts (.literal c :: items) [] = false := rfl

@[simp] theorem accepts_literal_cons (c d : Char) (items : List Token) (text : List Char) :
    accepts (.literal c :: items) (d :: text) = (d == c && accepts items text) := by
  obtain ⟨first, more, hmore⟩ := List.exists_cons_of_ne_nil (matchEndings_ne_nil text items)
  have hrest : accepts items text = first := by
    rw [accepts, hmore]
    rfl
  rw [hrest, accepts, matchEndings, matchEndings_cons, List.tail_cons, hmore]
  rfl

@[simp] theorem accepts_wildcard_nil (items : List Token) :
    accepts (.wildcard :: items) [] = accepts items [] := by
  have hlength : (matchEndings [] items).length = 1 := by
    induction items with
    | nil => rfl
    | cons item rest ih =>
      obtain ⟨here, hhere⟩ := List.length_eq_one_iff.1 ih
      cases item with
      | literal c => rfl
      | wildcard => rw [matchEndings, hhere]; rfl
  obtain ⟨here, hhere⟩ := List.length_eq_one_iff.1 hlength
  rw [accepts, matchEndings, accepts, hhere]
  rfl

@[simp] theorem accepts_wildcard_cons (d : Char) (items : List Token) (text : List Char) :
    accepts (.wildcard :: items) (d :: text) =
      (accepts items (d :: text) || accepts (.wildcard :: items) text) := by
  obtain ⟨first, more, hmore⟩ := List.exists_cons_of_ne_nil (matchEndings_ne_nil text items)
  obtain ⟨later, others, hlater⟩ :=
    List.exists_cons_of_ne_nil (anyLater_ne_nil (List.cons_ne_nil first more))
  rw [accepts, matchEndings, matchEndings_cons, hmore, anyLater, hlater]
  have hrest : accepts (.wildcard :: items) text = later := by
    rw [accepts, matchEndings, hmore, hlater]
    rfl
  rw [hrest]
  rfl

end RecordStore.Glob
