import Mathlib.Data.List.DropRight
import Mathlib.Data.List.Sort
import Mathlib.Data.Set.Card
import RecordStore.Proofs.Store.Distinct

/-!
# What a history leaves in a collection

The edits that a collection has been through can be told apart by the classes of equal records that
they touch. Each class has a timeline of its own, and two entries of it are all that the collection
keeps: the last, which says whether the class is there and as which record, and the first addition
behind the last removal, whose time says where. Neither of them looks at any other class, so that a
replacement moves nothing, a removal leaves the order of the others alone, and a record that comes
back is the last.

Additions change a list at one position and removals at many, and the proofs do not speak of positions
at all. What they keep from edit to edit is that of each class the list holds what the timeline says,
and that the list is ordered by the times.
-/

namespace RecordStore

variable {ρ : Type}

namespace Edit

def added? : Edit ρ → Option ρ
  | add record => some record
  | remove _ | removeAll _ => none

variable [BEq ρ]

/-- Whether an edit adds or removes what equals a record. -/
def touches : Edit ρ → ρ → Bool
  | add record, r | remove record, r => r == record
  | removeAll targets, r => targets.any (r == ·)

theorem touches_congr [PartialEquivBEq ρ] (edit : Edit ρ) {r s : ρ} (h : (r == s) = true) :
    edit.touches r = edit.touches s := by
  cases edit with
  | add record | remove record => exact BEq.congr_left h
  | removeAll targets => simp only [touches, BEq.congr_left h]

end Edit

namespace Collection

variable [BEq ρ]

def edited (c : Collection ρ) (edits : List (Edit ρ)) : Collection ρ := edits.foldl edit c

/-- The records that equal the given one. -/
def classOf (r : ρ) : Set ρ := {s | (s == r) = true}

/-! ### Timelines -/

/-- The edits that touch the class of a record, with their times. -/
def timeline (edits : List (Edit ρ)) (r : ρ) : List (Edit ρ × Nat) :=
  edits.zipIdx.filter fun entry => entry.1.touches r

/-- The record that the last edit to touch a class has added, unless that edit was a removal. -/
def lastAdded? (edits : List (Edit ρ)) (r : ρ) : Option ρ :=
  (timeline edits r).getLast?.bind fun entry => entry.1.added?

/-- The time of the first addition to a class behind its last removal. -/
def since? (edits : List (Edit ρ)) (r : ρ) : Option Nat :=
  ((timeline edits r).rtakeWhile fun entry => entry.1.added?.isSome).head?.map (·.2)

/-- Whether the class of one record has been there for longer than that of another. -/
def Precedes (edits : List (Edit ρ)) (a b : ρ) : Prop :=
  ∃ m n, since? edits a = some m ∧ since? edits b = some n ∧ m < n

/-- What a list of records shows of a history: of each class the record that was added last, if no
removal came after it, in the order of the first additions behind the last removals. -/
structure Reflects (edits : List (Edit ρ)) (records : List ρ) : Prop where
  current : ∀ r, records.filter (· == r) = (lastAdded? edits r).toList
  ordered : records.Pairwise (Precedes edits)

section Timelines

variable {edits : List (Edit ρ)} {edit : Edit ρ} {r s : ρ}

theorem timeline_concat : timeline (edits ++ [edit]) r =
    timeline edits r ++ if edit.touches r then [(edit, edits.length)] else [] := by
  rw [timeline, List.zipIdx_append, List.filter_append, Nat.zero_add]
  cases htouches : edit.touches r <;> simp [timeline, htouches]

theorem lastAdded?_concat : lastAdded? (edits ++ [edit]) r =
    if edit.touches r then edit.added? else lastAdded? edits r := by
  rw [lastAdded?, timeline_concat]
  split
  · rw [List.getLast?_concat, Option.bind_some]
  · rw [List.append_nil, lastAdded?]

theorem since?_concat : since? (edits ++ [edit]) r =
    if edit.touches r then
      if edit.added?.isSome then some ((since? edits r).getD edits.length) else none
    else since? edits r := by
  rw [since?, timeline_concat]
  split
  · rw [List.rtakeWhile_concat]
    split
    · rw [List.head?_append, since?]
      cases (List.rtakeWhile _ (timeline edits r)).head? <;> rfl
    · rfl
  · rw [List.append_nil, since?]

theorem lastAdded?_add (record : ρ) : lastAdded? (edits ++ [.add record]) r =
    if r == record then some record else lastAdded? edits r :=
  lastAdded?_concat

theorem since?_add (record : ρ) : since? (edits ++ [.add record]) r =
    if r == record then some ((since? edits r).getD edits.length) else since? edits r :=
  since?_concat

theorem isSome_since? : (since? edits r).isSome = (lastAdded? edits r).isSome := by
  induction edits using List.reverseRecOn with
  | nil => rfl
  | append_singleton edits edit ih =>
    rw [since?_concat, lastAdded?_concat]
    split
    · cases edit.added? <;> rfl
    · exact ih

theorem since?_lt {n : Nat} (h : since? edits r = some n) : n < edits.length := by
  obtain ⟨entry, hentry, rfl⟩ := Option.map_eq_some_iff.1 h
  have hstanding := List.mem_of_head? hentry
  have hmem := List.mem_of_mem_filter ((List.rtakeWhile_suffix _ _).subset hstanding)
  exact (List.mem_zipIdx' hmem).1

section Congruence

variable [PartialEquivBEq ρ]

theorem timeline_congr (h : (r == s) = true) : timeline edits r = timeline edits s := by
  simp only [timeline, Edit.touches_congr _ h]

theorem lastAdded?_congr (h : (r == s) = true) : lastAdded? edits r = lastAdded? edits s := by
  rw [lastAdded?, lastAdded?, timeline_congr h]

theorem since?_congr (h : (r == s) = true) : since? edits r = since? edits s := by
  rw [since?, since?, timeline_congr h]

end Congruence

end Timelines

theorem Precedes.of_since?_eq {edits later : List (Edit ρ)} {a b a' b' : ρ}
    (h : Precedes edits a b) (ha : since? later a' = since? edits a)
    (hb : since? later b' = since? edits b) : Precedes later a' b' := by
  obtain ⟨m, n, hm, hn, hlt⟩ := h
  exact ⟨m, n, ha.trans hm, hb.trans hn, hlt⟩

instance (edits : List (Edit ρ)) : Std.Irrefl (Precedes edits) where
  irrefl := by
    rintro a ⟨m, n, hm, hn, hlt⟩
    cases hm.symm.trans hn
    exact Nat.lt_irrefl m hlt

instance (edits : List (Edit ρ)) : Std.Antisymm (Precedes edits) where
  antisymm := by
    rintro a b ⟨m, n, hm, hn, hlt⟩ ⟨n', m', hn', hm', hgt⟩
    cases hm.symm.trans hm'
    cases hn.symm.trans hn'
    exact absurd hlt (Nat.not_lt_of_gt hgt)

/-! ### Lists that reflect a history -/

section Reflecting

variable {edits : List (Edit ρ)} {records : List ρ}

theorem Reflects.any_eq_isSome (h : Reflects edits records) (r : ρ) :
    records.any (· == r) = (lastAdded? edits r).isSome := by
  rw [← List.isSome_find?, ← List.head?_filter, h.current r]
  cases lastAdded? edits r <;> rfl

/-- Equal records have been there for equally long, so that there is one of them at most. -/
theorem Reflects.distinct [PartialEquivBEq ρ] (h : Reflects edits records) : Distinct records := by
  refine h.ordered.imp fun {a b} hbefore => eq_false_of_ne_true fun hequal => ?_
  obtain ⟨m, n, hm, hn, hlt⟩ := hbefore
  rw [since?_congr hequal] at hm
  cases hm.symm.trans hn
  exact Nat.lt_irrefl m hlt

theorem Reflects.mem_iff [ReflBEq ρ] (h : Reflects edits records) {r : ρ} :
    r ∈ records ↔ lastAdded? edits r = some r := by
  have hself : r ∈ records ↔ r ∈ records.filter (· == r) := by simp
  rw [hself, h.current r, Option.mem_toList]

theorem Reflects.unique [ReflBEq ρ] (h : Reflects edits records) {others : List ρ}
    (hothers : Reflects edits others) : records = others :=
  h.ordered.eq_of_mem_iff hothers.ordered fun _ => h.mem_iff.trans hothers.mem_iff.symm

end Reflecting

/-! ### Edits of distinct records -/

/-- Among distinct records, one that is replaced is the only one to change. -/
theorem insert_eq_map_of_any [PartialEquivBEq ρ] {records : List ρ} (h : Distinct records)
    {record : ρ} (hstored : records.any (· == record) = true) :
    insert record records = records.map fun s => if s == record then record else s := by
  induction records with
  | nil => cases hstored
  | cons r rest ih =>
    rw [insert, List.map_cons]
    cases hequal : r == record with
    | true =>
      have hothers : ∀ s ∈ rest, (if s == record then record else s) = s := by
        intro s hs
        rw [h.ne_of_mem_tail hequal hs]
        rfl
      rw [List.map_congr_left hothers, List.map_id']
      rfl
    | false =>
      rw [List.any_cons, hequal, Bool.false_or] at hstored
      rw [ih (List.pairwise_cons.1 h).2 hstored]
      rfl

section Editing

variable {c : Collection ρ} {record : ρ}

theorem records_add_of_not_contains (h : c.contains record = false) :
    (c.add record).records = c.records ++ [record] :=
  insert_of_forall_ne fun r hr => eq_false_of_ne_true (List.any_eq_false.1 h r hr)

theorem records_add_of_contains [PartialEquivBEq ρ] (h : Distinct c.records)
    (hstored : c.contains record = true) :
    (c.add record).records = c.records.map fun s => if s == record then record else s :=
  insert_eq_map_of_any h hstored

theorem records_edit_of_added?_eq_none [PartialEquivBEq ρ] (h : Distinct c.records)
    {edit : Edit ρ} (hadded : edit.added? = none) :
    (c.edit edit).records = c.records.filter fun s => !edit.touches s := by
  cases edit with
  | add record => cases hadded
  | remove record => exact h.eraseP_eq_filter record
  | removeAll targets => rfl

end Editing

/-! ### From edit to edit -/

section Steps

variable {edits : List (Edit ρ)} {c : Collection ρ} {record : ρ}

theorem Reflects.contains_eq (h : Reflects edits c.records) (record : ρ) :
    c.contains record = (lastAdded? edits record).isSome :=
  h.any_eq_isSome record

variable [EquivBEq ρ]

/-- A class that is there keeps its time, whichever of its records stands for it. -/
theorem since?_replaced (hstored : (lastAdded? edits record).isSome = true) (s : ρ) :
    since? (edits ++ [.add record]) (if s == record then record else s) = since? edits s := by
  rw [since?_add]
  by_cases hs : (s == record) = true
  · obtain ⟨time, htime⟩ := Option.isSome_iff_exists.1 (isSome_since?.trans hstored)
    rw [if_pos hs, if_pos BEq.rfl, since?_congr hs, htime]
    rfl
  · rw [if_neg hs, if_neg hs]

theorem Reflects.add_of_contains (h : Reflects edits c.records)
    (hstored : c.contains record = true) :
    Reflects (edits ++ [.add record]) (c.add record).records := by
  rw [records_add_of_contains h.distinct hstored]
  rw [h.contains_eq] at hstored
  constructor
  · intro r
    have hclass : ∀ s, ((if s == record then record else s) == r) = (s == r) := by
      intro s
      split
      · rename_i hequal
        exact (BEq.congr_left hequal).symm
      · rfl
    rw [List.filter_map, lastAdded?_add]
    simp only [Function.comp_def, hclass]
    -- what was there of the class gives way to the new record, and other classes keep theirs
    by_cases hr : (r == record) = true
    · have hnew : ∀ s ∈ c.records.filter (· == r), (if s == record then record else s) = record :=
        fun s hs => if_pos (BEq.trans (List.mem_filter.1 hs).2 hr)
      obtain ⟨old, hold⟩ := Option.isSome_iff_exists.1 hstored
      rw [List.map_congr_left hnew, h.current r, lastAdded?_congr hr, hold, if_pos hr]
      rfl
    · have hold : ∀ s ∈ c.records.filter (· == r), (if s == record then record else s) = s :=
        fun s hs => if_neg fun hequal => hr (BEq.trans (BEq.symm (List.mem_filter.1 hs).2) hequal)
      rw [List.map_congr_left hold, List.map_id', h.current r, if_neg hr]
  · refine List.pairwise_map.2 (h.ordered.imp fun {a b} hbefore => ?_)
    exact hbefore.of_since?_eq (since?_replaced hstored a) (since?_replaced hstored b)

/-- A class that was not there comes with the latest time. -/
theorem Reflects.add_of_not_contains (h : Reflects edits c.records)
    (hnew : c.contains record = false) :
    Reflects (edits ++ [.add record]) (c.add record).records := by
  have hlast : lastAdded? edits record = none := by
    rw [← Option.not_isSome_iff_eq_none, ← h.contains_eq, hnew]
    exact Bool.false_ne_true
  have hsince : since? edits record = none := by
    rw [← Option.not_isSome_iff_eq_none, isSome_since?, hlast]
    exact Bool.false_ne_true
  have hkept : ∀ s ∈ c.records, since? (edits ++ [.add record]) s = since? edits s := by
    intro s hs
    rw [since?_add, if_neg (List.any_eq_false.1 hnew s hs)]
  rw [records_add_of_not_contains hnew]
  constructor
  · intro r
    rw [List.filter_append, h.current r, lastAdded?_add, List.filter_singleton, BEq.comm]
    by_cases hr : (r == record) = true
    · rw [lastAdded?_congr hr, hlast, hr]
      rfl
    · rw [eq_false_of_ne_true hr]
      exact List.append_nil _
  -- all that is there began before this edit, which is the time of the new class
  · refine List.pairwise_append.2 ⟨?_, List.pairwise_singleton _ _, fun a ha b hb => ?_⟩
    · refine h.ordered.imp_of_mem fun {a b} ha hb hbefore => ?_
      exact hbefore.of_since?_eq (hkept a ha) (hkept b hb)
    · have hstored : (since? edits a).isSome = true := by
        rw [isSome_since?, h.mem_iff.1 ha]
        rfl
      obtain ⟨m, hm⟩ := Option.isSome_iff_exists.1 hstored
      refine ⟨m, edits.length, (hkept a ha).trans hm, ?_, since?_lt hm⟩
      rw [List.mem_singleton.1 hb, since?_add, if_pos BEq.rfl, hsince, Option.getD_none]

theorem Reflects.edit_of_added?_eq_none (h : Reflects edits c.records) {edit : Edit ρ}
    (hadded : edit.added? = none) : Reflects (edits ++ [edit]) (c.edit edit).records := by
  rw [records_edit_of_added?_eq_none h.distinct hadded]
  constructor
  · intro r
    have hclass : ∀ s, ((s == r) && !edit.touches s) = ((s == r) && !edit.touches r) := by
      intro s
      cases hequal : s == r with
      | true => rw [edit.touches_congr hequal]
      | false => rfl
    rw [List.filter_filter, lastAdded?_concat, hadded]
    simp only [hclass]
    cases edit.touches r with
    | true => simp
    | false => simpa using h.current r
  · refine (h.ordered.filter _).imp_of_mem fun {a b} ha hb hbefore => ?_
    have hkept : ∀ s ∈ c.records.filter (fun s => !edit.touches s),
        since? (edits ++ [edit]) s = since? edits s := by
      intro s hs
      have huntouched : edit.touches s = false := by simpa using (List.mem_filter.1 hs).2
      rw [since?_concat, huntouched, if_neg Bool.false_ne_true]
    exact hbefore.of_since?_eq (hkept a ha) (hkept b hb)

theorem Reflects.edit (h : Reflects edits c.records) (edit : Edit ρ) :
    Reflects (edits ++ [edit]) (c.edit edit).records := by
  cases edit with
  | add record =>
    cases hstored : c.contains record with
    | true => exact h.add_of_contains hstored
    | false => exact h.add_of_not_contains hstored
  | remove record => exact h.edit_of_added?_eq_none rfl
  | removeAll targets => exact h.edit_of_added?_eq_none rfl

end Steps

/-! ### Whole histories -/

section Histories

variable [EquivBEq ρ]

theorem reflects_edited (name : String) (edits : List (Edit ρ)) :
    Reflects edits (({ name } : Collection ρ).edited edits).records := by
  induction edits using List.reverseRecOn with
  | nil => exact ⟨fun _ => rfl, List.Pairwise.nil⟩
  | append_singleton edits edit ih =>
    rw [edited, List.foldl_concat]
    exact ih.edit edit

theorem classOf_eq_iff {r s : ρ} : classOf r = classOf s ↔ (r == s) = true := by
  constructor
  · intro h
    have hmem : r ∈ classOf r := BEq.rfl
    rwa [h] at hmem
  · intro h
    ext t
    simp only [classOf, Set.mem_ofPred_eq, BEq.congr_right h]

theorem Reflects.length_eq {edits : List (Edit ρ)} {records : List ρ} (h : Reflects edits records) :
    records.length = (classOf '' {r | (lastAdded? edits r).isSome = true}).ncard := by
  have hpresent : ∀ r ∈ records, (lastAdded? edits r).isSome = true := by
    intro r hr
    rw [h.mem_iff.1 hr]
    rfl
  refine (Set.ncard_eq_of_bijective (fun i hi => classOf records[i]) ?_ ?_ ?_).symm
  · rintro _ ⟨r, hr, rfl⟩
    rw [Set.mem_ofPred_eq, ← h.any_eq_isSome, List.any_eq_true] at hr
    obtain ⟨s, hs, hequal⟩ := hr
    obtain ⟨i, hi, rfl⟩ := List.getElem_of_mem hs
    exact ⟨i, hi, classOf_eq_iff.2 hequal⟩
  · intro i hi
    exact ⟨records[i], hpresent _ (List.getElem_mem hi), rfl⟩
  · intro i j hi hj hequal
    by_contra hij
    have hdifferent := h.distinct.ne_of_positions hij (List.getElem?_eq_getElem hi)
      (List.getElem?_eq_getElem hj)
    rw [classOf_eq_iff.1 hequal] at hdifferent
    cases hdifferent

/-- After any edits of an empty collection, its records are the one list that the timelines of the
classes allow: of each class whose last edit is an addition it holds the record of that addition and
no other, and of a class whose last edit is a removal none, in the order of the first additions behind
the last removals. It counts the classes that are there. So a replacement moves no record, a removal
keeps the order of the others, and a record that comes back after it goes to the end. -/
theorem records_of_edits (name : String) (edits : List (Edit ρ)) :
    let c := ({ name } : Collection ρ).edited edits
    (∀ records, c.records = records ↔ Reflects edits records) ∧
      c.count = (classOf '' {r | (lastAdded? edits r).isSome = true}).ncard ∧
      (∀ record, c.contains record = true →
        (c.add record).records = c.records.map fun s => if s == record then record else s) ∧
      ∀ edit : Edit ρ, edit.added? = none →
        (c.edit edit).records = c.records.filter (fun s => !edit.touches s) ∧
          ∀ record, edit.touches record = true →
            ((c.edit edit).add record).records = (c.edit edit).records ++ [record] := by
  intro c
  have hreflects : Reflects edits c.records := reflects_edited name edits
  refine ⟨fun records => ⟨?_, hreflects.unique⟩, hreflects.length_eq,
    fun record hstored => records_add_of_contains hreflects.distinct hstored,
    fun edit hadded => ⟨records_edit_of_added?_eq_none hreflects.distinct hadded,
      fun record htouches => records_add_of_not_contains ?_⟩⟩
  · rintro rfl
    exact hreflects
  · rw [(hreflects.edit edit).contains_eq, lastAdded?_concat, if_pos htouches, hadded]
    rfl

end Histories

end Collection

/-- A note under a key. Notes with the same key are equal. -/
structure Note where
  key : Nat
  text : String

namespace Note

instance : BEq Note := ⟨fun a b => a.key == b.key⟩

instance : EquivBEq Note where
  rfl := fun {a} => beq_self_eq_true a.key
  symm h := BEq.symm (α := Nat) h
  trans hab hbc := BEq.trans (α := Nat) hab hbc

end Note

/-- The second note is removed and comes back before the third, which has been removed as well, and is
replaced at its place afterwards. -/
theorem Collection.records_of_edits_notes :
    let edits : List (Edit Note) :=
      [.add ⟨1, "one"⟩, .add ⟨2, "two"⟩, .add ⟨3, "three"⟩, .remove ⟨2, ""⟩, .add ⟨1, "ein"⟩,
        .removeAll [⟨3, ""⟩, ⟨4, ""⟩], .add ⟨2, "zwei"⟩, .add ⟨3, "drei"⟩, .add ⟨2, "deux"⟩]
    let c := ({ name := "notes" } : Collection Note).edited edits
    c.records = [⟨1, "ein"⟩, ⟨2, "deux"⟩, ⟨3, "drei"⟩] ∧
      since? edits ⟨2, ""⟩ = some 6 ∧ Reflects edits c.records ∧
      (classOf '' {r | (lastAdded? edits r).isSome = true}).ncard = 3 ∧
      (c.add ⟨2, "dos"⟩).records = c.records.map (fun s => if s == ⟨2, ""⟩ then ⟨2, "dos"⟩ else s) ∧
      ((c.edit (.remove ⟨1, ""⟩)).add ⟨1, "uno"⟩).records =
        [⟨2, "deux"⟩, ⟨3, "drei"⟩, ⟨1, "uno"⟩] := by
  intro edits c
  obtain ⟨hlist, hcount, hreplaced, hremoved⟩ := records_of_edits "notes" edits
  obtain ⟨hrest, hagain⟩ := hremoved (.remove ⟨1, ""⟩) rfl
  refine ⟨rfl, rfl, (hlist c.records).1 rfl, hcount.symm, hreplaced ⟨2, "dos"⟩ rfl, ?_⟩
  exact hagain ⟨1, "uno"⟩ rfl

end RecordStore
