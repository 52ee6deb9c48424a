import RecordStore.Proofs.Store.History
import RecordStore.Store.Lemmas

/-!
# Places and names

A collection stays at its place for good. All that a change can do to a shelf is to edit its records
or to take it off the list, and only the shelf at the place that the change reaches; no shelf is ever
listed again. A name, on the other hand, leads to the first shelf that is listed under it. That is the
only one, since a collection is created only where the name leads nowhere, so that a name leads to
the same place until it is dropped and nowhere thereafter.
-/

namespace RecordStore

variable {C : Catalog}

/-- What becomes of a shelf in the course of time: its type and its name last, and once it is off the
list it stays so. -/
structure Shelf.Continues (old new : Shelf C) : Prop where
  tag : new.tag = old.tag
  name : new.collection.name = old.collection.name
  listed : new.listed = true → old.listed = true

theorem Shelf.Continues.refl (shelf : Shelf C) : shelf.Continues shelf := ⟨rfl, rfl, id⟩

theorem Shelf.isListed_iff {shelf : Shelf C} {name : String} :
    shelf.isListed name = true ↔ shelf.listed = true ∧ shelf.collection.name = name := by
  simp [isListed]

/-- Whether a change reaches for the collection at a place. -/
def Change.Reaches (db : Database C) (place : Nat) : Change C → Prop
  | create _ _ => False
  | drop name | edit _ name _ => db.place? name = some place
  | editHeld _ handle _ => handle.place = place

namespace Database

variable {db : Database C} {tag : C.Tag} {name : String} {place : Nat} {shelf : Shelf C}

/-! ### Names -/

theorem exists_of_place? (h : db.place? name = some place) :
    ∃ shelf, db.shelves[place]? = some shelf ∧ shelf.isListed name = true := by
  obtain ⟨hlt, hlisted, -⟩ := List.findIdx?_eq_some_iff_getElem.1 h
  exact ⟨db.shelves[place], List.getElem?_eq_getElem hlt, hlisted⟩

theorem has_eq_false_iff : db.has name = false ↔ db.place? name = none := by
  rw [has, shelf?]
  cases hplace : db.place? name with
  | none => simp
  | some place =>
    obtain ⟨shelf, hshelf, -⟩ := exists_of_place? hplace
    rw [Option.bind_some, hshelf]
    simp

theorem openCollection_eq_ok_iff {handle : Handle C tag} :
    db.openCollection tag name = .ok handle ↔
      db.place? name = some handle.place ∧
        db.shelves[handle.place]?.map Shelf.tag = some tag := by
  rw [openCollection, shelf?]
  cases hplace : db.place? name with
  | none => simp
  | some place =>
    obtain ⟨shelf, hshelf, -⟩ := exists_of_place? hplace
    rw [Option.bind_some, hshelf]
    by_cases htag : shelf.tag = tag
    · simp only [if_pos htag]
      constructor
      · intro h
        cases h
        exact ⟨rfl, by rw [hshelf, Option.map_some, htag]⟩
      · rintro ⟨hhandle, -⟩
        rw [Option.some.inj hhandle]
    · simp only [if_neg htag]
      constructor
      · intro h
        cases h
      · rintro ⟨hhandle, htagged⟩
        rw [← Option.some.inj hhandle, hshelf, Option.map_some] at htagged
        exact absurd (Option.some.inj htagged) htag

/-! ### What a change makes of a shelf -/

theorem collection_of_getElem? {handle : Handle C shelf.tag}
    (h : db.shelves[handle.place]? = some shelf) : db.collection handle = shelf.collection := by
  rw [collection, h, Option.bind_some, Shelf.collection?_self, Option.getD_some]

theorem getElem?_editHeld_of_ne {handle : Handle C tag} (hplace : handle.place ≠ place)
    (edit : Edit (C.Row tag)) : (db.editHeld handle edit).shelves[place]? = db.shelves[place]? := by
  rw [editHeld, shelves_store, List.getElem?_modify_ne _ _ hplace]

theorem exists_getElem?_editHeld (h : db.shelves[place]? = some shelf) (handle : Handle C tag)
    (edit : Edit (C.Row tag)) :
    ∃ next, (db.editHeld handle edit).shelves[place]? = some next ∧ shelf.Continues next := by
  by_cases hplace : handle.place = place
  · rw [editHeld, shelves_store, hplace, List.getElem?_modify_eq, h]
    refine ⟨_, rfl, ?_⟩
    dsimp only
    split
    · rename_i htag
      subst htag hplace
      rw [collection_of_getElem? h]
      exact ⟨rfl, Collection.name_edit _ edit, id⟩
    · exact .refl shelf
  · exact ⟨shelf, (getElem?_editHeld_of_ne hplace edit).trans h, .refl shelf⟩

theorem getElem?_change_of_not_reaches {change : Change C} (hreaches : ¬ change.Reaches db place)
    (h : db.shelves[place]? = some shelf) : (db.change change).shelves[place]? = some shelf := by
  cases change with
  | create tag name =>
    rw [Database.change, create]
    split
    · exact h
    · have hlt : place < db.shelves.length := (List.getElem?_eq_some_iff.1 h).1
      exact (List.getElem?_append_left hlt).trans h
  | drop name =>
    rw [Database.change, drop]
    cases hplace : db.place? name with
    | none => exact h
    | some other =>
      have hne : other ≠ place := fun heq => hreaches (hplace.trans (congrArg some heq))
      exact (List.getElem?_modify_ne _ _ hne).trans h
  | edit tag name edit =>
    rw [Database.change]
    split
    · rename_i handle hopen
      have hne : handle.place ≠ place := fun heq =>
        hreaches ((openCollection_eq_ok_iff.1 hopen).1.trans (congrArg some heq))
      exact (getElem?_editHeld_of_ne hne edit).trans h
    · exact h
  | editHeld tag handle edit => exact (getElem?_editHeld_of_ne hreaches edit).trans h

theorem exists_getElem?_change (h : db.shelves[place]? = some shelf) (change : Change C) :
    ∃ next, (db.change change).shelves[place]? = some next ∧ shelf.Continues next := by
  by_cases hreaches : change.Reaches db place
  · cases change with
    | create tag name => cases hreaches
    | drop name =>
      have hplace : db.place? name = some place := hreaches
      rw [Database.change, drop, hplace]
      refine ⟨{ shelf with listed := false }, ?_, rfl, rfl, fun hlisted => by cases hlisted⟩
      show (db.shelves.modify place _)[place]? = _
      rw [List.getElem?_modify_eq, h]
      rfl
    | edit tag name edit =>
      rw [Database.change]
      split
      · exact exists_getElem?_editHeld h _ edit
      · exact ⟨shelf, h, .refl shelf⟩
    | editHeld tag handle edit => exact exists_getElem?_editHeld h handle edit
  · exact ⟨shelf, getElem?_change_of_not_reaches hreaches h, .refl shelf⟩

/-! ### What a change makes of a name -/

theorem place?_editHeld (db : Database C) (handle : Handle C tag) (edit : Edit (C.Row tag))
    (name : String) : (db.editHeld handle edit).place? name = db.place? name :=
  place?_store db handle (Collection.name_edit _ edit) name

theorem place?_create (hhas : db.has name = false) (tag : C.Tag) :
    (db.create tag name).2.place? name = some db.shelves.length := by
  rw [create, if_neg (Bool.eq_false_iff.1 hhas)]
  show (db.shelves ++ [_]).findIdx? _ = _
  rw [List.findIdx?_append, ← place?, has_eq_false_iff.1 hhas]
  simp [Shelf.isListed]

theorem place?_create_of_some (h : db.place? name = some place) (tag : C.Tag) (other : String) :
    (db.create tag other).2.place? name = some place := by
  rw [create]
  split
  · exact h
  · show (db.shelves ++ [_]).findIdx? _ = _
    rw [List.findIdx?_append, ← place?, h, Option.some_or]

theorem place?_drop_of_ne {other : String} (hne : other ≠ name) (db : Database C) :
    (db.drop other).2.place? name = db.place? name := by
  rw [drop]
  cases hplace : db.place? other with
  | none => rfl
  | some place =>
    obtain ⟨shelf, hshelf, hlisted⟩ := exists_of_place? hplace
    refine findIdx?_modify db.shelves place fun old hold => ?_
    rw [hshelf] at hold
    obtain rfl := Option.some.inj hold
    obtain ⟨-, hname⟩ := Shelf.isListed_iff.1 hlisted
    simp [Shelf.isListed, hname, hne]

theorem place?_change (h : db.place? name = some place) {change : Change C}
    (hdrop : change ≠ .drop name) : (db.change change).place? name = some place := by
  cases change with
  | create tag other => exact place?_create_of_some h tag other
  | drop other =>
    have hne : other ≠ name := fun heq => hdrop (congrArg Change.drop heq)
    exact (place?_drop_of_ne hne db).trans h
  | edit tag other edit =>
    rw [Database.change]
    split
    · exact (place?_editHeld db _ edit name).trans h
    · exact h
  | editHeld tag handle edit => exact (place?_editHeld db handle edit name).trans h

/-! ### Shelves off the list -/

/-- The collection at a place is not listed under any name. -/
def Unlisted (db : Database C) (place : Nat) : Prop :=
  ∃ shelf, db.shelves[place]? = some shelf ∧ shelf.listed = false

theorem Unlisted.place?_ne (h : db.Unlisted place) (name : String) :
    db.place? name ≠ some place := by
  intro hplace
  obtain ⟨shelf, hshelf, hlisted⟩ := exists_of_place? hplace
  obtain ⟨other, hother, hunlisted⟩ := h
  rw [hshelf] at hother
  rw [← Option.some.inj hother, (Shelf.isListed_iff.1 hlisted).1] at hunlisted
  cases hunlisted

theorem Unlisted.change (h : db.Unlisted place) (change : Change C) :
    (db.change change).Unlisted place := by
  obtain ⟨shelf, hshelf, hunlisted⟩ := h
  obtain ⟨next, hnext, hcontinues⟩ := exists_getElem?_change hshelf change
  refine ⟨next, hnext, Bool.eq_false_iff.2 fun hlisted => ?_⟩
  rw [hcontinues.listed hlisted] at hunlisted
  cases hunlisted

theorem unlisted_drop (h : db.place? name = some place) :
    (db.change (.drop name)).Unlisted place := by
  obtain ⟨shelf, hshelf, -⟩ := exists_of_place? h
  rw [Database.change, drop, h]
  refine ⟨{ shelf with listed := false }, ?_, rfl⟩
  show (db.shelves.modify place _)[place]? = _
  rw [List.getElem?_modify_eq, hshelf]
  rfl

/-! ### One collection for each name -/

/-- Every listed collection is the one that its name leads to. -/
def WellListed (db : Database C) : Prop :=
  ∀ place shelf name, db.shelves[place]? = some shelf → shelf.isListed name = true →
    db.place? name = some place

/-- A shelf that a change leaves was there before, or the change has created it. -/
theorem exists_of_getElem?_change {change : Change C} {next : Shelf C}
    (h : (db.change change).shelves[place]? = some next) :
    (∃ shelf, db.shelves[place]? = some shelf) ∨
      ∃ tag name, change = .create tag name ∧ db.has name = false ∧ place = db.shelves.length ∧
        next = { tag, collection := { name } } := by
  have hstays : ∀ {index : Nat} {f : Shelf C → Shelf C},
      (db.shelves.modify index f)[place]? = some next → ∃ shelf, db.shelves[place]? = some shelf := by
    intro index f hmodified
    obtain ⟨hlt, -⟩ := List.getElem?_eq_some_iff.1 hmodified
    rw [List.length_modify] at hlt
    exact ⟨db.shelves[place], List.getElem?_eq_getElem hlt⟩
  cases change with
  | create tag name =>
    rw [Database.change, create] at h
    split at h
    · exact .inl ⟨next, h⟩
    · rename_i hhas
      have hnew : (db.shelves ++ [{ tag, collection := { name } }])[place]? = some next := h
      rcases Nat.lt_or_ge place db.shelves.length with hlt | hge
      · exact .inl ⟨db.shelves[place], List.getElem?_eq_getElem hlt⟩
      · rw [List.getElem?_append_right hge, List.getElem?_singleton] at hnew
        split at hnew
        · have hplace : place = db.shelves.length := by omega
          exact .inr ⟨tag, name, rfl, Bool.eq_false_iff.2 hhas, hplace, (Option.some.inj hnew).symm⟩
        · cases hnew
  | drop name =>
    rw [Database.change, drop] at h
    split at h
    · exact .inl ⟨next, h⟩
    · exact .inl (hstays h)
  | edit tag name edit =>
    rw [Database.change] at h
    split at h
    · exact .inl (hstays h)
    · exact .inl ⟨next, h⟩
  | editHeld tag handle edit => exact .inl (hstays h)

theorem isListed_of_change {change : Change C} {next : Shelf C}
    (hshelf : db.shelves[place]? = some shelf)
    (hnext : (db.change change).shelves[place]? = some next) (hlisted : next.isListed name = true) :
    shelf.isListed name = true := by
  obtain ⟨other, hother, hcontinues⟩ := exists_getElem?_change hshelf change
  obtain rfl := Option.some.inj (hnext.symm.trans hother)
  obtain ⟨hon, hname⟩ := Shelf.isListed_iff.1 hlisted
  exact Shelf.isListed_iff.2 ⟨hcontinues.listed hon, hcontinues.name.symm.trans hname⟩

theorem WellListed.change (h : db.WellListed) (change : Change C) :
    (db.change change).WellListed := by
  intro place next name hnext hlisted
  rcases exists_of_getElem?_change hnext with ⟨shelf, hshelf⟩ | ⟨tag, other, rfl, hhas, rfl, rfl⟩
  · have hplace := h place shelf name hshelf (isListed_of_change hshelf hnext hlisted)
    by_cases hdrop : change = .drop name
    · subst hdrop
      obtain ⟨other, hother, hoff⟩ := unlisted_drop hplace
      obtain rfl := Option.some.inj (hnext.symm.trans hother)
      rw [(Shelf.isListed_iff.1 hlisted).1] at hoff
      cases hoff
    · exact place?_change hplace hdrop
  · obtain ⟨-, rfl⟩ := Shelf.isListed_iff.1 hlisted
    exact place?_create hhas tag

theorem WellListed.has_drop (h : db.WellListed) (name : String) :
    (db.drop name).2.has name = false := by
  refine has_eq_false_iff.2 (Option.eq_none_iff_forall_ne_some.2 fun place hplace => ?_)
  obtain ⟨next, hnext, hlisted⟩ := exists_of_place? hplace
  have hnext : (db.change (.drop name)).shelves[place]? = some next := hnext
  rcases exists_of_getElem?_change hnext with ⟨shelf, hshelf⟩ | ⟨_, _, hdrop, -⟩
  · have hbefore := h place shelf name hshelf (isListed_of_change hshelf hnext hlisted)
    exact (unlisted_drop hbefore).place?_ne name hplace
  · cases hdrop

/-! ### Places after a history -/

theorem wellListed_after (config : Config) (history : List (Operation C)) :
    (({ config } : Database C).after history).WellListed :=
  after_keeps (Q := WellListed) (fun _ _ h => h) history (fun _ _ change _ _ h => h.change change)
    fun _ _ _ hshelf => by cases hshelf

theorem Unlisted.after (h : db.Unlisted place) (history : List (Operation C)) :
    (db.after history).Unlisted place :=
  after_keeps (Q := (Unlisted · place)) (fun _ _ h => h) history
    (fun _ _ change _ _ h => h.change change) h

theorem tag_after (h : db.shelves[place]?.map Shelf.tag = some tag)
    (history : List (Operation C)) :
    (db.after history).shelves[place]?.map Shelf.tag = some tag := by
  refine after_keeps (Q := fun now => now.shelves[place]?.map Shelf.tag = some tag)
    (fun _ _ h => h) history (fun _ _ change _ now h => ?_) h
  obtain ⟨shelf, hshelf, htag⟩ := Option.map_eq_some_iff.1 h
  obtain ⟨next, hnext, hcontinues⟩ := exists_getElem?_change hshelf change
  rw [hnext, Option.map_some, hcontinues.tag, htag]

theorem place?_after (h : db.place? name = some place) {history : List (Operation C)}
    (hdrop : ∀ operation ∈ history, Change.drop name ∉ operation.changes) :
    (db.after history).place? name = some place := by
  refine after_keeps (Q := fun now => now.place? name = some place) (fun _ _ h => h) history ?_ h
  intro operation hmem change hchange now hnow
  exact place?_change hnow fun heq => hdrop operation hmem (heq ▸ hchange)

/-- In the end a name leads to the place where it led, or the collection there is off the list. -/
theorem place?_or_unlisted_after (h : db.place? name = some place)
    (history : List (Operation C)) :
    (db.after history).place? name = some place ∨ (db.after history).Unlisted place := by
  refine after_keeps (Q := fun now => now.place? name = some place ∨ now.Unlisted place)
    (fun _ _ h => h) history ?_ (.inl h)
  rintro operation - change - now (hplace | hunlisted)
  · by_cases hdrop : change = .drop name
    · subst hdrop
      exact .inr (unlisted_drop hplace)
    · exact .inl (place?_change hplace hdrop)
  · exact .inr (hunlisted.change change)

theorem after_append (db : Database C) (first second : List (Operation C)) :
    db.after (first ++ second) = (db.after first).after second :=
  List.foldl_append

theorem unlisted_after_drop (h : db.place? name = some place) {history : List (Operation C)}
    (hdrop : .database (.drop name) ∈ history) : (db.after history).Unlisted place := by
  obtain ⟨before, rest, rfl⟩ := List.append_of_mem hdrop
  rw [after_append]
  refine Unlisted.after ?_ rest
  rcases place?_or_unlisted_after h before with hplace | hunlisted
  · exact unlisted_drop hplace
  · exact hunlisted.change (.drop name)

end Database

end RecordStore
