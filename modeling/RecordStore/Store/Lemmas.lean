import RecordStore.Store.Database

/-!
# What storing a collection leaves alone

Putting a collection in the place of the one that a handle holds changes what that place holds and
nothing else. No record type changes, and as long as the collection keeps its name so does the list
of names. These are the facts about the shelves that operations on records rest on, whichever way
they reach their collection.
-/

namespace RecordStore

variable {C : Catalog}

@[simp] theorem Shelf.collection?_self (tag : C.Tag) (collection : Collection (C.Row tag))
    (listed : Bool) : Shelf.collection? ⟨tag, collection, listed⟩ tag = some collection := by
  rw [Shelf.collection?, dif_pos rfl]

namespace Database

/-! ### Handles -/

theorem shelves_store (db : Database C) {tag : C.Tag} (handle : Handle C tag)
    (c : Collection (C.Row tag)) :
    (db.store handle c).shelves = db.shelves.modify handle.place fun shelf =>
      if shelf.tag = tag then { tag, collection := c, listed := shelf.listed } else shelf := rfl

theorem collection_store {db : Database C} {tag : C.Tag} {handle : Handle C tag}
    (h : db.shelves[handle.place]?.map Shelf.tag = some tag) (c : Collection (C.Row tag)) :
    (db.store handle c).collection handle = c := by
  obtain ⟨shelf, hshelf, htag⟩ := Option.map_eq_some_iff.1 h
  rw [collection, shelves_store, List.getElem?_modify_eq, hshelf, Option.map_eq_map,
    Option.map_some, Option.bind_some, if_pos htag, Shelf.collection?_self, Option.getD_some]

theorem store_store (db : Database C) {tag : C.Tag} (handle : Handle C tag)
    (first second : Collection (C.Row tag)) :
    (db.store handle first).store handle second = db.store handle second := by
  have hshelves : ((db.store handle first).store handle second).shelves =
      (db.store handle second).shelves := by
    rw [shelves_store, shelves_store, shelves_store, List.modify_modify_eq]
    congr 1
    funext shelf
    rw [Function.comp_apply]
    split
    · exact if_pos rfl
    · rfl
  exact congrArg (fun shelves => { db with shelves }) hshelves

theorem store_collection (db : Database C) {tag : C.Tag} (handle : Handle C tag) :
    db.store handle (db.collection handle) = db := by
  have hshelves : (db.store handle (db.collection handle)).shelves = db.shelves := by
    refine List.ext_getElem? fun place => ?_
    rw [shelves_store, List.getElem?_modify]
    cases hshelf : db.shelves[place]? with
    | none => rfl
    | some shelf =>
      by_cases hplace : handle.place = place
      · by_cases htag : shelf.tag = tag
        · subst hplace htag
          have hheld : db.collection handle = shelf.collection := by
            rw [collection, hshelf, Option.bind_some, Shelf.collection?_self, Option.getD_some]
          simp [hheld]
        · simp [hplace, htag]
      · simp [hplace]
  exact congrArg (fun shelves => { db with shelves }) hshelves

/-- A handle on a place that holds nothing of its type sees an empty collection. -/
theorem collection_of_tag_ne {db : Database C} {tag : C.Tag} {handle : Handle C tag}
    (h : db.shelves[handle.place]?.map Shelf.tag ≠ some tag) :
    db.collection handle = { name := "" } := by
  rw [collection]
  cases hshelf : db.shelves[handle.place]? with
  | none => rfl
  | some shelf =>
    rw [hshelf, Option.map_some] at h
    have htag : shelf.tag ≠ tag := fun htag => h (congrArg some htag)
    rw [Option.bind_some, Shelf.collection?, dif_neg htag, Option.getD_none]

/-! ### Names and record types -/

theorem findIdx?_modify {α : Type} {p : α → Bool} {f : α → α} (items : List α) (i : Nat)
    (h : ∀ a, items[i]? = some a → p (f a) = p a) :
    (items.modify i f).findIdx? p = items.findIdx? p := by
  induction items generalizing i with
  | nil => rw [List.modify_nil]
  | cons a rest ih =>
    cases i with
    | zero => rw [List.modify_zero_cons, List.findIdx?_cons, List.findIdx?_cons, h a rfl]
    | succ i =>
      rw [List.modify_succ_cons, List.findIdx?_cons, List.findIdx?_cons, ih i fun b hb => h b hb]

/-- Names stay where they are when a collection is replaced by one of the same name. -/
theorem place?_store (db : Database C) {tag : C.Tag} (handle : Handle C tag)
    {c : Collection (C.Row tag)} (h : c.name = (db.collection handle).name) (name : String) :
    (db.store handle c).place? name = db.place? name := by
  refine findIdx?_modify db.shelves handle.place fun shelf hshelf => ?_
  split
  · rename_i htag
    rw [collection, hshelf, Option.bind_some] at h
    subst htag
    rw [Shelf.collection?_self, Option.getD_some] at h
    rw [Shelf.isListed, Shelf.isListed, h]
  · rfl

theorem tag_store (db : Database C) {tag : C.Tag} (handle : Handle C tag)
    (c : Collection (C.Row tag)) (place : Nat) :
    (db.store handle c).shelves[place]?.map Shelf.tag = db.shelves[place]?.map Shelf.tag := by
  rw [shelves_store, List.getElem?_modify]
  cases db.shelves[place]? with
  | none => rfl
  | some shelf =>
    simp only [Option.map_eq_map, Option.map_some, Option.some.injEq]
    split
    · split
      · rename_i htag
        exact htag.symm
      · rfl
    · rfl

/-- Every name opens the same collection after one has been replaced under its own name. -/
theorem openCollection_store (db : Database C) {tag : C.Tag} (handle : Handle C tag)
    {c : Collection (C.Row tag)} (h : c.name = (db.collection handle).name) (other : C.Tag)
    (name : String) : (db.store handle c).openCollection other name = db.openCollection other name := by
  rw [openCollection, openCollection, shelf?, shelf?, place?_store db handle h]
  cases db.place? name with
  | none => rfl
  | some place =>
    have htag := tag_store db handle c place
    rw [Option.bind_some, Option.bind_some]
    cases hold : db.shelves[place]? with
    | none =>
      rw [hold, Option.map_none, Option.map_eq_none_iff] at htag
      rw [htag]
    | some old =>
      rw [hold, Option.map_some, Option.map_eq_some_iff] at htag
      obtain ⟨new, hnew, htag⟩ := htag
      rw [hnew]
      simp only [htag]

end Database

end RecordStore
