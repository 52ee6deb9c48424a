import RecordStore.Proofs.Store.Change

/-!
# What holds throughout a database

A database comes by its collections in two ways only: it creates them empty, and it edits the records
of those that it has. Whatever property of a collection the empty ones have and no edit takes away
therefore holds throughout the database after every change, if it did before.
-/

namespace RecordStore

variable {C : Catalog} {P : (tag : C.Tag) → Collection (C.Row tag) → Prop}

/-- A property of collections that empty ones have and that no change of the records takes away. -/
structure Collection.Lasting (P : (tag : C.Tag) → Collection (C.Row tag) → Prop) : Prop where
  empty : ∀ tag name, P tag { name }
  add : ∀ {tag} {c : Collection (C.Row tag)} (record : C.Row tag), P tag c → P tag (c.add record)
  remove : ∀ {tag} {c : Collection (C.Row tag)} (record : C.Row tag),
    P tag c → P tag (c.remove record)
  removeAll : ∀ {tag} {c : Collection (C.Row tag)} (targets : List (C.Row tag)),
    P tag c → P tag (c.removeAll targets)

namespace Database

/-- A property holds of every collection of a database, whether or not it is listed. -/
def Throughout (P : (tag : C.Tag) → Collection (C.Row tag) → Prop) (db : Database C) : Prop :=
  ∀ shelf ∈ db.shelves, P shelf.tag shelf.collection

/-! ### Collections -/

theorem Throughout.report {db : Database C} (h : db.Throughout P) (event : Event) :
    (Reports.report event db).Throughout P := h

theorem Throughout.modify {db : Database C} (h : db.Throughout P) (change : Shelf C → Shelf C)
    (hchange : ∀ shelf, P shelf.tag shelf.collection →
      P (change shelf).tag (change shelf).collection) (place : Nat) :
    ({ db with shelves := db.shelves.modify place change } : Database C).Throughout P := by
  intro changed hmem
  obtain ⟨position, hposition⟩ := List.mem_iff_getElem?.1 hmem
  rw [List.getElem?_modify] at hposition
  obtain ⟨shelf, hshelf, rfl⟩ := Option.map_eq_some_iff.1 hposition
  have hold := h shelf (List.mem_of_getElem? hshelf)
  by_cases hplace : place = position
  · rw [if_pos hplace]
    exact hchange shelf hold
  · rw [if_neg hplace]
    exact hold

theorem Throughout.collection (lasting : Collection.Lasting P) {db : Database C}
    (h : db.Throughout P) {tag : C.Tag} (handle : Handle C tag) :
    P tag (db.collection handle) := by
  rw [Database.collection]
  cases hshelf : db.shelves[handle.place]? with
  | none => exact lasting.empty tag ""
  | some shelf =>
    have hmem := h shelf (List.mem_of_getElem? hshelf)
    rw [Option.bind_some, Shelf.collection?]
    split
    · rename_i htag
      subst htag
      exact hmem
    · exact lasting.empty tag ""

theorem Throughout.store {db : Database C} (h : db.Throughout P) {tag : C.Tag}
    (handle : Handle C tag) {c : Collection (C.Row tag)} (hc : P tag c) :
    (db.store handle c).Throughout P := by
  refine h.modify _ (fun shelf hshelf => ?_) handle.place
  by_cases htag : shelf.tag = tag
  · rw [if_pos htag]
    exact hc
  · rw [if_neg htag]
    exact hshelf

theorem Throughout.create (lasting : Collection.Lasting P) {db : Database C}
    (h : db.Throughout P) (tag : C.Tag) (name : String) : (db.create tag name).2.Throughout P := by
  rw [Database.create]
  split
  · exact h
  · intro shelf hmem
    rcases List.mem_append.1 hmem with hold | hnew
    · exact h shelf hold
    · rw [List.mem_singleton.1 hnew]
      exact lasting.empty tag name

theorem Throughout.drop {db : Database C} (h : db.Throughout P) (name : String) :
    (db.drop name).2.Throughout P := by
  rw [Database.drop]
  split
  · exact h
  · rename_i place _
    have hunlisted :=
      h.modify (fun shelf => { shelf with listed := false }) (fun _ hshelf => hshelf) place
    exact hunlisted.report (.dropped name)

theorem Throughout.editHeld (lasting : Collection.Lasting P) {db : Database C}
    (h : db.Throughout P) {tag : C.Tag} (handle : Handle C tag) (edit : Edit (C.Row tag)) :
    (db.editHeld handle edit).Throughout P := by
  apply h.store handle
  have hheld := h.collection lasting handle
  cases edit with
  | add record => exact lasting.add record hheld
  | remove record => exact lasting.remove record hheld
  | removeAll targets => exact lasting.removeAll targets hheld

theorem Throughout.change (lasting : Collection.Lasting P) {db : Database C}
    (h : db.Throughout P) (change : Change C) : (db.change change).Throughout P := by
  cases change with
  | create tag name => exact h.create lasting tag name
  | drop name => exact h.drop name
  | edit tag name edit =>
    rw [Database.change]
    split
    · rename_i handle _
      exact h.editHeld lasting handle edit
    · exact h
  | editHeld tag handle edit => exact h.editHeld lasting handle edit

end Database

end RecordStore
