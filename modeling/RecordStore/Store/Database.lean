import RecordStore.Scan.Event
import RecordStore.Store.Catalog
import RecordStore.Store.Collection
import RecordStore.Store.Config
import RecordStore.Store.Error
import RecordStore.Text.Sorted

/-!
# Databases

A database keeps every collection that was ever created, at a place that never changes, and lists at
most one of them under each name. Dropping a collection takes it off the list. A handle holds on to
the place, not to the name: it keeps working on a dropped collection, and never reaches a later one
of the same name.

Everything that is worth reporting is written to the journal of the database, which has no influence
on anything else.
-/

namespace RecordStore

/-- A collection in a database: the type of its records, and whether it is listed under its name. -/
structure Shelf (C : Catalog) where
  tag : C.Tag
  collection : Collection (C.Row tag)
  listed : Bool := true

structure Database (C : Catalog) where
  config : Config := {}
  shelves : List (Shelf C) := []
  journal : Array Event := #[]

/-- A hold on a collection of a known record type. -/
structure Handle (C : Catalog) (tag : C.Tag) where
  place : Nat
deriving DecidableEq

namespace Shelf

variable {C : Catalog}

def collection? (shelf : Shelf C) (tag : C.Tag) : Option (Collection (C.Row tag)) :=
  if h : shelf.tag = tag then some (h ▸ shelf.collection) else none

/-- Whether the collection on a shelf is listed under a name. -/
def isListed (shelf : Shelf C) (name : String) : Bool :=
  shelf.listed && shelf.collection.name == name

end Shelf

namespace Database

variable {C : Catalog}

instance : Reports (Database C) := ⟨fun event db => { db with journal := db.journal.push event }⟩

/-! ### Collections by handle -/

/-- The collection that a handle holds. One that no handle was made for is empty. -/
def collection (db : Database C) {tag : C.Tag} (handle : Handle C tag) :
    Collection (C.Row tag) :=
  (db.shelves[handle.place]?.bind fun shelf => shelf.collection? tag).getD { name := "" }

def store (db : Database C) {tag : C.Tag} (handle : Handle C tag)
    (collection : Collection (C.Row tag)) : Database C :=
  { db with shelves := db.shelves.modify handle.place fun shelf =>
      if shelf.tag = tag then { tag, collection, listed := shelf.listed } else shelf }

def next (db : Database C) {tag : C.Tag} (handle : Handle C tag) (cursor : Cursor) :
    Option (C.Row tag) × Cursor :=
  cursor.next (db.collection handle)

/-! ### Collections by name -/

def place? (db : Database C) (name : String) : Option Nat :=
  db.shelves.findIdx? fun shelf => shelf.isListed name

def shelf? (db : Database C) (name : String) : Option (Shelf C) :=
  (db.place? name).bind fun place => db.shelves[place]?

def has (db : Database C) (name : String) : Bool := (db.shelf? name).isSome

/-- The names of all listed collections in ascending order. -/
def names (db : Database C) : List String :=
  Text.sorted ((db.shelves.filter (·.listed)).map (·.collection.name))

/-- The number of records under a name, whatever their type. -/
def count (db : Database C) (name : String) : Except StoreError Nat :=
  match db.shelf? name with
  | some shelf => .ok shelf.collection.count
  | none => .error (.collectionNotFound name)

/-- The hold on the collection listed under a name, if its records are of the given type. -/
def openCollection (db : Database C) (tag : C.Tag) (name : String) :
    Except StoreError (Handle C tag) :=
  match db.place? name, db.shelf? name with
  | some place, some shelf =>
    if shelf.tag = tag then .ok ⟨place⟩
    else
      .error (.collectionTypeMismatch name (C.typeName tag) (C.typeName shelf.tag))
  | _, _ => .error (.collectionNotFound name)

/-- Opens the collection listed under a name, after creating it if there is none. -/
def create (db : Database C) (tag : C.Tag) (name : String) :
    Except StoreError (Handle C tag) × Database C :=
  if db.has name then (db.openCollection tag name, db)
  else
    let shelves := db.shelves ++ [{ tag, collection := { name } }]
    (.ok ⟨db.shelves.length⟩,
      Reports.report (.created name (C.typeName tag)) { db with shelves })

/-- Takes the collection listed under a name off the list. Answers whether there was one. -/
def drop (db : Database C) (name : String) : Bool × Database C :=
  match db.place? name with
  | none => (false, db)
  | some place =>
    let shelves := db.shelves.modify place fun shelf => { shelf with listed := false }
    (true, Reports.report (.dropped name) { db with shelves })

/-! ### Records by the name of their collection -/

def save (db : Database C) (tag : C.Tag) (name : String) (record : C.Row tag) :
    Except StoreError (C.Row tag) × Database C :=
  match db.openCollection tag name with
  | .error error => (.error error, db)
  | .ok handle => (.ok record, db.store handle ((db.collection handle).add record))

/-- Removes the first record that equals the given one. Answers whether there was one. -/
def remove (db : Database C) (tag : C.Tag) (name : String) (record : C.Row tag) :
    Except StoreError Bool × Database C :=
  match db.openCollection tag name with
  | .error error => (.error error, db)
  | .ok handle =>
    let found := db.collection handle
    (.ok (found.contains record), db.store handle (found.remove record))

/-- Removes every record that equals one of the given ones. Answers how many there were. -/
def removeAll (db : Database C) (tag : C.Tag) (name : String) (targets : List (C.Row tag)) :
    Except StoreError Nat × Database C :=
  match db.openCollection tag name with
  | .error error => (.error error, db)
  | .ok handle =>
    let found := db.collection handle
    let rest := found.removeAll targets
    (.ok (found.count - rest.count), db.store handle rest)

def findAll (db : Database C) (tag : C.Tag) (name : String) :
    Except StoreError (List (C.Row tag)) :=
  (db.openCollection tag name).map fun handle => (db.collection handle).records

def describe (db : Database C) : String :=
  "Database \x7b config: " ++ db.config.describe ++ ", collections: " ++
    Text.quoteList db.names ++ " \x7d"

end Database

end RecordStore
