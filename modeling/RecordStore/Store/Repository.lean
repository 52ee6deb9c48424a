import RecordStore.Finder.Basic
import RecordStore.Program.Rendering
import RecordStore.Store.Query

/-!
# Repositories

A repository stands for the collection of one name, with records of one type. It holds on to the
name, so that it follows the collection through dropping and creation, and it can be asked in finder
names.
-/

namespace RecordStore

/-- The collection of a name, seen as holding records of one type. -/
structure Repository (C : Catalog) (tag : C.Tag) where
  name : String
deriving DecidableEq

/-- What a finder found: all matches, or the first one if there is any. -/
inductive Found (ρ : Type)
  | many (records : List ρ)
  | one (record : Option ρ)

namespace Found

variable {ρ : Type}

def toList : Found ρ → List ρ
  | many records => records
  | one record => record.toList

def first? : Found ρ → Option ρ
  | many records => records.head?
  | one record => record

def length : Found ρ → Nat
  | many records => records.length
  | one record => if record.isSome then 1 else 0

def isEmpty (found : Found ρ) : Bool := found.length == 0

end Found

namespace Repository

variable {C : Catalog} {tag : C.Tag}

/-- Opens a repository, creating its collection first if the configuration says so. -/
def openNamed (db : Database C) (tag : C.Tag) (name : String) :
    Except StoreError (Repository C tag) × Database C :=
  if db.config.createMissing then
    let opened := db.create tag name
    (opened.1.map fun _ => ⟨name⟩, opened.2)
  else ((db.openCollection tag name).map fun _ => ⟨name⟩, db)

def count (r : Repository C tag) (db : Database C) : Except StoreError Nat := db.count r.name

def findAll (r : Repository C tag) (db : Database C) : Except StoreError (List (C.Row tag)) :=
  db.findAll tag r.name

/-- The program without steps for the collection. -/
def query (r : Repository C tag) : Program := .on r.name

def save (r : Repository C tag) (db : Database C) (record : C.Row tag) :
    Except StoreError (C.Row tag) × Database C :=
  db.save tag r.name record

def remove (r : Repository C tag) (db : Database C) (record : C.Row tag) :
    Except StoreError Bool × Database C :=
  db.remove tag r.name record

def removeAll (r : Repository C tag) (db : Database C) (targets : List (C.Row tag)) :
    Except StoreError Nat × Database C :=
  db.removeAll tag r.name targets

/-- The records of the collection that match a program, whatever its target. -/
def find (r : Repository C tag) (db : Database C) (program : Program) :
    Except StoreError (List (C.Row tag)) × Database C :=
  db.find tag (program.withCollection r.name)

def findOne (r : Repository C tag) (db : Database C) (program : Program) :
    Except StoreError (Option (C.Row tag)) × Database C :=
  db.findOne tag (program.withCollection r.name)

def call (r : Repository C tag) (db : Database C) (name : String) (arguments : List Operand) :
    Except StoreError (Found (C.Row tag)) × Database C :=
  match Finder.read r.name name with
  | .error fault => (.error (.invalidQuery fault), db)
  | .ok finder =>
    match finder.bind arguments with
    | .error error => (.error (.ofBindError error), db)
    | .ok program =>
      match finder.multiplicity with
      | .one =>
        let found := db.findOne tag program
        (found.1.map Found.one, found.2)
      | .many =>
        let found := db.find tag program
        (found.1.map Found.many, found.2)

def describe (r : Repository C tag) : String :=
  "Repository \x7b name: " ++ Text.quote r.name ++ ", record: " ++
    Text.quote (C.typeName tag) ++ " \x7d"

end Repository

end RecordStore
