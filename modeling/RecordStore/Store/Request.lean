import RecordStore.Store.Repository

/-!
# Requests

Everything that can be asked of a database, as data: requests to the database itself, to a
collection that is held by a handle, and to a repository. A request is answered by a database, which
may change, or fails. A history of requests is answered one by one, whether or not the ones before
succeeded.
-/

namespace RecordStore

inductive Request (C : Catalog)
  | config
  | describe
  | names
  | has (name : String)
  | count (name : String)
  | create (tag : C.Tag) (name : String)
  | drop (name : String)
  | openCollection (tag : C.Tag) (name : String)
  | openRepository (tag : C.Tag) (name : String)
  | save (tag : C.Tag) (name : String) (record : C.Row tag)
  | remove (tag : C.Tag) (name : String) (record : C.Row tag)
  | removeAll (tag : C.Tag) (name : String) (records : List (C.Row tag))
  | findAll (tag : C.Tag) (name : String)
  | find (tag : C.Tag) (program : Program)
  | findOne (tag : C.Tag) (program : Program)
  | findWith (tag : C.Tag) (schema : Schema (C.Row tag)) (program : Program)
  | findOneWith (tag : C.Tag) (schema : Schema (C.Row tag)) (program : Program)

/-- A request to a collection that is held by a handle. -/
inductive CollectionRequest (ρ : Type)
  | name
  | count
  | isEmpty
  | describe
  | get (position : Nat)
  | snapshot
  | contains (record : ρ)
  | add (record : ρ)
  | remove (record : ρ)
  | removeAll (records : List ρ)

inductive RepositoryRequest (ρ : Type)
  | name
  | count
  | names
  | collection
  | query
  | describe
  | findAll
  | save (record : ρ)
  | remove (record : ρ)
  | removeAll (records : List ρ)
  | find (program : Program)
  | findOne (program : Program)
  | call (finder : String) (arguments : List Operand)

inductive Answer (C : Catalog)
  | config (config : Config)
  | text (text : String)
  | texts (texts : List String)
  | flag (flag : Bool)
  | count (n : Nat)
  | collection (tag : C.Tag) (handle : Handle C tag)
  | repository (tag : C.Tag) (repository : Repository C tag)
  | record (tag : C.Tag) (record : C.Row tag)
  | optional (tag : C.Tag) (record : Option (C.Row tag))
  | records (tag : C.Tag) (records : List (C.Row tag))
  | found (tag : C.Tag) (found : Found (C.Row tag))

variable {C : Catalog}

/-- Gives the outcome of an operation the form of an answer. -/
def answerWith {α : Type} (form : α → Answer C) (outcome : Except StoreError α × Database C) :
    Except StoreError (Answer C) × Database C :=
  (outcome.1.map form, outcome.2)

namespace Request

def run (db : Database C) : Request C → Except StoreError (Answer C) × Database C
  | config => (.ok (.config db.config), db)
  | describe => (.ok (.text db.describe), db)
  | names => (.ok (.texts db.names), db)
  | has name => (.ok (.flag (db.has name)), db)
  | count name => ((db.count name).map .count, db)
  | create tag name => answerWith (.collection tag) (db.create tag name)
  | drop name =>
    let dropped := db.drop name
    (.ok (.flag dropped.1), dropped.2)
  | openCollection tag name => ((db.openCollection tag name).map (.collection tag), db)
  | openRepository tag name => answerWith (.repository tag) (Repository.openNamed db tag name)
  | save tag name record => answerWith (.record tag) (db.save tag name record)
  | remove tag name record => answerWith .flag (db.remove tag name record)
  | removeAll tag name records => answerWith .count (db.removeAll tag name records)
  | findAll tag name => ((db.findAll tag name).map (.records tag), db)
  | find tag program => answerWith (.records tag) (db.find tag program)
  | findOne tag program => answerWith (.optional tag) (db.findOne tag program)
  | findWith tag schema program =>
    answerWith (.records tag) (db.findWith tag schema.fields program)
  | findOneWith tag schema program =>
    answerWith (.optional tag) (db.findOneWith tag schema.fields program)

end Request

namespace CollectionRequest

/-- Answers a request to the collection that a handle holds. It cannot fail. -/
def run (db : Database C) {tag : C.Tag} (handle : Handle C tag) :
    CollectionRequest (C.Row tag) → Answer C × Database C
  | name => (.text (db.collection handle).name, db)
  | count => (.count (db.collection handle).count, db)
  | isEmpty => (.flag (db.collection handle).isEmpty, db)
  | describe => (.text (db.collection handle).describe, db)
  | get position => (.optional tag ((db.collection handle).get? position), db)
  | snapshot => (.records tag (db.collection handle).records, db)
  | contains record => (.flag ((db.collection handle).contains record), db)
  | add record => (.record tag record, db.store handle ((db.collection handle).add record))
  | remove record =>
    let found := db.collection handle
    (.flag (found.contains record), db.store handle (found.remove record))
  | removeAll records =>
    let found := db.collection handle
    let rest := found.removeAll records
    (.count (found.count - rest.count), db.store handle rest)

end CollectionRequest

namespace RepositoryRequest

def run (db : Database C) {tag : C.Tag} (r : Repository C tag) :
    RepositoryRequest (C.Row tag) → Except StoreError (Answer C) × Database C
  | name => (.ok (.text r.name), db)
  | count => ((r.count db).map .count, db)
  | names => (.ok (.texts db.names), db)
  | collection =>
    ((db.openCollection tag r.name).map fun handle => .text (db.collection handle).describe, db)
  | query => (.ok (.text r.query.text), db)
  | describe => (.ok (.text r.describe), db)
  | findAll => ((r.findAll db).map (.records tag), db)
  | save record => answerWith (.record tag) (r.save db record)
  | remove record => answerWith .flag (r.remove db record)
  | removeAll records => answerWith .count (r.removeAll db records)
  | find program => answerWith (.records tag) (r.find db program)
  | findOne program => answerWith (.optional tag) (r.findOne db program)
  | call finder arguments => answerWith (.found tag) (r.call db finder arguments)

end RepositoryRequest

end RecordStore
