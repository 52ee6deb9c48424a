import RecordStore.Proofs.Store.Distinct

/-!
# Refused requests and questions

A request that is refused has not begun to change anything: it looks for its collection, or reads its
finder, before it writes, and creating a collection is refused only where there is one. A request
that merely asks changes nothing either, even if it scans a collection and stops at a record that
cannot be evaluated. In both cases all collections stay where they are, with the type, the name, the
records and the listing that they have, whether they can still be found by name or are held through a
handle alone.
-/

namespace RecordStore

variable {C : Catalog}

/-- Whether a request merely asks. -/
def Request.reads : Request C → Bool
  | create _ _ | drop _ | openRepository _ _ | save _ _ _ | remove _ _ _ | removeAll _ _ _ => false
  | config | describe | names | has _ | count _ | openCollection _ _ | findAll _ _ | find _ _
  | findOne _ _ | findWith _ _ _ | findOneWith _ _ _ => true

def CollectionRequest.reads {ρ : Type} : CollectionRequest ρ → Bool
  | add _ | remove _ | removeAll _ => false
  | name | count | isEmpty | describe | get _ | snapshot | contains _ => true

def RepositoryRequest.reads {ρ : Type} : RepositoryRequest ρ → Bool
  | save _ | remove _ | removeAll _ => false
  | name | count | names | collection | query | describe | findAll | find _ | findOne _
  | call _ _ => true

/-! ### Questions -/

theorem Request.changes_of_reads {request : Request C} (h : request.reads = true) :
    request.changes = [] := by
  cases request with
  | create | drop | openRepository | save | remove | removeAll => cases h
  | config | describe | names | has | count | openCollection | findAll | find | findOne | findWith
  | findOneWith => rfl

theorem CollectionRequest.changes_of_reads {tag : C.Tag} (handle : Handle C tag)
    {request : CollectionRequest (C.Row tag)} (h : request.reads = true) :
    request.changes handle = [] := by
  cases request with
  | add | remove | removeAll => cases h
  | name | count | isEmpty | describe | get | snapshot | contains => rfl

theorem RepositoryRequest.changes_of_reads {tag : C.Tag} (r : Repository C tag)
    {request : RepositoryRequest (C.Row tag)} (h : request.reads = true) :
    request.changes r = [] := by
  cases request with
  | save | remove | removeAll => cases h
  | name | count | names | collection | query | describe | findAll | find | findOne | call => rfl

theorem Request.shelves_of_reads {request : Request C} (h : request.reads = true)
    (db : Database C) : (request.run db).2.shelves = db.shelves := by
  have hnone : ∀ change ∈ request.changes, (db.change change).shelves = db.shelves := by
    rw [changes_of_reads h]
    exact fun _ hmem => by cases hmem
  exact request.run_keeps (Q := fun now => now.shelves = db.shelves) (fun _ _ h => h) hnone rfl

theorem CollectionRequest.shelves_of_reads {tag : C.Tag} {request : CollectionRequest (C.Row tag)}
    (h : request.reads = true) (db : Database C) (handle : Handle C tag) :
    (CollectionRequest.run db handle request).2.shelves = db.shelves := by
  have hnone : ∀ change ∈ request.changes handle, (db.change change).shelves = db.shelves := by
    rw [changes_of_reads handle h]
    exact fun _ hmem => by cases hmem
  exact request.run_keeps (Q := fun now => now.shelves = db.shelves) handle hnone rfl

theorem RepositoryRequest.shelves_of_reads {tag : C.Tag} {request : RepositoryRequest (C.Row tag)}
    (h : request.reads = true) (db : Database C) (r : Repository C tag) :
    (RepositoryRequest.run db r request).2.shelves = db.shelves := by
  have hnone : ∀ change ∈ request.changes r, (db.change change).shelves = db.shelves := by
    rw [changes_of_reads r h]
    exact fun _ hmem => by cases hmem
  exact request.run_keeps (Q := fun now => now.shelves = db.shelves) (fun _ _ h => h) r hnone rfl

/-! ### Refusals -/

theorem error_of_answerWith {α : Type} {form : α → Answer C}
    {outcome : Except StoreError α × Database C} {error : StoreError}
    (h : (answerWith form outcome).1 = .error error) : outcome.1 = .error error := by
  rcases outcome with ⟨result, after⟩
  cases result with
  | error cause => exact congrArg Except.error (Except.error.inj h)
  | ok answer => cases h

namespace Database

variable {db : Database C} {tag : C.Tag} {name : String} {error : StoreError}

theorem create_of_error (h : (db.create tag name).1 = .error error) :
    (db.create tag name).2 = db := by
  rw [create] at h ⊢
  split at h
  · rename_i hhas
    rw [if_pos hhas]
  · cases h

/-- Whatever is done to the records of an opened collection is done without fail. -/
theorem unchanged_of_error {α : Type} {opened : Except StoreError (Handle C tag)}
    {answer : Handle C tag → α} {next : Handle C tag → Database C} :
    let outcome : Except StoreError α × Database C :=
      match opened with
      | .error cause => (.error cause, db)
      | .ok handle => (.ok (answer handle), next handle)
    outcome.1 = .error error → outcome.2 = db := by
  intro outcome h
  cases opened with
  | error cause => rfl
  | ok handle => cases h

theorem save_of_error {record : C.Row tag} (h : (db.save tag name record).1 = .error error) :
    (db.save tag name record).2 = db :=
  unchanged_of_error h

theorem remove_of_error {record : C.Row tag} (h : (db.remove tag name record).1 = .error error) :
    (db.remove tag name record).2 = db :=
  unchanged_of_error h

theorem removeAll_of_error {targets : List (C.Row tag)}
    (h : (db.removeAll tag name targets).1 = .error error) :
    (db.removeAll tag name targets).2 = db :=
  unchanged_of_error h

theorem openNamed_of_error (h : (Repository.openNamed db tag name).1 = .error error) :
    (Repository.openNamed db tag name).2 = db := by
  rw [Repository.openNamed] at h ⊢
  split at h
  · rename_i hmissing
    rw [if_pos hmissing]
    cases hcreated : (db.create tag name).1 with
    | error cause => exact create_of_error hcreated
    | ok handle =>
      dsimp only at h
      rw [hcreated] at h
      cases h
  · rename_i hmissing
    rw [if_neg hmissing]

end Database

theorem Request.shelves_of_error {request : Request C} {db : Database C} {error : StoreError}
    (h : (request.run db).1 = .error error) : (request.run db).2.shelves = db.shelves := by
  cases request with
  | create tag name => exact congrArg _ (Database.create_of_error (error_of_answerWith h))
  | drop name => cases h
  | openRepository tag name => exact congrArg _ (Database.openNamed_of_error (error_of_answerWith h))
  | save tag name record => exact congrArg _ (Database.save_of_error (error_of_answerWith h))
  | remove tag name record => exact congrArg _ (Database.remove_of_error (error_of_answerWith h))
  | removeAll tag name records =>
    exact congrArg _ (Database.removeAll_of_error (error_of_answerWith h))
  | config | describe | names | has | count | openCollection | findAll | find | findOne | findWith
  | findOneWith => exact shelves_of_reads rfl db

theorem RepositoryRequest.shelves_of_error {tag : C.Tag} {r : Repository C tag}
    {request : RepositoryRequest (C.Row tag)} {db : Database C} {error : StoreError}
    (h : (RepositoryRequest.run db r request).1 = .error error) :
    (RepositoryRequest.run db r request).2.shelves = db.shelves := by
  cases request with
  | save record => exact congrArg _ (Database.save_of_error (error_of_answerWith h))
  | remove record => exact congrArg _ (Database.remove_of_error (error_of_answerWith h))
  | removeAll records => exact congrArg _ (Database.removeAll_of_error (error_of_answerWith h))
  | name | count | names | collection | query | describe | findAll | find | findOne | call =>
    exact shelves_of_reads rfl db r

/-- Whatever the state of the database, a request that is refused and one that merely asks leave the
shelves as they were, and with them every collection, its name, its type, its records and whether it
is listed. It makes no difference whether the request is one to the database or to a repository, or
is a query whose fields come from an arbitrary resolver. -/
theorem Database.shelves_of_error_or_reads (db : Database C) :
    (∀ request : Request C,
        (∃ error, (request.run db).1 = .error error) ∨ request.reads = true →
          (request.run db).2.shelves = db.shelves) ∧
      (∀ (tag : C.Tag) (r : Repository C tag) (request : RepositoryRequest (C.Row tag)),
        (∃ error, (RepositoryRequest.run db r request).1 = .error error) ∨ request.reads = true →
          (RepositoryRequest.run db r request).2.shelves = db.shelves) ∧
      (∀ (tag : C.Tag) (handle : Handle C tag) (request : CollectionRequest (C.Row tag)),
        request.reads = true → (CollectionRequest.run db handle request).2.shelves = db.shelves) ∧
      ∀ (tag : C.Tag) (resolve : C.Row tag → Fields) (program : Program),
        (db.findWith tag resolve program).2.shelves = db.shelves ∧
          (db.findOneWith tag resolve program).2.shelves = db.shelves := by
  refine ⟨?_, ?_, ?_, ?_⟩
  · rintro request (⟨error, herror⟩ | hreads)
    · exact Request.shelves_of_error herror
    · exact Request.shelves_of_reads hreads db
  · rintro tag r request (⟨error, herror⟩ | hreads)
    · exact RepositoryRequest.shelves_of_error herror
    · exact RepositoryRequest.shelves_of_reads hreads db r
  · intro tag handle request hreads
    exact CollectionRequest.shelves_of_reads hreads db handle
  · intro tag resolve program
    have hfind : ∀ program, (db.findWith tag resolve program).2.shelves = db.shelves :=
      fun program => findWith_keeps (Q := fun now => now.shelves = db.shelves) (fun _ _ h => h) tag
        resolve program rfl
    exact ⟨hfind program, hfind (program.limitTo 1)⟩

inductive Species
  | cat
  | dog
deriving DecidableEq

@[reducible] def Catalog.pets : Catalog where
  Tag := Species
  Row _ := String
  typeName
    | .cat => "Cat"
    | .dog => "Dog"
  value? _ pet name := if name = "name" then some (.string pet) else none

/-- A record of another type is refused, a query fails at a record without the field, and a finder
that is asked finds something: the listed collection and the dropped one stay as they are. -/
theorem Database.shelves_of_error_or_reads_pets :
    let db : Database Catalog.pets :=
      { shelves :=
          [{ tag := .dog, collection := { name := "pets", records := ["rex"] }, listed := false },
            { tag := .cat, collection := { name := "pets", records := ["tom", "kit"] } }] }
    let save : Request Catalog.pets := .save .dog "pets" "rex"
    let find : Request Catalog.pets :=
      .find .cat ((Program.on "pets").compareField "age" .eq (.string "old"))
    let call : RepositoryRequest String := .call "findByName" [.string "kit"]
    let r : Repository Catalog.pets .cat := ⟨"pets"⟩
    (save.run db).1 = .error (.collectionTypeMismatch "pets" "Dog" "Cat") ∧
      (save.run db).2.shelves = db.shelves ∧
      (find.run db).1 = .error (.scan ⟨0, .fieldNotFound "Cat" "age"⟩) ∧
      (find.run db).2.shelves = db.shelves ∧
      (RepositoryRequest.run db r call).1 = .ok (.found .cat (.many ["kit"])) ∧
      (RepositoryRequest.run db r call).2.shelves = db.shelves := by
  intro db save find call r
  obtain ⟨hrequest, hrepository, -, -⟩ := db.shelves_of_error_or_reads
  have hrefused : (save.run db).1 = .error (.collectionTypeMismatch "pets" "Dog" "Cat") := rfl
  have haborted : (find.run db).1 = .error (.scan ⟨0, .fieldNotFound "Cat" "age"⟩) := rfl
  refine ⟨hrefused, ?_, haborted, ?_, rfl, ?_⟩
  · exact hrequest save (.inl ⟨_, hrefused⟩)
  · exact hrequest find (.inl ⟨_, haborted⟩)
  · exact hrepository .cat r call (.inr rfl)

end RecordStore
