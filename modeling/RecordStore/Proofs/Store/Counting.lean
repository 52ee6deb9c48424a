import RecordStore.Proofs.Store.Coherence

/-!
# Counting through a repository

A repository lists the records of its collection by opening the name with its own record type. It
counts them under the name alone, whatever their type. The two go together as long as the name leads
nowhere, or to records of that type, which is so from the moment the repository is opened until its
name is dropped. If the name is then given to records of another type, the repository refuses to list
them, but it still counts them.
-/

namespace RecordStore

variable {C : Catalog}

namespace Database

variable {db : Database C} {tag : C.Tag} {name : String} {shelf : Shelf C}

theorem count_of_shelf? (h : db.shelf? name = some shelf) :
    db.count name = .ok shelf.collection.records.length := by
  rw [count, h]
  rfl

theorem openCollection_of_shelf?_eq_none (h : db.shelf? name = none) (tag : C.Tag) :
    db.openCollection tag name = .error (.collectionNotFound name) := by
  rw [openCollection, h]
  split
  · rename_i hshelf
    cases hshelf
  · rfl

theorem openCollection_of_tag_ne (h : db.shelf? name = some shelf) (htag : shelf.tag ≠ tag) :
    db.openCollection tag name =
      .error (.collectionTypeMismatch name (C.typeName tag) (C.typeName shelf.tag)) := by
  obtain ⟨place, hplace, -⟩ := Option.bind_eq_some_iff.1 h
  rw [openCollection, h, hplace]
  exact if_neg htag

theorem exists_openCollection {collection : Collection (C.Row tag)} {listed : Bool}
    (h : db.shelf? name = some ⟨tag, collection, listed⟩) :
    ∃ handle, db.openCollection tag name = .ok handle ∧ db.collection handle = collection := by
  obtain ⟨place, hplace, hshelf⟩ := Option.bind_eq_some_iff.1 h
  have hopen : db.openCollection tag name = .ok ⟨place⟩ := by
    apply openCollection_eq_ok_iff.2
    exact ⟨hplace, by rw [hshelf, Option.map_some]⟩
  exact ⟨⟨place⟩, hopen, collection_of_getElem? hshelf⟩

theorem exists_openCollection_of_openNamed {r : Repository C tag}
    (h : (Repository.openNamed db tag name).1 = .ok r) :
    r.name = name ∧
      ∃ handle, (Repository.openNamed db tag name).2.openCollection tag name = .ok handle := by
  rw [Repository.openNamed] at h ⊢
  split at h
  · rename_i hmissing
    rw [if_pos hmissing]
    cases hcreated : (db.create tag name).1 with
    | error cause =>
      dsimp only at h
      rw [hcreated] at h
      cases h
    | ok handle =>
      dsimp only at h
      rw [hcreated] at h
      obtain rfl := Except.ok.inj h
      exact ⟨rfl, handle, openCollection_create hcreated⟩
  · rename_i hmissing
    rw [if_neg hmissing]
    cases hopened : db.openCollection tag name with
    | error cause =>
      rw [hopened] at h
      cases h
    | ok handle =>
      rw [hopened] at h
      obtain rfl := Except.ok.inj h
      exact ⟨rfl, handle, rfl⟩

end Database

namespace Repository

variable {db : Database C} {tag : C.Tag} {r : Repository C tag} {shelf : Shelf C}

/-- A repository counts as many records as it lists, and fails to count where it fails to list. -/
def CountsAsListed (r : Repository C tag) (db : Database C) : Prop :=
  r.count db = (r.findAll db).map List.length

theorem counts_of_shelf?_eq_none (h : db.shelf? r.name = none) :
    r.findAll db = .error (.collectionNotFound r.name) ∧
      r.count db = .error (.collectionNotFound r.name) := by
  rw [findAll, Database.findAll, Database.openCollection_of_shelf?_eq_none h, count, Database.count, h]
  exact ⟨rfl, rfl⟩

theorem counts_of_shelf? {collection : Collection (C.Row tag)} {listed : Bool}
    (h : db.shelf? r.name = some ⟨tag, collection, listed⟩) :
    r.findAll db = .ok collection.records ∧ r.count db = .ok collection.records.length := by
  obtain ⟨handle, hopen, rfl⟩ := Database.exists_openCollection h
  rw [findAll, Database.findAll, hopen]
  exact ⟨rfl, Database.count_of_shelf? h⟩

theorem counts_of_tag_ne (h : db.shelf? r.name = some shelf) (htag : shelf.tag ≠ tag) :
    r.findAll db =
        .error (.collectionTypeMismatch r.name (C.typeName tag) (C.typeName shelf.tag)) ∧
      r.count db = .ok shelf.collection.records.length := by
  rw [findAll, Database.findAll, Database.openCollection_of_tag_ne h htag]
  exact ⟨rfl, Database.count_of_shelf? h⟩

theorem countsAsListed_iff :
    r.CountsAsListed db ↔ ∀ shelf, db.shelf? r.name = some shelf → shelf.tag = tag := by
  rw [CountsAsListed]
  constructor
  · intro hcounts shelf hshelf
    apply Decidable.by_contra
    intro htag
    obtain ⟨hlisted, hcounted⟩ := counts_of_tag_ne hshelf htag
    rw [hlisted, hcounted] at hcounts
    cases hcounts
  · intro htag
    cases hshelf : db.shelf? r.name with
    | none =>
      obtain ⟨hlisted, hcounted⟩ := counts_of_shelf?_eq_none hshelf
      rw [hlisted, hcounted]
      rfl
    | some shelf =>
      obtain rfl := htag shelf hshelf
      obtain ⟨hlisted, hcounted⟩ := counts_of_shelf? hshelf
      rw [hlisted, hcounted]
      rfl

/-- What a repository lists and counts, at any moment after it has been opened. Where its name leads
nowhere it does neither, for the same reason. Where the name leads to records of its type it lists
and counts them. Where the name leads to records of another type it counts them, though it refuses to
list them, and only there the two differ. It does not come to that before the name is dropped. -/
theorem countsAsListed_after (config : Config) (past : List (Operation C)) (tag : C.Tag)
    (name : String) {r : Repository C tag}
    (hopen : (openNamed (({ config } : Database C).after past) tag name).1 = .ok r)
    (later : List (Operation C)) :
    let now := (openNamed (({ config } : Database C).after past) tag name).2.after later
    (now.shelf? r.name = none →
        r.findAll now = .error (.collectionNotFound r.name) ∧
          r.count now = .error (.collectionNotFound r.name)) ∧
      (∀ collection listed, now.shelf? r.name = some ⟨tag, collection, listed⟩ →
        r.findAll now = .ok collection.records ∧
          r.count now = .ok collection.records.length) ∧
      (∀ shelf, now.shelf? r.name = some shelf → shelf.tag ≠ tag →
        r.findAll now =
            .error (.collectionTypeMismatch r.name (C.typeName tag) (C.typeName shelf.tag)) ∧
          r.count now = .ok shelf.collection.records.length) ∧
      (r.CountsAsListed now ↔ ∀ shelf, now.shelf? r.name = some shelf → shelf.tag = tag) ∧
      ((∀ operation ∈ later, Change.drop r.name ∉ operation.changes) → r.CountsAsListed now) := by
  intro now
  refine ⟨counts_of_shelf?_eq_none, fun _ _ h => counts_of_shelf? h,
    fun _ h htag => counts_of_tag_ne h htag, countsAsListed_iff, fun hdrop => ?_⟩
  obtain ⟨rfl, handle, hopened⟩ := Database.exists_openCollection_of_openNamed hopen
  obtain ⟨hplace, htag⟩ := Database.openCollection_eq_ok_iff.1 hopened
  have hnow : now.openCollection tag r.name = .ok handle :=
    Database.openCollection_eq_ok_iff.2
      ⟨Database.place?_after hplace hdrop, Database.tag_after htag later⟩
  apply countsAsListed_iff.2
  intro shelf hshelf
  rw [Database.shelf?_of_openCollection hnow] at hshelf
  rw [← Option.some.inj hshelf]

/-- A repository of cats while its name is theirs, while it is nobody's and once it is given to dogs.
-/
theorem countsAsListed_after_pets :
    let past : List (Operation Catalog.pets) := [.database (.create .dog "dens")]
    let opened := openNamed (({} : Database Catalog.pets).after past) .cat "pets"
    let r : Repository Catalog.pets .cat := ⟨"pets"⟩
    let kept : List (Operation Catalog.pets) :=
      [.repository .cat r (.save "tom"), .database (.drop "dens"), .repository .cat r (.save "kit")]
    let gone := kept ++ [.database (.drop "pets")]
    let taken := gone ++ [.database (.create .dog "pets"), .database (.save .dog "pets" "rex")]
    opened.1 = .ok r ∧
      r.CountsAsListed (opened.2.after kept) ∧
      r.findAll (opened.2.after kept) = .ok ["tom", "kit"] ∧
      r.count (opened.2.after kept) = .ok 2 ∧
      r.findAll (opened.2.after gone) = .error (.collectionNotFound "pets") ∧
      r.count (opened.2.after gone) = .error (.collectionNotFound "pets") ∧
      r.findAll (opened.2.after taken) = .error (.collectionTypeMismatch "pets" "Cat" "Dog") ∧
      r.count (opened.2.after taken) = .ok 1 := by
  intro past opened r kept gone taken
  have hopen : opened.1 = .ok r := rfl
  obtain ⟨-, hlists, -, -, hkept⟩ := countsAsListed_after {} past .cat "pets" hopen kept
  obtain ⟨hnowhere, -⟩ := countsAsListed_after {} past .cat "pets" hopen gone
  obtain ⟨-, -, hothers, -⟩ := countsAsListed_after {} past .cat "pets" hopen taken
  have hcats : (opened.2.after kept).openCollection .cat "pets" = .ok ⟨1⟩ :=
    Database.openCollection_eq_ok_iff.2 (by decide +kernel)
  have hnone : (opened.2.after gone).place? "pets" = none := by decide +kernel
  have hdogs : (opened.2.after taken).openCollection .dog "pets" = .ok ⟨2⟩ :=
    Database.openCollection_eq_ok_iff.2 (by decide +kernel)
  have htwo : ((opened.2.after kept).collection (⟨1⟩ : Handle Catalog.pets .cat)).records =
      ["tom", "kit"] := by decide +kernel
  have hone : ((opened.2.after taken).collection (⟨2⟩ : Handle Catalog.pets .dog)).records =
      ["rex"] := by decide +kernel
  obtain ⟨hlisted, hcounted⟩ := hlists _ _ (Database.shelf?_of_openCollection hcats)
  obtain ⟨hunlisted, huncounted⟩ := hnowhere (by rw [Database.shelf?, hnone, Option.bind_none])
  obtain ⟨hrefused, hstill⟩ := hothers _ (Database.shelf?_of_openCollection hdogs) (by decide)
  rw [htwo] at hlisted hcounted
  dsimp only at hstill
  rw [hone] at hstill
  refine ⟨hopen, hkept ?_, hlisted, hcounted, hunlisted, huncounted, hrefused, hstill⟩
  simp [kept, r, Operation.changes, RepositoryRequest.changes, Request.changes]

/-- A repository of cats counts the dogs that have been given its name, and refuses to list them. -/
theorem not_countsAsListed_dogs :
    let opened := openNamed ({} : Database Catalog.pets) .cat "pets"
    let now := opened.2.after
      [.database (.drop "pets"), .database (.create .dog "pets"),
        .database (.save .dog "pets" "rex")]
    let r : Repository Catalog.pets .cat := ⟨"pets"⟩
    opened.1 = .ok r ∧
      r.findAll now = .error (.collectionTypeMismatch "pets" "Cat" "Dog") ∧
      r.count now = .ok 1 ∧
      ¬ r.CountsAsListed now := by
  intro opened now r
  have hlisted : r.findAll now = .error (.collectionTypeMismatch "pets" "Cat" "Dog") := rfl
  have hcounted : r.count now = .ok 1 := rfl
  refine ⟨rfl, hlisted, hcounted, fun hcounts => ?_⟩
  rw [CountsAsListed, hlisted, hcounted] at hcounts
  cases hcounts

end Repository

end RecordStore
