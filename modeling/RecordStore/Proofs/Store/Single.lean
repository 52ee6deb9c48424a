import RecordStore.Finder.Lemmas
import RecordStore.Program.Lemmas
import RecordStore.Proofs.Scan.Control
import RecordStore.Proofs.Scan.First
import RecordStore.Proofs.Store.Consistency
import RecordStore.Store.Repository

/-!
# Asking for one record

A query for one record runs its program with a limit of one at the end. Evaluating a record passes
over that step, and as the last of its kind it wins over every limit that the program has of its own,
over one of zero as well. The query therefore comes to the end of the scan for the first match.

Finders with the same criteria are read and bound in the same way, whatever their beginnings are.
They differ in how many records they answer with, and in the name that they quote when they are
refused.
-/

namespace RecordStore

/-! ### Limits at the end of a program -/

namespace Program

variable {σ ρ : Type}

theorem judge_limitTo (program : Program) (n : Nat) (lookup : Session.Lookup σ) :
    (program.limitTo n).judge lookup = program.judge lookup := by
  apply judge_of_effective
  rw [limitTo, append, steps_push, Step.effective, List.filter_append]
  exact List.append_nil _

theorem limit_limitTo (program : Program) {n : Nat} (hpos : 0 < n) (hlt : n < 2 ^ 64) :
    (program.limitTo n).limit = some n := by
  have hcap : (program.limitTo n).cap = some n := by
    rw [limitTo, append, cap_push, capOf_limit hlt, Option.some_or]
  rw [limit, hcap]
  simp [hpos]

theorem first_eq_execute_limitTo [Reports σ] (program : Program) (lookup : ρ → Session.Lookup σ)
    (records : List ρ) (state : σ) :
    program.first lookup records state =
      let found := (program.limitTo 1).execute lookup records state
      (found.1.map List.head?, found.2) := by
  have hjudge : (fun record => (program.limitTo 1).judge (lookup record)) =
      fun record => program.judge (lookup record) := by
    funext record
    exact program.judge_limitTo 1 (lookup record)
  rw [first, execute, hjudge, program.limit_limitTo Nat.one_pos (by decide)]
  rfl

end Program

/-! ### Queries for one record -/

namespace Database

variable {C : Catalog} {tag : C.Tag}

/-- The first record that a program finds among those that it targets. -/
def firstWith (db : Database C) (tag : C.Tag) (resolve : C.Row tag → Fields) (program : Program) :
    Except StoreError (Option (C.Row tag)) × Database C :=
  match db.targeted tag program with
  | .error error => (.error error, db)
  | .ok records =>
    let found := program.first (fun record => (resolve record).lookup) records db
    (found.1.mapError .scan, found.2)

theorem findWith_eq_selectFixed (db : Database C) (resolve : C.Row tag → Fields)
    (program : Program) :
    db.findWith tag resolve program =
      selectFixed id tag program (fun record => (resolve record).lookup) db :=
  select_of_unwritten 0 (unwritten_lookup resolve program db)

theorem findOneWith_eq_firstWith (db : Database C) (resolve : C.Row tag → Fields)
    (program : Program) : db.findOneWith tag resolve program = db.firstWith tag resolve program := by
  have htargeted : (id db).targeted tag (program.limitTo 1) = db.targeted tag program := rfl
  rw [findOneWith, findWith_eq_selectFixed, selectFixed, firstWith, htargeted]
  cases db.targeted tag program with
  | error error => rfl
  | ok records =>
    dsimp only
    rw [Program.first_eq_execute_limitTo]
    generalize (program.limitTo 1).execute _ records db = outcome
    rcases outcome with ⟨found | error, after⟩ <;> rfl

theorem firstOf_findWith (db : Database C) (resolve : C.Row tag → Fields) (program : Program) :
    FirstOf (db.findOneWith tag resolve program).1 (db.findWith tag resolve program).1 := by
  rw [findOneWith_eq_firstWith, findWith_eq_selectFixed, selectFixed, firstWith, id_eq]
  cases db.targeted tag program with
  | error error => exact FirstOf.of_error error
  | ok records =>
    have hpure : ∀ record name (s : Database C),
        ((resolve record).lookup name s).1 = resolve record name := fun _ _ _ => rfl
    exact (program.firstOf_execute hpure records db db).mapError StoreError.scan

end Database

/-! ### Finders under another name -/

/-- The fault as it is put for a finder of the given name. -/
def QueryFault.requoted (name : String) : QueryFault → QueryFault
  | .noTarget => .noTarget
  | .badOpening _ => .badOpening name
  | .noCriteria _ => .noCriteria name
  | .danglingConnective _ word => .danglingConnective name word
  | .badLimit _ => .badLimit name
  | .tooFewArguments => .tooFewArguments

def StoreError.requoted (name : String) : StoreError → StoreError
  | .invalidQuery fault => .invalidQuery (fault.requoted name)
  | error => error

theorem Finder.bindParts_requoted (name other : String) (parts : List FinderPart)
    (arguments : List Operand) :
    bindParts other parts arguments =
      (bindParts name parts arguments).mapError (QueryFault.requoted other) := by
  have hmap : ∀ (outcome : Except QueryFault (List Step)) (f : List Step → List Step),
      (outcome.mapError (QueryFault.requoted other)).map f =
        (outcome.map f).mapError (QueryFault.requoted other) := by
    intro outcome f
    cases outcome <;> rfl
  induction parts generalizing arguments with
  | nil => rfl
  | cons part rest ih =>
    cases part with
    | connect connective => rw [bindParts, bindParts, ih, hmap]
    | negate => rw [bindParts, bindParts, ih, hmap]
    | compare test field =>
      cases arguments with
      | nil => rfl
      | cons argument arguments => rw [bindParts, bindParts, ih, hmap]
    | limit =>
      cases arguments with
      | nil => rfl
      | cons argument arguments =>
        rw [bindParts, bindParts]
        cases argument.count? with
        | none => rfl
        | some n => simp only [ih, hmap]

theorem Finder.bind_requoted (finder : Finder) (name : String) (multiplicity : Multiplicity)
    (arguments : List Operand) :
    (bind { finder with name, multiplicity } arguments).mapError StoreError.ofBindError =
      ((finder.bind arguments).mapError StoreError.ofBindError).mapError
        (StoreError.requoted name) := by
  have harity : arity { finder with name, multiplicity } = finder.arity := rfl
  rw [bind, bind, harity, bindParts_requoted finder.name name]
  by_cases hcount : arguments.length = finder.arity
  · have hnot : ¬ arguments.length ≠ finder.arity := fun hne => hne hcount
    rw [if_neg hnot, if_neg hnot]
    cases bindParts finder.name finder.parts arguments with
    | error fault => rfl
    | ok steps => rfl
  · rw [if_pos hcount, if_pos hcount]
    rfl

/-- As many of the records that match a program as a finder wants. -/
def Database.answer {C : Catalog} (db : Database C) (tag : C.Tag) (program : Program) :
    Finder.Multiplicity → Except StoreError (Found (C.Row tag)) × Database C
  | .one => ((db.findOne tag program).1.map Found.one, (db.findOne tag program).2)
  | .many => ((db.find tag program).1.map Found.many, (db.find tag program).2)

namespace Repository

variable {C : Catalog} {tag : C.Tag} {opening opening' criteria : List Char}
  {multiplicity multiplicity' : Finder.Multiplicity} {name name' : String}

def programOf (r : Repository C tag) (name : String) (arguments : List Operand) :
    Except StoreError Program :=
  match Finder.read r.name name with
  | .error fault => .error (.invalidQuery fault)
  | .ok finder => (finder.bind arguments).mapError StoreError.ofBindError

theorem call_eq (h : (opening, multiplicity) ∈ Finder.openings)
    (hname : name.toList = opening ++ criteria) (r : Repository C tag) (db : Database C)
    (arguments : List Operand) :
    r.call db name arguments =
      match r.programOf name arguments with
      | .error error => (.error error, db)
      | .ok program => db.answer tag program multiplicity := by
  rw [call, programOf, Finder.read_append h hname]
  by_cases hcriteria : criteria = []
  · rw [if_pos hcriteria]
  · rw [if_neg hcriteria]
    cases Finder.readParts {} (Finder.splitWords criteria) with
    | error word => rfl
    | ok parts =>
      dsimp only
      cases Finder.bind _ arguments with
      | error error => rfl
      | ok program => cases multiplicity <;> rfl

/-- The same criteria make the same program, or the same failure but for the name that it quotes. -/
theorem programOf_requoted (h : (opening, multiplicity) ∈ Finder.openings)
    (h' : (opening', multiplicity') ∈ Finder.openings) (hname : name.toList = opening ++ criteria)
    (hname' : name'.toList = opening' ++ criteria) (r : Repository C tag)
    (arguments : List Operand) :
    r.programOf name' arguments =
      (r.programOf name arguments).mapError (StoreError.requoted name') := by
  rw [programOf, programOf, Finder.read_append h hname, Finder.read_append h' hname']
  by_cases hcriteria : criteria = []
  · rw [if_pos hcriteria, if_pos hcriteria]
    rfl
  · rw [if_neg hcriteria, if_neg hcriteria]
    cases Finder.readParts {} (Finder.splitWords criteria) with
    | error word => rfl
    | ok parts =>
      exact Finder.bind_requoted ⟨r.name, name, multiplicity, parts⟩ name' multiplicity' arguments

end Repository

namespace Database

variable {C : Catalog}

/-- No failure of a query quotes the name of a finder. -/
theorem find_requoted (db : Database C) (tag : C.Tag) (program : Program) (name : String) :
    (db.find tag program).1.mapError (StoreError.requoted name) = (db.find tag program).1 := by
  rw [find, findWith_eq_selectFixed, selectFixed, id_eq]
  have htargeted : (db.targeted tag program).mapError (StoreError.requoted name) =
      db.targeted tag program := by
    rw [targeted]
    cases program.collection with
    | none => rfl
    | some collection =>
      simp only [findAll, openCollection]
      split
      · split <;> rfl
      · rfl
  generalize db.targeted tag program = target at htargeted ⊢
  cases target with
  | error error => exact htargeted
  | ok records =>
    dsimp only
    cases (program.execute _ records db).1 <;> rfl

theorem answer_many_requoted (db : Database C) (tag : C.Tag) (program : Program) (name : String) :
    (db.answer tag program .many).1.mapError (StoreError.requoted name) =
      (db.answer tag program .many).1 := by
  have hfind := db.find_requoted tag program name
  rw [answer]
  generalize (db.find tag program).1 = outcome at hfind ⊢
  cases outcome with
  | ok found => rfl
  | error error => exact congrArg (Except.map Found.many) hfind

theorem answer_one_of_many (db : Database C) (tag : C.Tag) (program : Program) :
    (∀ found, (db.answer tag program .many).1 = .ok (.many found) →
        (db.answer tag program .one).1 = .ok (.one found.head?)) ∧
      ∀ error, (db.answer tag program .one).1 = .error error →
        (db.answer tag program .many).1 = .error error := by
  obtain ⟨hhead, hfailure⟩ := db.firstOf_findWith (C.fields tag) program
  rw [answer, answer, find, findOne]
  generalize (db.findWith tag (C.fields tag) program).1 = many at hhead hfailure ⊢
  generalize (db.findOneWith tag (C.fields tag) program).1 = one at hhead hfailure ⊢
  constructor
  · intro found hfound
    cases many with
    | error error => cases hfound
    | ok all =>
      cases hfound
      rw [hhead found rfl]
      rfl
  · intro error herror
    cases one with
    | ok record => cases herror
    | error cause =>
      cases herror
      rw [hfailure _ rfl]
      rfl

end Database

namespace Repository

variable {C : Catalog} {tag : C.Tag}

theorem call_one_of_many (r : Repository C tag) (db : Database C) (criteria : String)
    (arguments : List Operand) :
    let answer := fun opening => r.call db (opening ++ criteria) arguments
    (∀ found, (answer "findBy").1 = .ok (.many found) →
        (answer "findOneBy").1 = .ok (.one found.head?)) ∧
      (∀ error, (answer "findOneBy").1 = .error error →
        (answer "findBy").1 = .error (error.requoted ("findBy" ++ criteria))) ∧
      answer "findAllBy" =
        ((answer "findBy").1.mapError (StoreError.requoted ("findAllBy" ++ criteria)),
          (answer "findBy").2) := by
  intro answer
  simp only [answer]
  have hby : ("findBy".toList, Finder.Multiplicity.many) ∈ Finder.openings := by decide
  have hone : ("findOneBy".toList, Finder.Multiplicity.one) ∈ Finder.openings := by decide
  have hall : ("findAllBy".toList, Finder.Multiplicity.many) ∈ Finder.openings := by decide
  have hname : ∀ opening : String, (opening ++ criteria).toList = opening.toList ++ criteria.toList :=
    fun opening => String.toList_append
  have hprogramOne := programOf_requoted hby hone (hname "findBy") (hname "findOneBy") r arguments
  have hprogramBy := programOf_requoted hone hby (hname "findOneBy") (hname "findBy") r arguments
  have hprogramAll := programOf_requoted hby hall (hname "findBy") (hname "findAllBy") r arguments
  rw [call_eq hby (hname "findBy"), call_eq hone (hname "findOneBy"),
    call_eq hall (hname "findAllBy"), hprogramOne, hprogramAll]
  rw [hprogramOne] at hprogramBy
  -- The three finders come to one program, or they are refused for one reason.
  cases hprogram : r.programOf ("findBy" ++ criteria) arguments with
  | error refusal =>
    rw [hprogram] at hprogramBy
    have hrefusal := Except.error.inj hprogramBy
    refine ⟨fun found hfound => (nomatch hfound), ?_, rfl⟩
    intro error herror
    cases herror
    exact congrArg Except.error hrefusal
  | ok program =>
    obtain ⟨hhead, hfailure⟩ := db.answer_one_of_many tag program
    have hrequoted := db.answer_many_requoted tag program
    refine ⟨hhead, ?_, ?_⟩
    · intro error herror
      have hmany := hfailure error herror
      have hsame := hrequoted ("findBy" ++ criteria)
      rw [hmany] at hsame
      exact hmany.trans hsame.symm
    · exact Prod.ext (hrequoted ("findAllBy" ++ criteria)).symm rfl

/-- Whoever asks for one record gets the first of those that the query for all of them finds, and a
failure only where that query fails in the same way. A finder for one record does what the finder for
many with the same criteria does, and the two finders for many differ in the name that they quote. -/
theorem one_agrees_with_many {σ ρ : Type} [Reports σ] (program : Program) {fields : ρ → Fields}
    {lookup : ρ → Session.Lookup σ}
    (hpure : ∀ record name s, (lookup record name s).1 = fields record name) (records : List ρ)
    (s t : σ) (db : Database C) (resolve : C.Row tag → Fields) (r : Repository C tag)
    (criteria : String) (arguments : List Operand) :
    let answer := fun opening => r.call db (opening ++ criteria) arguments
    FirstOf (program.first lookup records t).1 (program.execute lookup records s).1 ∧
      db.findOneWith tag resolve program = db.firstWith tag resolve program ∧
      db.findOne tag program = db.firstWith tag (C.fields tag) program ∧
      r.findOne db program =
        db.firstWith tag (C.fields tag) (program.withCollection r.name) ∧
      (∀ found, (answer "findBy").1 = .ok (.many found) →
        (answer "findOneBy").1 = .ok (.one found.head?)) ∧
      (∀ error, (answer "findOneBy").1 = .error error →
        (answer "findBy").1 = .error (error.requoted ("findBy" ++ criteria))) ∧
      answer "findAllBy" =
        ((answer "findBy").1.mapError (StoreError.requoted ("findAllBy" ++ criteria)),
          (answer "findBy").2) := by
  intro answer
  refine ⟨program.firstOf_execute hpure records s t, ?_, ?_, ?_, ?_⟩
  · exact db.findOneWith_eq_firstWith resolve program
  · exact db.findOneWith_eq_firstWith (C.fields tag) program
  · exact db.findOneWith_eq_firstWith (C.fields tag) (program.withCollection r.name)
  · exact r.call_one_of_many db criteria arguments

end Repository

/-- The catalog of tasks, of which nothing is kept but the value of one field. -/
@[reducible] def Catalog.tasks : Catalog where
  Tag := Unit
  Row _ := Value
  typeName _ := "Task"
  value? _ done name := if name = "done" then some done else none

/-- Neither a limit of zero nor one of its own keeps a query for one record from answering with the
first match, and the task that ends it with a failure ends the query for all of them as well. -/
theorem Repository.one_agrees_with_many_tasks :
    let tasks : List Value := [.bool false, .bool true, .bool true, .string "late"]
    let db : Database Catalog.tasks :=
      { shelves := [{ tag := (), collection := { name := "tasks", records := tasks } }] }
    let r : Repository Catalog.tasks () := ⟨"tasks"⟩
    let program := (((Program.on "tasks").compareField "done" .eq (.bool true)).limitTo 2).limitTo 0
    let lookup := fun task : Value => (Catalog.tasks.fields () task).lookup
    let one : Operand := .number (.ofCount 1)
    (program.execute lookup (tasks.take 3) (#[] : Array Event)).1 =
        .ok [.bool true, .bool true] ∧
      (program.first lookup (tasks.take 3) (#[] : Array Event)).1 = .ok (some (.bool true)) ∧
      (db.findOne () program).1 = .ok (some (.bool true)) ∧
      (r.call db "findByDoneLimit" [.bool true, one]).1 = .ok (.many [.bool true]) ∧
      (r.call db "findOneByDoneLimit" [.bool true, one]).1 = .ok (.one (some (.bool true))) ∧
      (r.call db "findOneByDone" [.string "never"]).1 =
        .error (.scan ⟨0, .typeMismatch "done" .exact .string .bool⟩) ∧
      (r.call db "findByDone" [.string "never"]).1 =
        .error (.scan ⟨0, .typeMismatch "done" .exact .string .bool⟩) ∧
      (r.call db "findAllByAndDone" []).1 =
        .error (.invalidQuery (.danglingConnective "findAllByAndDone" "And")) := by
  intro tasks db r program lookup one
  have hpure : ∀ task name (events : Array Event),
      (lookup task name events).1 = Catalog.tasks.fields () task name := fun _ _ _ => rfl
  have hagree := one_agrees_with_many program hpure (tasks.take 3) #[] #[] db
    (Catalog.tasks.fields ()) r
  obtain ⟨hfirst, -, hone, -, hhead, -⟩ := hagree "DoneLimit" [.bool true, one]
  obtain ⟨-, -, -, -, -, hfailure, -⟩ := hagree "Done" [.string "never"]
  obtain ⟨-, -, -, -, -, -, hname⟩ := hagree "AndDone" []
  refine ⟨rfl, hfirst.head _ rfl, ?_, rfl, hhead _ rfl, rfl, hfailure _ rfl, ?_⟩
  · rw [hone]
    rfl
  · exact (congrArg Prod.fst hname).trans rfl

end RecordStore
