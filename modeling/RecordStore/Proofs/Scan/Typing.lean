import RecordStore.Proofs.Session.Typing
import RecordStore.Scan.Basic

/-!
# Scans of typed programs

A scan fails only where a record does. So a typed program never makes one fail, in whatever order the
records come, wherever the limit ends the scan, and whatever the lookups do to the state meanwhile.
-/

namespace RecordStore

variable {σ ρ : Type} [Reports σ]

namespace Scan

variable {judge : ρ → σ → Except EvalError Bool × σ}

theorem consider_ne_aborted (scan : Scan) (tally : Tally ρ) {record : ρ} {state : σ}
    (h : ∃ hit, (judge record state).1 = .ok hit) (error : ScanError) :
    (scan.consider judge tally record state).1 ≠ .aborted error := by
  obtain ⟨hit, hhit⟩ := h
  rw [consider]
  split
  · rename_i cause after hjudge
    rw [hjudge] at hhit
    cases hhit
  · dsimp only
    split
    · nofun
    · nofun

theorem overList_ok (scan : Scan) {records : List ρ}
    (h : ∀ record ∈ records, ∀ state, ∃ hit, (judge record state).1 = .ok hit)
    (tally : Tally ρ) (state : σ) :
    ∃ found, (scan.overList judge tally records state).1 = .ok found := by
  induction records generalizing tally state with
  | nil => exact ⟨tally.matched.toList, rfl⟩
  | cons record rest ih =>
    obtain ⟨hrecord, hrest⟩ := List.forall_mem_cons.1 h
    rw [overList]
    split
    · rename_i next after _
      exact ih hrest next after
    · rename_i last after _
      exact ⟨last.matched.toList, rfl⟩
    · rename_i error after hturn
      have hturn := congrArg Prod.fst hturn
      exact absurd hturn (scan.consider_ne_aborted tally (hrecord state) error)

end Scan

namespace Program

/-- Every query of a typed program over records of the type has a result, whatever the limit. -/
theorem exists_ok_of_isTyped {types : Typing} {program : Program} (h : program.isTyped types = true)
    {lookup : ρ → Session.Lookup σ} {records : List ρ}
    (hrecords : ∀ record ∈ records, (lookup record).Conforms types) (state : σ) :
    (∃ found, (program.execute lookup records state).1 = .ok found) ∧
      (∃ found, (program.first lookup records state).1 = .ok found) ∧
      ∃ n, (program.count lookup records state).1 = .ok n := by
  have hscan : ∀ scan : Scan, ∃ found,
      (scan.overList (fun record => program.judge (lookup record)) {} records state).1 =
        .ok found := by
    intro scan
    refine scan.overList_ok (fun record hmem state => ?_) {} state
    exact program.judge_ok h (hrecords record hmem) state
  obtain ⟨found, hfound⟩ := hscan (program.scan program.limit)
  obtain ⟨firsts, hfirsts⟩ := hscan (program.scan (some 1))
  refine ⟨⟨found, hfound⟩, ⟨firsts.head?, ?_⟩, ⟨found.length, ?_⟩⟩
  · exact congrArg (Except.map List.head?) hfirsts
  · exact congrArg (Except.map List.length) hfound

/-- Ages may be missing, and the last comparison looks for one among names and nulls. -/
theorem exists_ok_of_isTyped_missing_age :
    let types : Typing := fun name =>
      if name = "name" then some .string else if name = "age" then some .number else none
    let fields : String × Option Nat → Fields := fun person name =>
      if name = "name" then .ok (.string person.1)
      else if name = "age" then .ok (.ofOption (person.2.map fun n => .number (.ofCount n)))
      else .error (.fieldNotFound "Person" name)
    let named := ((on "people").whereField "name").compare .like (.like "A%")
    let aged := (named.connect .and (some "age")).compare .between (.range (.ofCount 30) (.ofCount 20))
    let program := (aged.connect .or).negate.compare .member (.list [.string "Ada", .null])
    let people := [("Ada", some 25), ("Bob", none), ("Cyd", some 4)]
    program.isTyped types = true ∧
      ∃ found, (program.execute (fun person => (fields person).lookup) people
        (#[] : Array Event)).1 = .ok found := by
  intro types fields named aged program people
  have htyped : program.isTyped types = true := rfl
  have hpeople : ∀ person ∈ people, (fields person).lookup.Conforms (σ := Array Event) types := by
    rintro ⟨name, age⟩ - field type htype state
    simp only [types] at htype
    split at htype
    · rename_i hname
      cases htype
      exact ⟨.string name, if_pos hname, .inr rfl⟩
    · rename_i hname
      split at htype
      · rename_i hage
        cases htype
        refine ⟨_, (if_neg hname).trans (if_pos hage), ?_⟩
        cases age with
        | none => exact .inl rfl
        | some n => exact .inr rfl
      · cases htype
  exact ⟨htyped, (exists_ok_of_isTyped htyped hpeople #[]).1⟩

end Program

end RecordStore
