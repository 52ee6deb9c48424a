import RecordStore.Program.Lemmas
import RecordStore.Proofs.Finder.Condition
import RecordStore.Proofs.Number.Order
import RecordStore.Proofs.Session.Complete

/-!
# Bound finders

A finder is given its arguments one after the other, as its parts ask for them. How many there have to
be is counted beforehand, by a reading of the parts of its own; and the name was read by a third one,
which put the limit last, if it put one at all. All three agree, so that no part is ever left without an
argument and none is left over, and a limit that asks for something other than a count is the only thing
that can still go wrong.

What comes out is a program that cannot fail for want of a field or an operand: its comparisons name
their fields, and they are the parts that were given an argument.
-/

namespace RecordStore

/-! ### The step for a part -/

theorem Step.operand_of_make? {command : Command} {field : Option String} {operand : Option Operand}
    {step : Step} (h : Step.make? command field operand = .ok step) : step.operand = operand := by
  have hmap : ∀ action? : Except Malformed Action,
      action?.map (fun action => ⟨action, operand⟩) = .ok step → step.operand = operand := by
    intro action? h
    cases action? with
    | error => cases h
    | ok action =>
      cases h
      rfl
  cases field with
  | none => exact hmap _ h
  | some name => exact hmap _ h

namespace FinderPart

def command : FinderPart → Command
  | compare test _ => .compare test true
  | connect connective => .connect connective false
  | negate => .negate
  | limit => .limit

def field? : FinderPart → Option String
  | compare _ field => some field
  | connect _ | negate | limit => none

/-- What it means that a step is the one for a part: it is what its constructor makes of the command
and the field, and it has an operand when the part takes an argument. -/
structure Makes (part : FinderPart) (step : Step) : Prop where
  made : Step.make? part.command part.field? step.operand = .ok step
  takes : step.operand.isSome = Finder.takesArgument part

/-- What a part receives of its argument. A string that is to be matched becomes the pattern with
that source, and a comparison receives every other argument as it is. A limit receives the count
that its argument is the same as. -/
inductive Receives : FinderPart → Operand → Operand → Prop
  | matched {field source : String} :
    Receives (.compare .like field) (.string source) (.pattern ⟨source⟩)
  | kept {test : Test} {field : String} {argument : Operand} :
    (test = .like → ∀ source, argument ≠ .string source) →
    Receives (.compare test field) argument argument
  | counted {argument : Operand} {n : Nat} :
    argument.count? = some n → (Operand.number (.ofCount n)).same argument = true →
    Receives .limit argument (.number (.ofCount n))

def cap? (part : FinderPart) (argument : Operand) : Option Nat :=
  if part = limit then argument.count? else none

theorem Makes.complete {part : FinderPart} {step : Step} (h : part.Makes step) {test : Test}
    {named : Option String} (haction : step.action = .compare test named) :
    named.isSome = true ∧ step.operand.isSome = true := by
  obtain ⟨hmade, htakes⟩ := h
  rw [htakes]
  cases part with
  | compare test field =>
    have hmade := (congrArg Step.action (Except.ok.inj hmade)).trans haction
    cases hmade
    exact ⟨rfl, rfl⟩
  | connect | negate | limit =>
    have hmade := (congrArg Step.action (Except.ok.inj hmade)).trans haction
    cases hmade

theorem Makes.eq_of_operand_eq {part : FinderPart} {step other : Step} (h : part.Makes step)
    (hother : part.Makes other) (hoperand : step.operand = other.operand) : step = other := by
  have hmade := h.made
  rw [hoperand] at hmade
  exact Except.ok.inj (hmade.symm.trans hother.made)

theorem receives_operandFor (test : Test) (field : String) (argument : Operand) :
    (compare test field).Receives argument (Finder.operandFor test argument) := by
  unfold Finder.operandFor
  split
  · exact .matched
  · rename_i hother
    refine .kept fun htest source hargument => ?_
    exact hother source htest hargument

theorem receives_count {argument : Operand} {n : Nat} (h : argument.count? = some n) :
    limit.Receives argument (.number (.ofCount n)) := by
  refine .counted h ?_
  obtain ⟨number, hnumber, hcount⟩ := Option.bind_eq_some_iff.1 h
  cases argument with
  | number m =>
    cases hnumber
    exact Number.same_of_toCount? hcount
  | _ => cases hnumber

theorem Receives.unique {part : FinderPart} {argument operand other : Operand}
    (h : part.Receives argument operand) (hother : part.Receives argument other) :
    operand = other := by
  cases h with
  | matched =>
    cases hother with
    | matched => rfl
    | kept hplain => exact absurd rfl (hplain rfl _)
  | kept hplain =>
    cases hother with
    | matched => exact absurd rfl (hplain rfl _)
    | kept => rfl
  | counted hcount =>
    cases hother with
    | counted hcount' =>
      cases hcount.symm.trans hcount'
      rfl

end FinderPart

namespace Finder

theorem exists_of_mem_left {α β : Type} {R : α → β → Prop} {xs : List α} {ys : List β}
    (h : List.Forall₂ R xs ys) {x : α} (hx : x ∈ xs) : ∃ y, R x y := by
  induction h with
  | nil => cases hx
  | cons hfirst _ ih =>
    rcases List.mem_cons.1 hx with rfl | hx
    · exact ⟨_, hfirst⟩
    · exact ih hx

/-- The arguments beside the parts that take them. -/
def dealt (parts : List FinderPart) (arguments : List Operand) : List (FinderPart × Operand) :=
  (parts.filter takesArgument).zip arguments

/-- What it means that steps are the parts with their arguments: no argument is left over, there is one
step for each part, in order, and the operands are what the parts receive of theirs. -/
structure IsBinding (parts : List FinderPart) (arguments : List Operand) (steps : List Step) :
    Prop where
  spent : (dealt parts arguments).map Prod.snd = arguments
  made : List.Forall₂ FinderPart.Makes parts steps
  given : List.Forall₂ (fun pair operand => pair.1.Receives pair.2 operand) (dealt parts arguments)
    (steps.filterMap Step.operand)

variable {part : FinderPart} {parts : List FinderPart} {argument operand : Operand}
  {arguments : List Operand} {step : Step} {steps : List Step}

theorem dealt_plain (hplain : takesArgument part = false) :
    dealt (part :: parts) arguments = dealt parts arguments := by
  rw [dealt, List.filter_cons_of_neg (by simp [hplain]), dealt]

theorem dealt_taking (htakes : takesArgument part = true) :
    dealt (part :: parts) (argument :: arguments) = (part, argument) :: dealt parts arguments := by
  rw [dealt, List.filter_cons_of_pos htakes, List.zip_cons_cons, dealt]

theorem IsBinding.plain (h : IsBinding parts arguments steps) (hplain : takesArgument part = false)
    (hmade : Step.make? part.command part.field? none = .ok step) :
    IsBinding (part :: parts) arguments (step :: steps) := by
  have hnone := Step.operand_of_make? hmade
  refine ⟨?_, .cons ⟨by rwa [hnone], by rw [hnone, hplain]; rfl⟩ h.made, ?_⟩
  · rw [dealt_plain hplain, h.spent]
  · rw [dealt_plain hplain, List.filterMap_cons_none hnone]
    exact h.given

theorem IsBinding.taking (h : IsBinding parts arguments steps) (htakes : takesArgument part = true)
    (hreceives : part.Receives argument operand)
    (hmade : Step.make? part.command part.field? (some operand) = .ok step) :
    IsBinding (part :: parts) (argument :: arguments) (step :: steps) := by
  have hsome := Step.operand_of_make? hmade
  refine ⟨?_, .cons ⟨by rwa [hsome], by rw [hsome, htakes]; rfl⟩ h.made, ?_⟩
  · rw [dealt_taking htakes, List.map_cons, h.spent]
  · rw [dealt_taking htakes, List.filterMap_cons_some hsome]
    exact .cons hreceives h.given

theorem eq_of_made {others : List Step} (h : List.Forall₂ FinderPart.Makes parts steps)
    (hothers : List.Forall₂ FinderPart.Makes parts others)
    (hoperands : steps.filterMap Step.operand = others.filterMap Step.operand) :
    steps = others := by
  induction h generalizing others with
  | nil =>
    cases hothers
    rfl
  | @cons part step parts steps hfirst hrest ih =>
    cases hothers with
    | @cons _ other _ others hfirst' hrest' =>
      -- Either both steps have an operand, and then it is the next one, or neither has.
      have hsome := hfirst.takes.trans hfirst'.takes.symm
      cases hstep : step.operand with
      | none =>
        have hother : other.operand = none := by
          simpa [hstep] using hsome.symm
        rw [List.filterMap_cons_none hstep, List.filterMap_cons_none hother] at hoperands
        rw [hfirst.eq_of_operand_eq hfirst' (hstep.trans hother.symm), ih hrest' hoperands]
      | some operand =>
        rw [hstep] at hsome
        obtain ⟨operand', hother⟩ := Option.isSome_iff_exists.1 hsome.symm
        rw [List.filterMap_cons_some hstep, List.filterMap_cons_some hother] at hoperands
        obtain ⟨rfl, hlater⟩ := List.cons.inj hoperands
        rw [hfirst.eq_of_operand_eq hfirst' (hstep.trans hother.symm), ih hrest' hlater]

theorem IsBinding.unique {others : List Step} (h : IsBinding parts arguments steps)
    (hothers : IsBinding parts arguments others) : steps = others := by
  have hreceives : Relator.RightUnique fun (pair : FinderPart × Operand) operand =>
      pair.1.Receives pair.2 operand := fun _ _ _ => FinderPart.Receives.unique
  exact eq_of_made h.made hothers.made
    (List.right_unique_forall₂' hreceives h.given hothers.given)

/-! ### Binding the parts -/

theorem bindParts_plain (name : String) (parts : List FinderPart)
    (hplain : takesArgument part = false) :
    ∃ step, Step.make? part.command part.field? none = .ok step ∧ Program.capOf step = none ∧
      ∀ arguments, bindParts name (part :: parts) arguments =
        (bindParts name parts arguments).map (step :: ·) := by
  cases part with
  | connect connective => exact ⟨⟨.connect connective none, none⟩, rfl, rfl, fun _ => rfl⟩
  | negate => exact ⟨⟨.negate, none⟩, rfl, rfl, fun _ => rfl⟩
  | compare | limit => cases hplain

/-- A part either makes its step of its argument, or is a limit and refuses it. -/
theorem bindParts_taking (name : String) (parts : List FinderPart)
    (htakes : takesArgument part = true) (argument : Operand) :
    (∃ step operand, Step.make? part.command part.field? (some operand) = .ok step ∧
      part.Receives argument operand ∧ Program.capOf step = part.cap? argument ∧
      ∀ arguments, bindParts name (part :: parts) (argument :: arguments) =
        (bindParts name parts arguments).map (step :: ·)) ∨
    (part = .limit ∧ argument.count? = none ∧
      ∀ arguments, bindParts name (part :: parts) (argument :: arguments) =
        .error (.badLimit name)) := by
  cases part with
  | compare test field =>
    refine .inl ⟨⟨.compare test (some field), some (operandFor test argument)⟩, _, rfl,
      FinderPart.receives_operandFor test field argument, rfl, ?_⟩
    exact fun _ => rfl
  | limit =>
    cases hcount : argument.count? with
    | none =>
      refine .inr ⟨rfl, rfl, fun arguments => ?_⟩
      rw [bindParts, hcount]
    | some n =>
      have hlt : n < 2 ^ 64 := by
        obtain ⟨number, -, hnumber⟩ := Option.bind_eq_some_iff.1 hcount
        exact Number.toCount?_lt hnumber
      refine .inl ⟨⟨.limit, some (.number (.ofCount n))⟩, _, rfl,
        FinderPart.receives_count hcount, ?_, fun arguments => ?_⟩
      · rw [Program.capOf_limit hlt, FinderPart.cap?, if_pos rfl, hcount]
      · rw [bindParts, hcount]
  | connect | negate => cases htakes

/-- With as many arguments as parts that take one, binding fails only where a limit refuses its own. -/
theorem bindParts_outcome (name : String)
    (hlength : arguments.length = parts.countP takesArgument) :
    (∃ steps, bindParts name parts arguments = .ok steps ∧ IsBinding parts arguments steps ∧
      steps.reverse.findSome? Program.capOf =
        (dealt parts arguments).reverse.findSome? fun pair => pair.1.cap? pair.2) ∨
    (bindParts name parts arguments = .error (.badLimit name) ∧
      ∃ argument, (FinderPart.limit, argument) ∈ dealt parts arguments ∧
        argument.count? = none) := by
  -- Each part that takes an argument uses up the first, so the count stays right for the rest.
  induction parts generalizing arguments with
  | nil =>
    cases arguments with
    | nil => exact .inl ⟨[], rfl, ⟨rfl, .nil, .nil⟩, rfl⟩
    | cons => simp at hlength
  | cons part parts ih =>
    cases htakes : takesArgument part with
    | false =>
      rw [List.countP_cons_of_neg (by simp [htakes])] at hlength
      obtain ⟨step, hmade, hcap, hbind⟩ := bindParts_plain name parts htakes
      rw [hbind, dealt_plain htakes]
      rcases ih hlength with ⟨steps, hsteps, hbinding, hcaps⟩ | ⟨hfault, hrefused⟩
      · refine .inl ⟨step :: steps, by rw [hsteps]; rfl, hbinding.plain htakes hmade, ?_⟩
        rw [List.reverse_cons, List.findSome?_append, List.findSome?_singleton, hcap, Option.or_none,
          hcaps]
      · exact .inr ⟨by rw [hfault]; rfl, hrefused⟩
    | true =>
      rw [List.countP_cons_of_pos htakes] at hlength
      cases arguments with
      | nil => cases hlength
      | cons argument arguments =>
        rw [dealt_taking htakes]
        rcases bindParts_taking name parts htakes argument with
          ⟨step, operand, hmade, hreceives, hcap, hbind⟩ | ⟨rfl, hcount, hbind⟩
        · rw [hbind]
          rcases ih (Nat.succ.inj hlength) with ⟨steps, hsteps, hbinding, hcaps⟩ | ⟨hfault, hrefused⟩
          · refine .inl ⟨step :: steps, by rw [hsteps]; rfl,
              hbinding.taking htakes hreceives hmade, ?_⟩
            rw [List.reverse_cons, List.findSome?_append, List.findSome?_singleton, hcap, hcaps,
              List.reverse_cons, List.findSome?_append, List.findSome?_singleton]
          · obtain ⟨refused, hmem, hnone⟩ := hrefused
            exact .inr ⟨by rw [hfault]; rfl, refused, List.mem_cons_of_mem _ hmem, hnone⟩
        · exact .inr ⟨hbind arguments, argument, List.mem_cons_self, hcount⟩

/-! ### Finders that were read -/

theorem limit_not_mem_parts (s : Sentence) : FinderPart.limit ∉ s.parts := by
  have hphrase : ∀ phrase : Phrase, FinderPart.limit ∉ phrase.parts := by
    intro phrase
    rw [Phrase.parts]
    split
    · simp
    · simp [Phrase.comparison]
  simp [Sentence.parts, hphrase]

theorem fields_of_read {collection name : String} {finder : Finder}
    (h : read collection name = .ok finder) :
    finder.collection = collection ∧ finder.name = name := by
  rw [read] at h
  split at h
  · cases h
  · split at h
    · cases h
    · split at h
      · cases h
        exact ⟨rfl, rfl⟩
      · cases h

theorem filter_concat_limit (parts : List FinderPart) :
    (parts ++ [FinderPart.limit]).filter takesArgument = parts.filter takesArgument ++ [.limit] := by
  rw [List.filter_append]
  rfl

/-- The argument of the limit, which is the last one, if there is a limit. -/
def limitArgument? (finder : Finder) (arguments : List Operand) : Option Operand :=
  if .limit ∈ finder.parts then arguments.getLast? else none

theorem dealt_of_read {collection name : String} {finder : Finder}
    (h : read collection name = .ok finder) (hlength : arguments.length = finder.arity) :
    ∃ others : List (FinderPart × Operand), (∀ pair ∈ others, pair.1 ≠ .limit) ∧
      dealt finder.parts arguments =
        others ++ (finder.limitArgument? arguments).toList.map (FinderPart.limit, ·) := by
  obtain ⟨-, hparts⟩ := parts_of_read h
  generalize Sentence.cut (body (wordsOf name)) = s at hparts
  have hothers : ∀ arguments : List Operand, ∀ pair ∈ dealt s.parts arguments, pair.1 ≠ .limit := by
    intro arguments pair hmem hlimit
    have hpart := List.mem_of_mem_filter (List.of_mem_zip hmem).1
    rw [hlimit] at hpart
    exact limit_not_mem_parts s hpart
  rw [arity, List.countP_eq_length_filter] at hlength
  cases hlimited : isLimited (wordsOf name) with
  | false =>
    rw [hlimited, limitParts, if_neg (by decide), List.append_nil] at hparts
    refine ⟨dealt s.parts arguments, hothers arguments, ?_⟩
    rw [limitArgument?, hparts, if_neg (limit_not_mem_parts s)]
    exact (List.append_nil _).symm
  | true =>
    rw [hlimited, limitParts, if_pos rfl] at hparts
    rw [hparts, filter_concat_limit, List.length_append] at hlength
    rcases List.eq_nil_or_concat arguments with rfl | ⟨init, last, rfl⟩
    · cases hlength
    · rw [List.concat_eq_append, List.length_append] at hlength
      rw [List.concat_eq_append]
      refine ⟨dealt s.parts init, hothers init, ?_⟩
      rw [limitArgument?, hparts, if_pos (by simp), dealt, filter_concat_limit, dealt,
        List.zip_append (Nat.add_right_cancel hlength).symm, List.getLast?_concat]
      rfl

theorem limit_mem_dealt_iff {collection name : String} {finder : Finder}
    (h : read collection name = .ok finder) (hlength : arguments.length = finder.arity) :
    (FinderPart.limit, argument) ∈ dealt finder.parts arguments ↔
      finder.limitArgument? arguments = some argument := by
  obtain ⟨others, hothers, hdealt⟩ := dealt_of_read h hlength
  have hmem : (FinderPart.limit, argument) ∉ others := fun hmem => hothers _ hmem rfl
  simp [hdealt, hmem]

theorem findSome?_cap?_of_read {collection name : String} {finder : Finder}
    (h : read collection name = .ok finder) (hlength : arguments.length = finder.arity) :
    (dealt finder.parts arguments).reverse.findSome? (fun pair => pair.1.cap? pair.2) =
      (finder.limitArgument? arguments).bind Operand.count? := by
  obtain ⟨others, hothers, hdealt⟩ := dealt_of_read h hlength
  have hnone : others.reverse.findSome? (fun pair => pair.1.cap? pair.2) = none := by
    rw [List.findSome?_eq_none_iff]
    intro pair hmem
    rw [FinderPart.cap?, if_neg (hothers pair (List.mem_reverse.1 hmem))]
  rw [hdealt, List.reverse_append, List.findSome?_append, hnone, Option.or_none]
  cases finder.limitArgument? arguments with
  | none => rfl
  | some last => simp [FinderPart.cap?]

theorem IsBinding.isComplete {program : Program} (h : IsBinding parts arguments program.steps) :
    program.isComplete = true := by
  apply Program.isComplete_of_named
  intro step hmem test named haction
  obtain ⟨part, hmakes⟩ := exists_of_mem_left h.made.flip hmem
  exact hmakes.complete haction

theorem bind_of_length {finder : Finder} (h : arguments.length = finder.arity) :
    finder.bind arguments =
      match bindParts finder.name finder.parts arguments with
      | .ok steps => .ok (steps.foldl Program.push (.on finder.collection))
      | .error fault => .error (.fault fault) :=
  if_neg (not_not_intro h)

theorem isBinding_of_bind {finder : Finder} {program : Program}
    (h : finder.bind arguments = .ok program) :
    IsBinding finder.parts arguments program.steps := by
  have hlength : arguments.length = finder.arity := by
    refine Classical.byContradiction fun hwrong => ?_
    rw [bind, if_pos hwrong] at h
    cases h
  rw [bind_of_length hlength] at h
  rcases bindParts_outcome finder.name hlength with ⟨steps, hsteps, hbinding, -⟩ | ⟨hfault, -⟩
  · rw [hsteps] at h
    cases h
    rwa [Program.steps_foldl_push]
  · rw [hfault] at h
    cases h

theorem bind_of_refused {collection name : String} {finder : Finder}
    (h : read collection name = .ok finder) (hlength : arguments.length = finder.arity)
    (hlimit : finder.limitArgument? arguments = some argument) (hnone : argument.count? = none) :
    finder.bind arguments = .error (.fault (.badLimit name)) := by
  rw [bind_of_length hlength]
  -- In a binding the limit would have made an operand of its argument.
  rcases bindParts_outcome finder.name hlength with ⟨steps, -, hbinding, -⟩ | ⟨hfault, -⟩
  · have hmem := (limit_mem_dealt_iff h hlength).2 hlimit
    obtain ⟨operand, hreceives⟩ := exists_of_mem_left hbinding.given hmem
    cases hreceives with
    | counted hcount =>
      rw [hnone] at hcount
      cases hcount
  · rw [hfault, (fields_of_read h).2]

theorem exists_bind_eq_ok {collection name : String} {finder : Finder}
    (h : read collection name = .ok finder) (hlength : arguments.length = finder.arity)
    (hcount : ∀ argument, finder.limitArgument? arguments = some argument →
      argument.count? ≠ none) :
    ∃ program, finder.bind arguments = .ok program ∧ program.collection = some collection ∧
      IsBinding finder.parts arguments program.steps ∧
      program.cap = (finder.limitArgument? arguments).bind Operand.count? := by
  rw [bind_of_length hlength]
  rcases bindParts_outcome finder.name hlength with
    ⟨steps, hsteps, hbinding, hcaps⟩ | ⟨-, argument, hmem, hnone⟩
  · refine ⟨_, by rw [hsteps], ?_, ?_, ?_⟩
    · rw [Program.collection_foldl_push, Program.on, (fields_of_read h).1]
    · rwa [Program.steps_foldl_push]
    · rw [Program.cap_foldl_push, hcaps, findSome?_cap?_of_read h hlength, Program.on, Option.or_none]
  · exact absurd hnone (hcount argument ((limit_mem_dealt_iff h hlength).1 hmem))

/-- Arguments are bound to a finder that was read exactly when there is one for each part that takes
one, and the last stands for a count where there is a limit. The steps are then the one binding of
the parts to the arguments; the cap is the one that is asked for; and evaluated on whatever record,
the program fails only where a lookup fails or the kinds do not match. -/
theorem bind_of_read {collection name : String} {finder : Finder}
    (h : read collection name = .ok finder) (arguments : List Operand) :
    (∀ expected actual, finder.bind arguments = .error (.wrongCount expected actual) ↔
      arguments.length ≠ finder.arity ∧ expected = finder.arity ∧ actual = arguments.length) ∧
    (∀ fault, finder.bind arguments = .error (.fault fault) ↔
      arguments.length = finder.arity ∧
        (∃ argument, finder.limitArgument? arguments = some argument ∧ argument.count? = none) ∧
        fault = .badLimit name) ∧
    (arguments.length = finder.arity →
      (∀ argument, finder.limitArgument? arguments = some argument → argument.count? ≠ none) →
      ∃ program, finder.bind arguments = .ok program ∧ program.collection = some collection ∧
        (∀ steps, IsBinding finder.parts arguments steps ↔ steps = program.steps) ∧
        program.limit = ((finder.limitArgument? arguments).bind Operand.count?).filter (0 < ·) ∧
        ∀ {σ : Type} (lookup : Session.Lookup σ) (state : σ) (error : EvalError),
          (program.judge lookup state).1 = .error error → lookup.AccountsFor error) := by
  by_cases hlength : arguments.length = finder.arity
  · by_cases hrefused : ∃ argument, finder.limitArgument? arguments = some argument ∧
        argument.count? = none
    · obtain ⟨argument, hlimit, hnone⟩ := hrefused
      rw [bind_of_refused h hlength hlimit hnone]
      refine ⟨?_, ?_, fun _ hcount => absurd hnone (hcount argument hlimit)⟩
      · simp [hlength]
      · simp [hlength, hlimit, hnone, eq_comm]
    · have hcount : ∀ argument, finder.limitArgument? arguments = some argument →
          argument.count? ≠ none := fun argument hlimit hnone => hrefused ⟨argument, hlimit, hnone⟩
      obtain ⟨program, hbind, hcollection, hbinding, hcap⟩ := exists_bind_eq_ok h hlength hcount
      rw [hbind]
      refine ⟨?_, ?_, fun _ _ => ⟨program, rfl, hcollection, fun steps => ?_, ?_, ?_⟩⟩
      · simp [hlength]
      · simp [hrefused]
      · constructor
        · exact fun h => h.unique hbinding
        · rintro rfl
          exact hbinding
      · rw [Program.limit, hcap]
      · intro σ lookup state error
        exact Program.judge_error hbinding.isComplete
  · have hbind : finder.bind arguments = .error (.wrongCount finder.arity arguments.length) :=
      if_pos hlength
    rw [hbind]
    refine ⟨?_, ?_, fun hsame => absurd hsame hlength⟩
    · simp [hlength, eq_comm]
    · simp [hlength]

/-- The first string is to be matched, the second is not. Five is a count, as a double as well; a
string is none, whatever it says. -/
theorem bind_of_read_named :
    let name := "findByNameLikeAndJobNotLimit"
    let five := Operand.number (.double ⟨0x4014000000000000⟩)
    let finder : Finder := ⟨"people", name, .many,
      [.compare .like "name", .connect .and, .negate, .compare .eq "job", .limit]⟩
    read "people" name = .ok finder ∧
      (∃ program, finder.bind [.string "A%", .string "B%", five] = .ok program ∧
        program.steps =
          [⟨.compare .like (some "name"), some (.pattern ⟨"A%"⟩)⟩, ⟨.connect .and none, none⟩,
            ⟨.negate, none⟩, ⟨.compare .eq (some "job"), some (.string "B%")⟩,
            ⟨.limit, some (.number (.natural 5))⟩] ∧
        program.limit = some 5) ∧
      finder.bind [.string "A%", five] = .error (.wrongCount 3 2) ∧
      finder.bind [.string "A%", .null, .string "5"] = .error (.fault (.badLimit name)) := by
  intro name five finder
  have hread : read "people" name = .ok finder := by decide
  have harity : finder.arity = 3 := rfl
  have hlimit : .limit ∈ finder.parts := by decide
  have hcount : five.count? = some 5 := by decide +kernel
  have hsame : (Operand.number (.ofCount 5)).same five = true := by decide +kernel
  obtain ⟨-, -, hbound⟩ := bind_of_read hread [.string "A%", .string "B%", five]
  obtain ⟨hwrong, -, -⟩ := bind_of_read hread [.string "A%", five]
  obtain ⟨-, hrefused, -⟩ := bind_of_read hread [.string "A%", .null, .string "5"]
  refine ⟨hread, ?_, (hwrong 3 2).2 ⟨by simp [harity], harity.symm, rfl⟩,
    (hrefused _).2 ⟨harity.symm, ⟨.string "5", if_pos hlimit, rfl⟩, rfl⟩⟩
  have hlast : finder.limitArgument? [.string "A%", .string "B%", five] = some five :=
    if_pos hlimit
  obtain ⟨program, hprogram, -, hsteps, hcap, -⟩ := hbound harity.symm (by simp [hlast, hcount])
  refine ⟨program, hprogram, ((hsteps _).1 ⟨rfl, ?_, ?_⟩).symm, ?_⟩
  · exact .cons ⟨rfl, rfl⟩ (.cons ⟨rfl, rfl⟩ (.cons ⟨rfl, rfl⟩ (.cons ⟨rfl, rfl⟩
      (.cons ⟨rfl, rfl⟩ .nil))))
  · exact .cons .matched (.cons (.kept nofun) (.cons (.counted hcount hsame) .nil))
  · rw [hcap, hlast]
    simp [hcount]

end Finder

end RecordStore
