import RecordStore.Program.Lemmas
import RecordStore.Proofs.Session.Typing

/-!
# Membership and equality

A membership test asks once whether a field equals one of its candidates. The same can be asked by a
chain of equalities joined by disjunctions, and then the session looks the field up again and again,
until one equality holds or one of them fails. The two notions of equality behind this differ in what
they make of another kind: the exact mode has no answer to it, and membership takes it for a
difference. That is all that they differ in, so a chain that comes to an end agrees with membership,
and membership never fails for the sake of a candidate.
-/

namespace RecordStore

/-! ### The two equalities -/

theorem Value.beq_some_compare {α : Type} [Ord α] [Std.LawfulEqOrd α] [DecidableEq α] (a b : α) :
    (some (Ord.compare a b) == some .eq) = (a == b) := by
  rw [Bool.eq_iff_iff]
  simp

/-- The exact mode answers with the equality of membership, where it answers. -/
theorem Value.test?_exact (v : Value) (operand : Operand) :
    v.test? operand .exact =
      if Mode.exact.answers v.kind operand.kind then some (v.equals operand) else none := by
  cases v with
  | null => cases operand <;> rfl
  | bool b =>
    cases operand with
    | bool c => exact congrArg some (beq_some_compare b c)
    | _ => rfl
  | number n => cases operand <;> rfl
  | char c =>
    cases operand with
    | char d => exact congrArg some (beq_some_compare c d)
    | _ => rfl
  | string s =>
    cases operand with
    | string t => exact congrArg some (beq_some_compare s t)
    | _ => rfl

namespace Question

variable {field : String} {operand : Operand} {v : Value}

theorem equals_of_answer {hit : Bool} (h : answer ⟨field, operand, .exact⟩ v = .ok hit) :
    v.equals operand = hit := by
  rw [answer_eq_ok_iff, Value.test?_exact] at h
  split at h
  · exact Option.some.inj h
  · cases h

theorem answer_of_equals (h : v.equals operand = true) :
    answer ⟨field, operand, .exact⟩ v = .ok true := by
  have hkind : Mode.exact.answers v.kind operand.kind = true := by
    cases v <;> cases operand <;> first | rfl | cases h
  rw [answer_eq_ok_iff, Value.test?_exact, if_pos hkind, h]

theorem answer_of_kind (h : v = .null ∨ operand.kind = .null ∨ operand.kind = v.kind) :
    answer ⟨field, operand, .exact⟩ v = .ok (v.equals operand) := by
  have hkind : Mode.exact.answers v.kind operand.kind = true := by
    rw [Mode.answers]
    rcases h with rfl | h | h
    · rfl
    · simp [h]
    · simp [h]
  rw [answer_eq_ok_iff, Value.test?_exact, if_pos hkind]

end Question

/-! ### Chains -/

namespace Program

variable {fields : Fields} {field : String} {test : Test}

/-- The program that compares one field with one operand. -/
def asks (field : String) (test : Test) (operand : Operand) : Program :=
  compareField {} field test operand

/-- The program that compares a field with one operand after the other and takes any answer. -/
def asksAny (field : String) (test : Test) (first : Operand) (rest : List Operand) : Program :=
  rest.foldl (fun program operand => (program.connect .or).compareField field test operand)
    (asks field test first)

theorem advance_compare (verdict : Bool) (bound : Option String) (operand : Operand) :
    Session.advance fields.lookup ⟨verdict, false, false, bound⟩
        ⟨.compare test (some field), some operand⟩ () =
      (((fields field).bind (Question.answer ⟨field, operand, test.mode⟩)).map fun hit =>
        ⟨hit ^^ test.inverts, false, false, bound⟩, ()) := by
  have hanswered : Session.answered ⟨verdict, false, false, bound⟩ test.inverts =
      fun hit => ⟨hit ^^ test.inverts, false, false, bound⟩ := by
    funext hit
    rw [Session.answered, Bool.xor_false]
  exact Prod.ext (congrArg (Except.map · _) hanswered) rfl

theorem verdict_asks (operand : Operand) :
    (asks field test operand).verdict fields =
      ((fields field).bind (Question.answer ⟨field, operand, test.mode⟩)).map (· ^^ test.inverts) := by
  show (Session.replay fields.lookup {} [⟨.compare test (some field), some operand⟩] ()).1.map _ = _
  rw [Session.replay, advance_compare]
  rcases (fields field).bind _ with error | hit
  · rfl
  · rfl

/-- The steps that a chain appends for one more operand. -/
def alternative (field : String) (test : Test) (operand : Operand) : List Step :=
  [⟨.connect .or none, none⟩, ⟨.compare test (some field), some operand⟩]

theorem steps_asksAny (first : Operand) (rest : List Operand) :
    (asksAny field test first rest).steps =
      ⟨.compare test (some field), some first⟩ :: rest.flatMap (alternative field test) := by
  have hfold : ∀ program : Program,
      (rest.foldl (fun program operand => (program.connect .or).compareField field test operand)
        program).steps = program.steps ++ rest.flatMap (alternative field test) := by
    induction rest with
    | nil => exact fun program => (List.append_nil program.steps).symm
    | cons operand rest ih =>
      intro program
      rw [List.foldl_cons, ih, List.flatMap_cons, compareField, connect, append, append, steps_push,
        steps_push, List.append_assoc, List.append_assoc]
      rfl
  exact hfold _

/-- What follows in a chain runs only as long as no operand was met. -/
theorem replay_alternatives (verdict : Bool) (bound : Option String) (rest : List Operand) :
    (Session.replay fields.lookup ⟨verdict, false, false, bound⟩
        (rest.flatMap (alternative field test)) ()).1.map Session.verdict =
      if verdict then .ok true
      else rest.anyM fun operand => (asks field test operand).verdict fields := by
  -- A verdict that is true makes every connective of the rest skip its comparison, so it stays.
  induction rest generalizing verdict with
  | nil => cases verdict <;> rfl
  | cons operand rest ih =>
    rw [List.flatMap_cons]
    cases verdict with
    | true => exact ih true
    | false =>
      show (Session.replay fields.lookup ⟨false, false, false, bound⟩
        (⟨.compare test (some field), some operand⟩ :: rest.flatMap (alternative field test)) ()).1.map
          _ = _
      rw [Session.replay, advance_compare, if_neg (by decide), List.anyM_cons, verdict_asks]
      rcases (fields field).bind _ with error | hit
      · rfl
      · exact ih (hit ^^ test.inverts)

theorem verdict_asksAny (first : Operand) (rest : List Operand) :
    (asksAny field test first rest).verdict fields =
      (first :: rest).anyM fun operand => (asks field test operand).verdict fields := by
  show (Session.replay fields.lookup {} (asksAny field test first rest).steps ()).1.map _ = _
  rw [steps_asksAny, Session.replay, advance_compare, List.anyM_cons, verdict_asks]
  rcases (fields field).bind _ with error | hit
  · rfl
  · exact replay_alternatives (hit ^^ test.inverts) none rest

/-! ### Membership -/

theorem verdict_asks_eq (operand : Operand) :
    (asks field .eq operand).verdict fields =
      (fields field).bind (Question.answer ⟨field, operand, .exact⟩) := by
  rw [verdict_asks]
  show Except.map (· ^^ false) ((fields field).bind (Question.answer ⟨field, operand, .exact⟩)) = _
  rcases (fields field).bind _ with error | hit
  · rfl
  · exact congrArg Except.ok (Bool.xor_false hit)

theorem verdict_asks_member (operands : List Operand) :
    (asks field .member (.list operands)).verdict fields =
      (fields field).map fun v => operands.any v.equals := by
  rw [verdict_asks]
  rcases fields field with error | v
  · rfl
  · exact congrArg Except.ok (Bool.xor_false _)

theorem any_of_anyM {answers : Operand → Except EvalError Bool} {holds : Operand → Bool}
    (h : ∀ operand hit, answers operand = .ok hit → holds operand = hit) {operands : List Operand}
    {hit : Bool} (hany : operands.anyM answers = .ok hit) : operands.any holds = hit := by
  induction operands with
  | nil =>
    cases hany
    rfl
  | cons operand rest ih =>
    rw [List.anyM_cons] at hany
    rw [List.any_cons]
    rcases hanswer : answers operand with error | met
    · rw [hanswer] at hany
      cases hany
    · rw [hanswer] at hany
      rw [h operand met hanswer]
      cases met with
      | true =>
        cases hany
        rfl
      | false => exact ih hany

theorem anyM_eq_any {answers : Operand → Except EvalError Bool} {holds : Operand → Bool}
    {operands : List Operand} (h : ∀ operand ∈ operands, answers operand = .ok (holds operand)) :
    operands.anyM answers = .ok (operands.any holds) := by
  induction operands with
  | nil => rfl
  | cons operand rest ih =>
    obtain ⟨hfirst, hrest⟩ := List.forall_mem_cons.1 h
    rw [List.anyM_cons, hfirst, List.any_cons]
    cases holds operand with
    | true => rfl
    | false => exact ih hrest

/-- A membership test takes over the answer of the chain of equalities whenever that has one. It fails
only when the field cannot be looked up, and holds when one of the equalities does on its own. Operands
that are null or of the kind of the field leave the chain with an answer, and so does a field that is
null. -/
theorem member_agrees (fields : Fields) (field : String) (first : Operand) (rest : List Operand) :
    let operands := first :: rest
    let chain := asksAny field .eq first rest
    let membership := asks field .member (.list operands)
    (∀ hit, chain.verdict fields = .ok hit → membership.verdict fields = .ok hit) ∧
    (∀ error, membership.verdict fields = .error error ↔ fields field = .error error) ∧
    (∀ error, fields field = .error error → chain.verdict fields = .error error) ∧
    (membership.verdict fields = .ok true ↔
      ∃ operand ∈ operands, (asks field .eq operand).verdict fields = .ok true) ∧
    ∀ v, fields field = .ok v →
      (v = .null ∨ ∀ operand ∈ operands, operand.kind = .null ∨ operand.kind = v.kind) →
      ∃ hit, chain.verdict fields = .ok hit := by
  intro operands chain membership
  have hchain : chain.verdict fields = operands.anyM fun operand =>
      (fields field).bind (Question.answer ⟨field, operand, .exact⟩) := by
    simp only [← verdict_asks_eq]
    exact verdict_asksAny first rest
  have hmembership : membership.verdict fields = (fields field).map fun v => operands.any v.equals :=
    verdict_asks_member operands
  simp only [verdict_asks_eq]
  rw [hchain, hmembership]
  rcases fields field with error | v
  · refine ⟨nofun, ?_, ?_, ?_, nofun⟩
    · intro e
      constructor
      · intro h
        cases h
        rfl
      · intro h
        cases h
        rfl
    · intro e h
      cases h
      rfl
    · constructor
      · nofun
      · rintro ⟨operand, -, h⟩
        cases h
  · refine ⟨?_, ?_, nofun, ?_, ?_⟩
    · intro hit h
      exact congrArg Except.ok (any_of_anyM (fun _ _ => Question.equals_of_answer) h)
    · intro e
      exact ⟨nofun, nofun⟩
    · constructor
      · intro h
        obtain ⟨operand, hmem, hequals⟩ := List.any_eq_true.1 (Except.ok.inj h)
        exact ⟨operand, hmem, Question.answer_of_equals hequals⟩
      · rintro ⟨operand, hmem, hanswer⟩
        apply congrArg Except.ok
        exact List.any_eq_true.2 ⟨operand, hmem, Question.equals_of_answer hanswer⟩
    · intro v' h hkinds
      cases h
      refine ⟨_, anyM_eq_any fun operand hmem => Question.answer_of_kind ?_⟩
      exact hkinds.imp_right fun hall => hall operand hmem

/-- Thirty is among the candidates in another representation, next to null, which leaves the chain its
answer, or next to a name, which does not. -/
theorem member_agrees_ages :
    let fields : Fields := fun name =>
      if name = "age" then .ok (.number (.natural 30)) else .error (.fieldNotFound "Person" name)
    let thirty := Operand.number (.double ⟨0x403e000000000000⟩)
    (∃ hit, (asksAny "age" .eq .null [thirty]).verdict fields = .ok hit ∧
        (asks "age" .member (.list [.null, thirty])).verdict fields = .ok hit) ∧
      (asks "age" .member (.list [.string "Ann", thirty])).verdict fields = .ok true ∧
      (asksAny "name" .eq .null [thirty]).verdict fields =
        .error (.fieldNotFound "Person" "name") := by
  intro fields thirty
  have hage : fields "age" = .ok (.number (.natural 30)) := rfl
  have hsame : (Value.number (.natural 30)).equals thirty = true := by decide +kernel
  have hequal : (asks "age" .eq thirty).verdict fields = .ok true := by
    rw [verdict_asks_eq, hage]
    show Question.answer ⟨"age", thirty, .exact⟩ (.number (.natural 30)) = .ok true
    exact Question.answer_of_equals hsame
  obtain ⟨hagrees, -, -, -, hanswers⟩ := member_agrees fields "age" .null [thirty]
  obtain ⟨-, -, -, hmembers, -⟩ := member_agrees fields "age" (.string "Ann") [thirty]
  obtain ⟨-, -, hmissing, -, -⟩ := member_agrees fields "name" .null [thirty]
  obtain ⟨hit, hchain⟩ := hanswers _ hage (.inr (by simp [thirty, Operand.kind, Value.kind]))
  refine ⟨⟨hit, hchain, hagrees hit hchain⟩, ?_, hmissing _ rfl⟩
  exact hmembers.2 ⟨thirty, by simp, hequal⟩

end Program

end RecordStore
