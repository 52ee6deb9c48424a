import RecordStore.Proofs.Session.Answer
import RecordStore.Proofs.Session.Reading

/-!
# Typed programs

The values of a field are all of one kind, unless they are null. Which operands a mode accepts for a
field of that kind can therefore be said without any record at hand. A program all of whose
comparisons keep to it is evaluated without failure on every record: whichever comparisons turn out
to be skipped, each of them has an operand, a field that is there, and an answer.

The rules are uneven. Membership and truth never ask for the kind of the field, only for that of the
operand; the modes that order decides put up with null on either side; and a pattern is no operand
for anything but a string, although a field that is null would answer it.
-/

namespace RecordStore

variable {σ : Type}

/-! ### Kinds that have an answer -/

/-- Whether there is an answer for a value of one kind and an operand of another. -/
def Mode.answers (mode : Mode) (value operand : Kind) : Bool :=
  match mode with
  | .exact | .lessThan | .greaterThan | .lessThanEqual | .greaterThanEqual =>
    value == .null || operand == .null || value == operand
  | .pattern => value == .null || (value == .string && operand == .pattern)
  | .member => operand == .list
  | .between => operand == .range && (value == .null || value == .number)
  | .truth => operand == .truth

theorem Value.isSome_order? (v : Value) (operand : Operand) :
    (v.order? operand).isSome =
      (v.kind == .null || operand.kind == .null || v.kind == operand.kind) := by
  cases v <;> cases operand <;> rfl

theorem Value.isSome_test? (v : Value) (operand : Operand) (mode : Mode) :
    (v.test? operand mode).isSome = mode.answers v.kind operand.kind := by
  cases mode with
  | lessThan | greaterThan | lessThanEqual | greaterThanEqual =>
    exact Option.isSome_map.trans (v.isSome_order? operand)
  | exact | pattern | member | between | truth => cases v <;> cases operand <;> rfl

/-- The kind of the values of a field that are not null. -/
inductive FieldType
  | bool
  | number
  | char
  | string
deriving DecidableEq

namespace FieldType

def kind : FieldType → Kind
  | bool => .bool
  | number => .number
  | char => .char
  | string => .string

def Holds (type : FieldType) (v : Value) : Prop := v = .null ∨ v.kind = type.kind

/-- Whether a field can be compared under a mode with operands of a kind. -/
def accepts (type : FieldType) (mode : Mode) (operand : Kind) : Bool :=
  match mode with
  | .exact | .lessThan | .greaterThan | .lessThanEqual | .greaterThanEqual =>
    operand == .null || operand == type.kind
  | .pattern => type == .string && operand == .pattern
  | .member => operand == .list
  | .between => type == .number && operand == .range
  | .truth => operand == .truth

theorem accepts_eq (type : FieldType) (mode : Mode) (operand : Kind) :
    type.accepts mode operand = (mode.answers .null operand && mode.answers type.kind operand) := by
  cases mode <;> cases type <;> cases operand <;> rfl

/-- An operand is accepted exactly when every value that the field can have gives an answer. -/
theorem accepts_iff (type : FieldType) (mode : Mode) (operand : Operand) :
    type.accepts mode operand.kind = true ↔
      ∀ v, type.Holds v → (v.test? operand mode).isSome = true := by
  have hvalue : ∃ v : Value, v.kind = type.kind := by
    cases type with
    | bool => exact ⟨.bool true, rfl⟩
    | number => exact ⟨.number (.ofCount 0), rfl⟩
    | char => exact ⟨.char ' ', rfl⟩
    | string => exact ⟨.string "", rfl⟩
  simp only [Value.isSome_test?, accepts_eq, Bool.and_eq_true]
  constructor
  · rintro ⟨hnull, hkind⟩ v (rfl | hv)
    · exact hnull
    · rwa [hv]
  · intro h
    obtain ⟨v, hv⟩ := hvalue
    exact ⟨h .null (.inl rfl), hv ▸ h v (.inr hv)⟩

end FieldType

/-! ### Typed comparisons -/

/-- The fields that the records of a type have, with the kinds of their values. -/
abbrev Typing := String → Option FieldType

/-- Whether a comparison has an operand and a field, and the mode accepts the one for the other. -/
def Segment.isTyped (types : Typing) (segment : Segment) : Bool :=
  match segment.field.bind types, segment.operand with
  | some type, some operand => type.accepts segment.test.mode operand.kind
  | _, _ => false

/-- Whether all comparisons of a program are typed, those that are always skipped included. -/
def Program.isTyped (types : Typing) (program : Program) : Bool :=
  (Segment.cut program.steps).all fun segment => segment.isTyped types

/-- A lookup that finds in every field of a type what the field can have, however often it is asked
and whatever it does to the state around it. -/
def Session.Lookup.Conforms (lookup : Session.Lookup σ) (types : Typing) : Prop :=
  ∀ field type, types field = some type →
    ∀ state, ∃ v, (lookup field state).1 = .ok v ∧ type.Holds v

namespace Segment

variable {types : Typing} {lookup : Session.Lookup σ}

theorem settle_ok (hlookup : lookup.Conforms types) {segment : Segment}
    (h : segment.isTyped types = true) (state : σ) :
    ∃ verdict, (segment.settle lookup state).1 = .ok verdict := by
  rw [isTyped] at h
  split at h
  · rename_i type operand htype hoperand
    obtain ⟨field, hfield, htype⟩ := Option.bind_eq_some_iff.1 htype
    obtain ⟨v, hv, hholds⟩ := hlookup field type htype state
    obtain ⟨fulfilled, htest⟩ :=
      Option.isSome_iff_exists.1 ((type.accepts_iff _ operand).1 h v hholds)
    have hanswer : Question.answer ⟨field, operand, segment.test.mode⟩ v = .ok fulfilled :=
      Question.answer_eq_ok_iff.2 htest
    refine ⟨(fulfilled ^^ segment.negated) ^^ segment.test.inverts, ?_⟩
    simp only [settle, hfield, hoperand, hv]
    rw [Except.bind, hanswer]
    rfl
  · cases h

theorem read_ok (hlookup : lookup.Conforms types) {segments : List Segment}
    (h : ∀ segment ∈ segments, segment.isTyped types = true) (verdict : Bool) (state : σ) :
    ∃ last, (read lookup verdict segments state).outcome = .ok last := by
  apply outcome_read fun outcome => ∃ last, outcome = .ok last
  · exact fun verdict => ⟨verdict, rfl⟩
  · exact fun segment hmem => settle_ok hlookup (h segment hmem)

end Segment

theorem Program.judge_ok {types : Typing} {program : Program} (h : program.isTyped types = true)
    {lookup : Session.Lookup σ} (hlookup : lookup.Conforms types) (state : σ) :
    ∃ hit, (program.judge lookup state).1 = .ok hit := by
  obtain ⟨hit, hread⟩ := Segment.read_ok hlookup (List.all_eq_true.1 h) false state
  exact ⟨hit, (congrArg Prod.fst (program.judge_eq_read lookup state)).trans hread⟩

end RecordStore
