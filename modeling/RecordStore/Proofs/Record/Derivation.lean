import Mathlib.Data.List.Nodup
import RecordStore.Record.Derivation

/-!
# Fields and the names they are found under

A field that is not kept out of queries is found under one name, the last that its record attribute
gives it, or the declared one if there is none. When every attribute is in order and no two fields
are found under the same name, the derivation lists these names in the order of declaration, and each
of them leads to its field. Nothing else leads anywhere.

The derivation goes through the fields once. It keeps the names that it has met, stops at the first
that it meets again, and remembers the last rename of the attribute it is at. What is said here about
a declaration speaks of all its entries at once instead, so that the two have to be shown to agree.
-/

namespace RecordStore.Record

/-! ### What a declaration asks for -/

def Entry.name? : Entry → Option String
  | rename name => some name
  | skip | renameByExpression | unknown => none

theorem Entry.name?_eq_some_iff {entry : Entry} {name : String} :
    entry.name? = some name ↔ entry = .rename name := by
  cases entry <;> simp [name?]

/-- Whether an entry is one that a record attribute can have. -/
def Entry.IsValid : Entry → Prop
  | skip => True
  | rename name => isIdentifier name = true
  | renameByExpression | unknown => False

@[simp] theorem Entry.isValid_skip : skip.IsValid := trivial

@[simp] theorem Entry.isValid_rename {name : String} :
    (rename name).IsValid ↔ isIdentifier name = true :=
  Iff.rfl

@[simp] theorem Entry.not_isValid_renameByExpression : ¬renameByExpression.IsValid := id

@[simp] theorem Entry.not_isValid_unknown : ¬unknown.IsValid := id

namespace Attribute

def entries : Attribute → List Entry
  | record entries => entries
  | recordWithoutEntries | recordAssigned | foreign => []

/-- Whether a record attribute is in order: it is written with entries, if only none, all of them are
valid, and it does not name the field that it keeps out. -/
def IsValid : Attribute → Prop
  | record entries =>
    (∀ entry ∈ entries, entry.IsValid) ∧ ¬(.skip ∈ entries ∧ ∃ name, .rename name ∈ entries)
  | recordWithoutEntries | recordAssigned => False
  | foreign => True

end Attribute

namespace FieldDeclaration

def entries (field : FieldDeclaration) : List Entry := field.attributes.flatMap Attribute.entries

def IsValid (field : FieldDeclaration) : Prop := ∀ one ∈ field.attributes, one.IsValid

def AttributedOnce (field : FieldDeclaration) : Prop :=
  (field.attributes.filter (· ≠ .foreign)).length ≤ 1

def isSkipped (field : FieldDeclaration) : Bool := field.entries.contains .skip

/-- The last name that a field is given. -/
def rename? (field : FieldDeclaration) : Option String := (field.entries.filterMap Entry.name?).getLast?

/-- The name that a field is found under, unless it is kept out. -/
def queryName (field : FieldDeclaration) : String := field.rename?.getD field.plainName

def derived (field : FieldDeclaration) : DerivedField := ⟨field.queryName, field.name⟩

end FieldDeclaration

def kept (fields : List FieldDeclaration) : List FieldDeclaration := fields.filter (!·.isSkipped)

/-! ### Reading attributes -/

namespace FieldOptions

/-- What some entries ask for on top of what has been asked for already. -/
def after (options : FieldOptions) (entries : List Entry) : FieldOptions where
  skip := options.skip || entries.contains .skip
  rename := (entries.filterMap Entry.name?).getLast?.or options.rename

theorem after_skip (options : FieldOptions) (rest : List Entry) :
    FieldOptions.after { options with skip := true } rest = options.after (.skip :: rest) := by
  simp [after, Entry.name?]

theorem after_rename (options : FieldOptions) (name : String) (rest : List Entry) :
    FieldOptions.after { options with rename := some name } rest =
      options.after (.rename name :: rest) := by
  simp only [after, List.filterMap_cons, Entry.name?, List.getLast?_cons]
  cases (rest.filterMap Entry.name?).getLast? <;> simp

theorem addAll_eq_ok_iff {entries : List Entry} {options result : FieldOptions} :
    options.addAll entries = .ok result ↔
      (∀ entry ∈ entries, entry.IsValid) ∧ options.after entries = result := by
  induction entries generalizing options with
  | nil => simp [addAll, after]
  | cons entry rest ih =>
    rw [List.forall_mem_cons, addAll]
    cases entry with
    | skip => simp only [add, ih, after_skip, Entry.isValid_skip, true_and]
    | rename name =>
      by_cases hname : isIdentifier name = true
      · simp only [add, if_pos hname, ih, after_rename, Entry.isValid_rename.2 hname, true_and]
      · simp [add, hname]
    | renameByExpression | unknown => simp [add]

theorem skip_after {entries : List Entry} :
    (FieldOptions.after {} entries).skip = true ↔ .skip ∈ entries := by
  simp [after]

theorem rename_after {entries : List Entry} :
    (FieldOptions.after {} entries).rename.isSome = true ↔ ∃ name, .rename name ∈ entries := by
  rw [after, Option.or_none, List.getLast?_isSome, ne_eq, List.eq_nil_iff_forall_not_mem]
  simp [List.mem_filterMap, Entry.name?_eq_some_iff]

theorem ofEntries_eq_ok_iff {entries : List Entry} {result : FieldOptions} :
    ofEntries entries = .ok result ↔
      (Attribute.record entries).IsValid ∧ FieldOptions.after {} entries = result := by
  rw [ofEntries, Attribute.IsValid, and_assoc]
  cases hall : addAll {} entries with
  | error fault =>
    have hvalid : ¬∀ entry ∈ entries, entry.IsValid := by
      intro hvalid
      rw [addAll_eq_ok_iff.2 ⟨hvalid, rfl⟩] at hall
      cases hall
    simp [hvalid]
  | ok options =>
    obtain ⟨hvalid, rfl⟩ := addAll_eq_ok_iff.1 hall
    rw [← skip_after, ← rename_after, ← Bool.and_eq_true]
    by_cases hboth : ((FieldOptions.after {} entries).skip &&
        (FieldOptions.after {} entries).rename.isSome) = true
    · simp [hboth]
    · dsimp only
      rw [if_neg hboth, Except.ok.injEq]
      exact ⟨fun h => ⟨hvalid, hboth, h⟩, fun h => h.2.2⟩

/-- If there is one record attribute at most, the first is all of them. -/
theorem ofAttributes_eq_ok_iff {attributes : List Attribute}
    (honce : (attributes.filter (· ≠ .foreign)).length ≤ 1) {result : FieldOptions} :
    ofAttributes attributes = .ok result ↔
      (∀ one ∈ attributes, one.IsValid) ∧
        FieldOptions.after {} (attributes.flatMap Attribute.entries) = result := by
  induction attributes with
  | nil => simp [ofAttributes, after]
  | cons one rest ih =>
    rw [List.forall_mem_cons, List.flatMap_cons]
    cases one with
    | foreign =>
      rw [ofAttributes, ih honce]
      simp [Attribute.IsValid, Attribute.entries]
    | record entries =>
      -- the reading ends here, and none of the attributes that are left unread counts
      have hlength : (rest.filter (· ≠ .foreign)).length = 0 := by simpa using honce
      have hforeign : ∀ one ∈ rest, one = .foreign := by
        simpa [List.filter_eq_nil_iff] using List.eq_nil_of_length_eq_zero hlength
      have hvalid : ∀ one ∈ rest, one.IsValid := fun one hmem => hforeign one hmem ▸ trivial
      have hnone : rest.flatMap Attribute.entries = [] :=
        List.flatMap_eq_nil_iff.2 fun one hmem => hforeign one hmem ▸ rfl
      rw [ofAttributes, ofEntries_eq_ok_iff, hnone, List.append_nil, Attribute.entries]
      exact and_congr_left' (iff_self_and.2 fun _ => hvalid)
    | recordWithoutEntries | recordAssigned => simp [ofAttributes, Attribute.IsValid]

end FieldOptions

/-! ### Deriving fields -/

section

variable {field : FieldDeclaration} {rest : List FieldDeclaration} {taken : List String}

theorem ofAttributes_of_isValid (honce : field.AttributedOnce) (hvalid : field.IsValid) :
    FieldOptions.ofAttributes field.attributes = .ok ⟨field.isSkipped, field.rename?⟩ := by
  refine (FieldOptions.ofAttributes_eq_ok_iff honce).2 ⟨hvalid, ?_⟩
  rw [FieldOptions.after, Bool.false_or, Option.or_none]
  rfl

theorem deriveFields_cons_of_isValid (honce : field.AttributedOnce) (hvalid : field.IsValid) :
    deriveFields taken (field :: rest) =
      if field.isSkipped then deriveFields taken rest
      else if field.queryName ∈ taken then .error (.duplicateName field.queryName)
      else (deriveFields (field.queryName :: taken) rest).map (field.derived :: ·) := by
  rw [deriveFields, ofAttributes_of_isValid honce hvalid]
  simp only [List.contains_iff_mem]
  rfl

theorem deriveFields_cons_of_not_isValid (honce : field.AttributedOnce) (hvalid : ¬field.IsValid)
    (rest : List FieldDeclaration) (taken : List String) :
    ∃ fault, deriveFields taken (field :: rest) = .error (.faultyAttribute fault) := by
  rw [deriveFields]
  cases hasked : FieldOptions.ofAttributes field.attributes with
  | error fault => exact ⟨fault, rfl⟩
  | ok options => exact absurd ((FieldOptions.ofAttributes_eq_ok_iff honce).1 hasked).1 hvalid

theorem kept_cons_of_isSkipped (h : field.isSkipped = true) : kept (field :: rest) = kept rest := by
  simp [kept, h]

theorem kept_cons (h : ¬field.isSkipped = true) : kept (field :: rest) = field :: kept rest := by
  simp [kept, h]

end

theorem map_eq_ok_iff {ε α β : Type} {f : α → β} {outcome : Except ε α} {b : β} :
    outcome.map f = .ok b ↔ ∃ a, outcome = .ok a ∧ f a = b := by
  cases outcome <;> simp [Except.map]

/-- Where fields are derived, the attributes of the first one can be read, and it is kept out or has a
name that is not taken. -/
theorem cases_of_deriveFields_cons {field : FieldDeclaration} {rest : List FieldDeclaration}
    {taken : List String} {derived : List DerivedField}
    (h : deriveFields taken (field :: rest) = .ok derived) :
    ∃ options, FieldOptions.ofAttributes field.attributes = .ok options ∧
      (options.skip = true ∧ deriveFields taken rest = .ok derived ∨
        options.skip = false ∧ options.rename.getD field.plainName ∉ taken ∧
          ∃ others, deriveFields (options.rename.getD field.plainName :: taken) rest = .ok others ∧
            derived = ⟨options.rename.getD field.plainName, field.name⟩ :: others) := by
  rw [deriveFields] at h
  cases hasked : FieldOptions.ofAttributes field.attributes with
  | error fault =>
    rw [hasked] at h
    cases h
  | ok options =>
    rw [hasked] at h
    dsimp only at h
    refine ⟨options, rfl, ?_⟩
    split at h
    · rename_i hskip
      exact .inl ⟨hskip, h⟩
    · rename_i hkept
      split at h
      · cases h
      · rename_i hfresh
        rw [List.contains_iff_mem] at hfresh
        obtain ⟨others, hothers, hderived⟩ := map_eq_ok_iff.1 h
        exact .inr ⟨eq_false_of_ne_true hkept, hfresh, others, hothers, hderived.symm⟩

/-- The fields are derived if their attributes are in order and their names differ, from each other
and from those that are taken. -/
theorem deriveFields_eq_ok_iff {fields : List FieldDeclaration}
    (honce : ∀ field ∈ fields, field.AttributedOnce) {taken : List String} (htaken : taken.Nodup)
    {derived : List DerivedField} :
    deriveFields taken fields = .ok derived ↔
      (∀ field ∈ fields, field.IsValid) ∧
        ((kept fields).map FieldDeclaration.queryName ++ taken).Nodup ∧
        (kept fields).map FieldDeclaration.derived = derived := by
  induction fields generalizing taken derived with
  | nil => simp [deriveFields, kept, htaken]
  | cons field rest ih =>
    obtain ⟨hfirst, hrest⟩ := List.forall_mem_cons.1 honce
    rw [List.forall_mem_cons]
    by_cases hvalid : field.IsValid
    · rw [deriveFields_cons_of_isValid hfirst hvalid]
      by_cases hskip : field.isSkipped = true
      · rw [if_pos hskip, ih hrest htaken, kept_cons_of_isSkipped hskip]
        simp only [hvalid, true_and]
      -- the name of the field goes over to those that are taken
      · rw [if_neg hskip, kept_cons hskip, List.map_cons, List.cons_append, ← List.nodup_middle]
        by_cases hmem : field.queryName ∈ taken
        · have hagain : ¬(field.queryName :: taken).Nodup := fun h => (List.nodup_cons.1 h).1 hmem
          simp [hmem, hagain, List.nodup_append]
        · have hfresh : (field.queryName :: taken).Nodup := List.nodup_cons.2 ⟨hmem, htaken⟩
          rw [if_neg hmem, map_eq_ok_iff]
          simp only [ih hrest hfresh, hvalid, true_and, List.map_cons]
          constructor
          · rintro ⟨_, ⟨hvalids, hnodup, rfl⟩, rfl⟩
            exact ⟨hvalids, hnodup, rfl⟩
          · rintro ⟨hvalids, hnodup, rfl⟩
            exact ⟨_, ⟨hvalids, hnodup, rfl⟩, rfl⟩
    · obtain ⟨fault, hfault⟩ := deriveFields_cons_of_not_isValid hfirst hvalid rest taken
      rw [hfault]
      simp [hvalid]

/-! ### Finding fields -/

namespace Derivation

variable {d : Derivation} {query name : String}

theorem fieldOf?_eq_none_iff : d.fieldOf? query = none ↔ query ∉ d.fieldNames := by
  simp [fieldOf?, fieldNames]

theorem fieldOf?_eq_some_iff (hnodup : d.fieldNames.Nodup) :
    d.fieldOf? query = some name ↔ ⟨query, name⟩ ∈ d.fields := by
  rw [fieldOf?, Option.map_eq_some_iff]
  constructor
  · rintro ⟨field, hfind, rfl⟩
    have hquery : field.query = query := by simpa using List.find?_some hfind
    rw [← hquery]
    exact List.mem_of_find?_eq_some hfind
  · intro hmem
    cases hfind : d.fields.find? (·.query == query) with
    | none => exact absurd (List.find?_eq_none.1 hfind _ hmem) (by simp)
    | some field =>
      have hquery : field.query = query := by simpa using List.find?_some hfind
      have hsame := List.inj_on_of_nodup_map hnodup (List.mem_of_find?_eq_some hfind) hmem hquery
      exact ⟨field, rfl, congrArg DerivedField.field hsame⟩

/-- What is found under a name is the value of the field that the name leads to. -/
theorem forall_valueOf?_eq_iff :
    (∀ values, d.valueOf? values query = some (values name)) ↔ d.fieldOf? query = some name := by
  constructor
  · intro h
    obtain ⟨other, hother, hvalue⟩ := Option.map_eq_some_iff.1 (h .string)
    rw [hother, Value.string.inj hvalue]
  · intro h values
    rw [valueOf?, h, Option.map_some]

section

variable {fields : List FieldDeclaration} {field : FieldDeclaration}

theorem fieldNames_of_derived (h : d.fields = (kept fields).map FieldDeclaration.derived) :
    d.fieldNames = (kept fields).map FieldDeclaration.queryName := by
  rw [fieldNames, h, List.map_map]
  rfl

theorem mem_fields_of_derived (h : d.fields = (kept fields).map FieldDeclaration.derived) :
    ⟨query, name⟩ ∈ d.fields ↔
      ∃ field ∈ fields, field.isSkipped = false ∧ field.queryName = query ∧ field.name = name := by
  simp [h, kept, FieldDeclaration.derived, and_assoc]

theorem fieldOf?_queryName (h : d.fields = (kept fields).map FieldDeclaration.derived)
    (hnodup : d.fieldNames.Nodup) (hkept : field ∈ kept fields) :
    d.fieldOf? field.queryName = some field.name := by
  rw [fieldOf?_eq_some_iff hnodup, h]
  exact List.mem_map.2 ⟨field, hkept, rfl⟩

/-- A field is found under its query name only, and not at all if it is kept out. -/
theorem fieldOf?_eq_some_name_iff (h : d.fields = (kept fields).map FieldDeclaration.derived)
    (hnodup : d.fieldNames.Nodup) (hnames : (fields.map (·.name)).Nodup) (hmem : field ∈ fields) :
    d.fieldOf? query = some field.name ↔ field.isSkipped = false ∧ query = field.queryName := by
  rw [fieldOf?_eq_some_iff hnodup, mem_fields_of_derived h]
  constructor
  · rintro ⟨other, hother, hskipped, hquery, hname⟩
    obtain rfl := List.inj_on_of_nodup_map hnames hother hmem hname
    exact ⟨hskipped, hquery.symm⟩
  · rintro ⟨hskipped, rfl⟩
    exact ⟨field, hmem, hskipped, rfl, rfl⟩

end

end Derivation

theorem deriveFields_of_derive {description : Description} {d : Derivation}
    (h : derive description = .ok d) :
    deriveFields [] description.fields = .ok d.fields := by
  rw [derive] at h
  split at h
  · obtain ⟨fields, hfields, rfl⟩ := map_eq_ok_iff.1 h
    exact hfields
  · cases h
  · cases h
  · cases h
  · cases h

theorem derive_eq_ok_iff {description : Description}
    (honce : ∀ field ∈ description.fields, field.AttributedOnce) {d : Derivation} :
    derive description = .ok d ↔
      description.shape = .named ∧ (∀ field ∈ description.fields, field.IsValid) ∧
        ((kept description.fields).map FieldDeclaration.queryName).Nodup ∧
        ⟨(kept description.fields).map FieldDeclaration.derived,
          description.name ++ TypeParameter.arguments description.parameters⟩ = d := by
  rw [derive]
  cases description.shape with
  | named =>
    simp only [map_eq_ok_iff, deriveFields_eq_ok_iff honce List.nodup_nil, List.append_nil,
      true_and]
    constructor
    · rintro ⟨_, ⟨hvalid, hnodup, rfl⟩, rfl⟩
      exact ⟨hvalid, hnodup, rfl⟩
    · rintro ⟨hvalid, hnodup, rfl⟩
      exact ⟨_, ⟨hvalid, hnodup, rfl⟩, rfl⟩
  | tuple | unit | enumeration | union => simp

/-! ### Plain names -/

theorem withoutRawMark_of_not_mem {name : List Char} (h : '#' ∉ name) :
    withoutRawMark name = name := by
  unfold withoutRawMark
  split
  · simp at h
  · rfl

theorem plainName_raw {bare : String} (h : '#' ∉ bare.toList) (attributes : List Attribute) :
    FieldDeclaration.plainName ⟨"r#" ++ bare, attributes⟩ = bare := by
  have hraw : ("r#" ++ bare).toList = 'r' :: '#' :: bare.toList := by simp
  rw [FieldDeclaration.plainName, hraw, withoutRawMark, withoutRawMark_of_not_mem h,
    String.ofList_toList]

theorem plainName_bare {bare : String} (h : '#' ∉ bare.toList) (attributes : List Attribute) :
    FieldDeclaration.plainName ⟨bare, attributes⟩ = bare := by
  rw [FieldDeclaration.plainName, withoutRawMark_of_not_mem h, String.ofList_toList]

/-- From a description of a type with named fields, each with one record attribute at most, a
derivation follows just when these attributes are in order and no two of the fields that are not kept
out are found under the same name. It lists their names, the names lead to the fields, place by place,
and nothing else leads anywhere, so that a field can be found under its query name alone, and not at
all if it is kept out. The query name is the last that the field is given, or the declared one without
the mark of a raw identifier. -/
theorem derive_by_names (description : Description)
    (honce : ∀ field ∈ description.fields, field.AttributedOnce) :
    let names := (kept description.fields).map FieldDeclaration.queryName
    ((∃ d, derive description = .ok d) ↔
        description.shape = .named ∧ (∀ field ∈ description.fields, field.IsValid) ∧
          names.Nodup) ∧
      (∀ d, derive description = .ok d →
        d.fieldNames = names ∧ names.Nodup ∧
          (∀ values query, d.valueOf? values query = none ↔ query ∉ names) ∧
          (∀ (place : Nat) field, (kept description.fields)[place]? = some field →
            d.fieldNames[place]? = some field.queryName ∧
              ∀ values, d.valueOf? values field.queryName = some (values field.name)) ∧
          ((description.fields.map (·.name)).Nodup → ∀ field ∈ description.fields, ∀ query,
            (∀ values, d.valueOf? values query = some (values field.name)) ↔
              field.isSkipped = false ∧ query = field.queryName)) ∧
      ∀ (bare : String) attributes, '#' ∉ bare.toList →
        FieldDeclaration.plainName ⟨"r#" ++ bare, attributes⟩ = bare ∧
          FieldDeclaration.plainName ⟨bare, attributes⟩ = bare := by
  intro names
  refine ⟨?_, fun d hd => ?_,
    fun bare attributes h => ⟨plainName_raw h attributes, plainName_bare h attributes⟩⟩
  · simp only [derive_eq_ok_iff honce]
    exact ⟨fun ⟨_, hshape, hvalid, hnodup, _⟩ => ⟨hshape, hvalid, hnodup⟩,
      fun ⟨hshape, hvalid, hnodup⟩ => ⟨_, hshape, hvalid, hnodup, rfl⟩⟩
  · obtain ⟨-, -, hnodup, hderived⟩ := (derive_eq_ok_iff honce).1 hd
    have hfields : d.fields = (kept description.fields).map FieldDeclaration.derived :=
      congrArg Derivation.fields hderived.symm
    have hnames : d.fieldNames = names := Derivation.fieldNames_of_derived hfields
    have hdistinct : d.fieldNames.Nodup := hnames ▸ hnodup
    refine ⟨hnames, hnodup, fun values query => ?_, fun place field hplace => ⟨?_, ?_⟩,
      fun hdeclared field hmem query => ?_⟩
    · rw [Derivation.valueOf?, Option.map_eq_none_iff, Derivation.fieldOf?_eq_none_iff, hnames]
    · rw [hnames, List.getElem?_map, hplace, Option.map_some]
    · apply Derivation.forall_valueOf?_eq_iff.2
      exact Derivation.fieldOf?_queryName hfields hdistinct (List.mem_of_getElem? hplace)
    · rw [Derivation.forall_valueOf?_eq_iff]
      exact Derivation.fieldOf?_eq_some_name_iff hfields hdistinct hdeclared hmem

/-- A field is renamed twice, in the end to the declared name of one that is kept out. -/
theorem derive_by_names_task :
    let label : FieldDeclaration := ⟨"label", [.foreign, .record [.rename "note", .rename "tag"]]⟩
    let tag : FieldDeclaration := ⟨"tag", [.record [.skip]]⟩
    let kind : FieldDeclaration := ⟨"r#type", []⟩
    let description : Description :=
      { shape := .named, name := "Task", fields := [⟨"name", []⟩, label, tag, kind] }
    (∀ field ∈ description.fields, field.AttributedOnce) ∧
      ∃ d, derive description = .ok d ∧ d.fieldNames = ["name", "tag", "type"] ∧
        (∀ values, d.valueOf? values "tag" = some (values "label")) ∧
        (∀ values, d.valueOf? values "note" = none) ∧
        (∀ query, ¬∀ values, d.valueOf? values query = some (values "tag")) ∧
        d.fieldNames[2]? = some "type" ∧
        ∀ values, d.valueOf? values "type" = some (values "r#type") := by
  intro label tag kind description
  have honce : ∀ field ∈ description.fields, field.AttributedOnce := by
    simp [description, label, tag, kind, FieldDeclaration.AttributedOnce]
  have hdeclared : (description.fields.map (·.name)).Nodup := by decide
  have hkept : kept description.fields = [⟨"name", []⟩, label, kind] := rfl
  have hnames : (kept description.fields).map FieldDeclaration.queryName =
      ["name", "tag", "type"] := by decide +kernel
  have hvalid : ∀ field ∈ description.fields, field.IsValid := by
    have hnote : isIdentifier "note" = true := by decide +kernel
    have htag : isIdentifier "tag" = true := by decide +kernel
    simp [description, label, tag, kind, FieldDeclaration.IsValid, Attribute.IsValid, hnote, htag]
  obtain ⟨hsucceeds, hfinds, -⟩ := derive_by_names description honce
  rw [hnames] at hsucceeds hfinds
  obtain ⟨d, hd⟩ := hsucceeds.2 ⟨rfl, hvalid, by decide⟩
  obtain ⟨hfields, -, hnone, hplaces, hsole⟩ := hfinds d hd
  have hrenamed : label.queryName = "tag" := by decide +kernel
  have hkind : kind.queryName = "type" := by decide +kernel
  have hlabel := hsole hdeclared label (by simp [description])
  have htag := hsole hdeclared tag (by simp [description])
  obtain ⟨htype, hfound⟩ := hplaces 2 kind (by rw [hkept]; rfl)
  rw [hkind] at htype hfound
  refine ⟨honce, d, hd, hfields, (hlabel "tag").2 ⟨rfl, hrenamed.symm⟩, fun values => ?_,
    fun query => ?_, htype, hfound⟩
  · exact (hnone values "note").2 (by decide)
  · intro htagged
    cases ((htag query).1 htagged).1

end RecordStore.Record
