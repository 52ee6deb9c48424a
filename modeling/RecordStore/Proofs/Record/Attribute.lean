import RecordStore.Proofs.Record.Constant

/-!
# Record attributes that are spread

The entries of a field can be spread over several record attributes, but the reading stops at the first
of these. It comes to the same as reading all entries at once only where the later attributes have
nothing to add: when the first is refused, or when they repeat what it asks for.

So it is the first attribute alone that keeps a field out of queries, that names it, and that is refused
for doing both.
-/

namespace RecordStore.Record

/-! ### Entries one after the other -/

/-- The last name that some entries give. -/
def lastName? (entries : List Entry) : Option String := (entries.filterMap Entry.name?).getLast?

theorem mem_of_lastName? {entries : List Entry} {name : String} (h : lastName? entries = some name) :
    .rename name ∈ entries := by
  obtain ⟨entry, hmem, hname⟩ := List.mem_filterMap.1 (List.mem_of_getLast? h)
  rwa [← Entry.name?_eq_some_iff.1 hname]

theorem exists_lastName? {entries : List Entry} {name : String} (h : .rename name ∈ entries) :
    ∃ last, lastName? entries = some last := by
  apply Option.isSome_iff_exists.1
  rw [lastName?, List.getLast?_isSome]
  exact List.ne_nil_of_mem (List.mem_filterMap.2 ⟨_, h, rfl⟩)

theorem lastName?_append (first later : List Entry) :
    lastName? (first ++ later) = (lastName? later).or (lastName? first) := by
  rw [lastName?, List.filterMap_append, List.getLast?_append]
  rfl

/-- Whether entries that come later ask for nothing but what the first ones do. -/
structure Repeats (later first : List Entry) : Prop where
  valid : ∀ entry ∈ later, entry.IsValid
  skip : .skip ∈ later → .skip ∈ first
  rename : ∀ name, lastName? later = some name → lastName? first = some name

theorem isValid_of_append {first later : List Entry}
    (h : (Attribute.record (first ++ later)).IsValid) : (Attribute.record first).IsValid := by
  refine ⟨fun entry hmem => h.1 entry (List.mem_append_left _ hmem), ?_⟩
  rintro ⟨hskip, name, hname⟩
  exact h.2 ⟨List.mem_append_left _ hskip, name, List.mem_append_left _ hname⟩

theorem Repeats.isValid {first later : List Entry} (h : Repeats later first)
    (hfirst : (Attribute.record first).IsValid) : (Attribute.record (first ++ later)).IsValid := by
  refine ⟨List.forall_mem_append.2 ⟨hfirst.1, h.valid⟩, ?_⟩
  rintro ⟨hskip, name, hname⟩
  have hout : .skip ∈ first := (List.mem_append.1 hskip).elim id h.skip
  rcases List.mem_append.1 hname with hname | hname
  · exact hfirst.2 ⟨hout, name, hname⟩
  · obtain ⟨last, hlast⟩ := exists_lastName? hname
    exact hfirst.2 ⟨hout, last, mem_of_lastName? (h.rename last hlast)⟩

namespace FieldOptions

theorem toOption_eq_some_iff {ε α : Type} {outcome : Except ε α} {a : α} :
    outcome.toOption = some a ↔ outcome = .ok a := by
  cases outcome <;> simp [Except.toOption]

theorem after_eq (entries : List Entry) :
    FieldOptions.after {} entries = ⟨entries.contains .skip, lastName? entries⟩ := by
  rw [after, Bool.false_or, Option.or_none]
  rfl

theorem after_append_eq_iff {first later : List Entry} :
    FieldOptions.after {} (first ++ later) = FieldOptions.after {} first ↔
      (.skip ∈ later → .skip ∈ first) ∧
        ∀ name, lastName? later = some name → lastName? first = some name := by
  rw [after_eq, after_eq, lastName?_append, List.contains_append, FieldOptions.mk.injEq]
  apply and_congr
  · rw [Bool.or_eq_left_iff_imp, List.contains_iff_mem, List.contains_iff_mem]
  · cases lastName? later with
    | none => simp
    | some name => simp [eq_comm]

/-- Entries can be left unread if those in front of them are refused, or ask for as much. -/
theorem toOption_ofEntries_append_iff (first later : List Entry) :
    (ofEntries first).toOption = (ofEntries (first ++ later)).toOption ↔
      (∀ options, ofEntries first ≠ .ok options) ∨ Repeats later first := by
  cases hfirst : ofEntries first with
  | error fault =>
    -- nothing that is added to faulty entries puts them in order
    have hnone : (ofEntries (first ++ later)).toOption = none := by
      cases htogether : ofEntries (first ++ later) with
      | error other => rfl
      | ok result =>
        have hvalid := isValid_of_append (ofEntries_eq_ok_iff.1 htogether).1
        rw [ofEntries_eq_ok_iff.2 ⟨hvalid, rfl⟩] at hfirst
        cases hfirst
    rw [hnone]
    exact iff_of_true rfl (.inl fun _ h => nomatch h)
  | ok options =>
    obtain ⟨hvalid, rfl⟩ := ofEntries_eq_ok_iff.1 hfirst
    rw [or_iff_right fun h => h _ rfl, eq_comm, Except.toOption, toOption_eq_some_iff,
      ofEntries_eq_ok_iff, after_append_eq_iff]
    constructor
    · rintro ⟨htogether, hskip, hrename⟩
      exact ⟨fun entry hmem => htogether.1 entry (List.mem_append_right _ hmem), hskip, hrename⟩
    · intro hrepeats
      exact ⟨hrepeats.isValid hvalid, hrepeats.skip, hrepeats.rename⟩

theorem ofAttributes_of_first {front : List Attribute} (hfront : ∀ one ∈ front, one = .foreign)
    (first : List Entry) (rest : List Attribute) :
    ofAttributes (front ++ .record first :: rest) = ofEntries first := by
  induction front with
  | nil => rfl
  | cons one front ih =>
    obtain ⟨rfl, hforeign⟩ := List.forall_mem_cons.1 hfront
    exact ih hforeign

theorem entries_of_first {front : List Attribute} (hfront : ∀ one ∈ front, one = .foreign)
    (first : List Entry) (rest : List Attribute) :
    (front ++ .record first :: rest).flatMap Attribute.entries =
      first ++ rest.flatMap Attribute.entries := by
  have hnone : front.flatMap Attribute.entries = [] :=
    List.flatMap_eq_nil_iff.2 fun one hmem => hfront one hmem ▸ rfl
  rw [List.flatMap_append, hnone, List.nil_append, List.flatMap_cons]
  rfl

end FieldOptions

/-! ### Fields whose entries are spread -/

theorem ofAttributes_of_deriveFields {fields : List FieldDeclaration} {taken : List String}
    {derived : List DerivedField} (h : deriveFields taken fields = .ok derived)
    {field : FieldDeclaration} (hmem : field ∈ fields) :
    ∃ options, FieldOptions.ofAttributes field.attributes = .ok options := by
  induction fields generalizing taken derived with
  | nil => cases hmem
  | cons other rest ih =>
    obtain ⟨options, hoptions, hrest⟩ := cases_of_deriveFields_cons h
    rcases List.mem_cons.1 hmem with rfl | hmem
    · exact ⟨options, hoptions⟩
    · obtain ⟨-, hrest⟩ | ⟨-, -, others, hrest, -⟩ := hrest
      · exact ih hrest hmem
      · exact ih hrest hmem

theorem mem_of_deriveFields {fields : List FieldDeclaration} {taken : List String}
    {derived : List DerivedField} (h : deriveFields taken fields = .ok derived)
    {query name : String} :
    ⟨query, name⟩ ∈ derived ↔ ∃ field ∈ fields, field.name = name ∧
      ∃ options, FieldOptions.ofAttributes field.attributes = .ok options ∧ options.skip = false ∧
        query = options.rename.getD field.plainName := by
  induction fields generalizing taken derived with
  | nil =>
    cases h
    simp
  | cons field rest ih =>
    obtain ⟨options, hoptions, ⟨hskip, hrest⟩ | ⟨hkept, -, others, hrest, rfl⟩⟩ :=
      cases_of_deriveFields_cons h
    · simp [ih hrest, hoptions, hskip]
    · rw [List.mem_cons, ih hrest, List.exists_mem_cons_iff]
      refine or_congr ?_ Iff.rfl
      simp [hoptions, hkept, and_comm, @eq_comm _ name]

theorem fieldOf?_eq_some_iff_of_derive {description : Description} {d : Derivation}
    (h : derive description = .ok d)
    (hnames : (description.fields.map (·.name)).Nodup) {field : FieldDeclaration}
    (hmem : field ∈ description.fields) {options : FieldOptions}
    (hoptions : FieldOptions.ofAttributes field.attributes = .ok options) {query : String} :
    d.fieldOf? query = some field.name ↔
      options.skip = false ∧ query = options.rename.getD field.plainName := by
  rw [Derivation.fieldOf?_eq_some_iff (Derivation.nodup_fieldNames h),
    mem_of_deriveFields (deriveFields_of_derive h)]
  constructor
  · rintro ⟨other, hother, hname, asked, hasked, hskip, hquery⟩
    obtain rfl := List.inj_on_of_nodup_map hnames hother hmem hname
    rw [hoptions] at hasked
    cases hasked
    exact ⟨hskip, hquery⟩
  · rintro ⟨hskip, hquery⟩
    exact ⟨field, hmem, rfl, options, hoptions, hskip, hquery⟩

/-- A field with several record attributes has the options that the first of them asks for. They are
those that all entries ask for together, or both are refused, just when the first attribute is refused
or the later ones repeat it. A field whose first attribute keeps it out and names it is refused; if the
derivation succeeds, the field is kept out just when the first attribute says so, and named by the
first attribute, whatever the later ones say. -/
theorem ofAttributes_together_iff (front : List Attribute) (hfront : ∀ one ∈ front, one = .foreign)
    (first : List Entry) (rest : List Attribute) :
    let attributes := front ++ .record first :: rest
    FieldOptions.ofAttributes attributes = FieldOptions.ofAttributes [.record first] ∧
      ((FieldOptions.ofAttributes attributes).toOption =
          (FieldOptions.ofAttributes [.record (attributes.flatMap Attribute.entries)]).toOption ↔
        (∀ options, FieldOptions.ofAttributes [.record first] ≠ .ok options) ∨
          Repeats (rest.flatMap Attribute.entries) first) ∧
      ∀ (description : Description) (name : String), ⟨name, attributes⟩ ∈ description.fields →
        ((.skip ∈ first ∧ ∃ other, .rename other ∈ first) → ∀ d, derive description ≠ .ok d) ∧
          ∀ d, derive description = .ok d → (description.fields.map (·.name)).Nodup →
            ∀ query, d.fieldOf? query = some name ↔
              .skip ∉ first ∧ query = (lastName? first).getD (FieldDeclaration.plainName ⟨name, []⟩) := by
  intro attributes
  have hread : FieldOptions.ofAttributes attributes = FieldOptions.ofEntries first :=
    FieldOptions.ofAttributes_of_first hfront first rest
  refine ⟨hread, ?_, fun description name hmem => ⟨fun hboth d hd => ?_, fun d hd hnames query => ?_⟩⟩
  · rw [hread, FieldOptions.entries_of_first hfront]
    exact FieldOptions.toOption_ofEntries_append_iff first _
  · obtain ⟨options, hoptions⟩ := ofAttributes_of_deriveFields (deriveFields_of_derive hd) hmem
    rw [hread, FieldOptions.ofEntries_eq_ok_iff] at hoptions
    exact hoptions.1.2 hboth
  · obtain ⟨options, hoptions⟩ := ofAttributes_of_deriveFields (deriveFields_of_derive hd) hmem
    rw [fieldOf?_eq_some_iff_of_derive hd hnames hmem hoptions]
    rw [hread, FieldOptions.ofEntries_eq_ok_iff] at hoptions
    obtain ⟨-, rfl⟩ := hoptions
    rw [← Bool.not_eq_true, FieldOptions.skip_after, FieldOptions.after_eq]
    rfl

/-- The second record attribute gives another name first, and in the end the one that there is. -/
theorem ofAttributes_together_iff_code :
    let later : List Entry := [.rename "pin", .rename "code"]
    let attributes : List Attribute :=
      [.foreign, .record [.rename "code"], .foreign, .record later]
    let account : Description :=
      { shape := .named, name := "Account", fields := [⟨"id", []⟩, ⟨"secret", attributes⟩] }
    (FieldOptions.ofAttributes attributes).toOption =
        (FieldOptions.ofAttributes [.record (.rename "code" :: later)]).toOption ∧
      ∃ d, derive account = .ok d ∧
        ∀ query, d.fieldOf? query = some "secret" ↔ query = "code" := by
  intro later attributes account
  obtain ⟨-, htogether, hfield⟩ := ofAttributes_together_iff [.foreign] (by simp) [.rename "code"]
    [.foreign, .record later]
  have hcode : isIdentifier "code" = true := by decide +kernel
  have hpin : isIdentifier "pin" = true := by decide +kernel
  have hderive : derive account = .ok ⟨[⟨"id", "id"⟩, ⟨"code", "secret"⟩], "Account"⟩ := by
    decide +kernel
  refine ⟨htogether.2 (.inr ⟨?_, by simp [later, Attribute.entries], ?_⟩), _, hderive, ?_⟩
  · simp [later, Attribute.entries, hpin, hcode]
  · exact fun name h => h
  · intro query
    have hnames : (account.fields.map (·.name)).Nodup := by decide
    have hfound := (hfield account "secret" (by simp [account, attributes])).2 _ hderive hnames query
    simpa [lastName?, Entry.name?] using hfound

/-- The reading stops ahead of the attribute that keeps the field out. What the two attributes ask for
together is refused, and a field that is to be kept out is found. -/
theorem not_ofAttributes_together :
    let spread : List Attribute := [.record [.rename "code"], .record [.skip]]
    let account : Description :=
      { shape := .named, name := "Account",
        fields := [⟨"id", []⟩, ⟨"secret", [.record [], .record [.skip]]⟩] }
    FieldOptions.ofAttributes spread = .ok ⟨false, some "code"⟩ ∧
      FieldOptions.ofAttributes [.record [.rename "code", .skip]] = .error .skippedAndRenamed ∧
      (∃ d, derive account = .ok d ∧ d.fieldOf? "secret" = some "secret") ∧
      ¬∀ attributes : List Attribute,
        (∀ one ∈ attributes, one = .foreign ∨ ∃ entries, one = .record entries) →
          (∃ entries, .record entries ∈ attributes) →
            (FieldOptions.ofAttributes attributes).toOption =
              (FieldOptions.ofAttributes
                [.record (attributes.flatMap Attribute.entries)]).toOption := by
  intro spread account
  have hspread : FieldOptions.ofAttributes spread = .ok ⟨false, some "code"⟩ := by decide +kernel
  have htogether : FieldOptions.ofAttributes [.record [.rename "code", .skip]] =
      .error .skippedAndRenamed := by decide +kernel
  refine ⟨hspread, htogether,
    ⟨⟨[⟨"id", "id"⟩, ⟨"secret", "secret"⟩], "Account"⟩, by decide +kernel, by decide +kernel⟩, ?_⟩
  intro hall
  have hsame := hall spread (by simp [spread]) ⟨_, List.mem_cons_self⟩
  have hentries : spread.flatMap Attribute.entries = [.rename "code", .skip] := rfl
  rw [hentries, hspread, htogether] at hsame
  cases hsame

end RecordStore.Record
