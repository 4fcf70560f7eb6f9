import SchemaVisibility.Proofs.Marking.Isolation
import SchemaVisibility.Proofs.Schema.Coordinate
import SchemaVisibility.Proofs.Schema.Spelled

/-! # Which texts name a declaration

`Denotes` gives the four forms of a coordinate, letter by letter, and what each of them means. A
text that resolves has one of these forms or is that of a whole type with a point behind it
(`exists_denotes`), and if the names of the schema are names of the language, both kinds of text do
resolve (`Denotes.resolve_eq`, `Denotes.resolve_trailing`).

So each declaration of a member or an argument has one text only. A whole type has two: the point
that a member left out leaves behind marks the type (`marks_whole_type`).
-/

namespace SchemaVisibility

open GraphQL Coordinate

/-- **The forms of a coordinate** and what they mean: a type of the type map, perhaps of unknown
kind, a value of an enum, a field of an input object, a field of an object or an interface, and an
argument of such a field. -/
inductive Schema.Denotes (schema : Schema) : String → Declaration → Prop
  | type {type : TypeDefinition} : schema.named? type.name = some type →
      Denotes schema type.name (.ofType type)
  | unknownKind {name : String} : schema.entries.get? name = some .unknownKind →
      Denotes schema name ⟨.type name, ⟨Record.topLevel, name⟩, []⟩
  | value {type : TypeDefinition} {values : List EnumValueDefinition}
      {value : EnumValueDefinition} : schema.named? type.name = some type →
      type.content = .enum values → value ∈ values →
      Denotes schema (type.name ++ "." ++ value.name)
        (.ofMember type.name value.name value.directives)
  | inputField {type : TypeDefinition} {fields : List InputDefinition} {field : InputDefinition} :
      schema.named? type.name = some type → type.content = .input fields → field ∈ fields →
      Denotes schema (type.name ++ "." ++ field.name)
        (.ofMember type.name field.name field.directives)
  | field {type : TypeDefinition} {fields : List FieldDefinition} {field : FieldDefinition} :
      schema.named? type.name = some type → type.fields? = some fields → field ∈ fields →
      Denotes schema (type.name ++ "." ++ field.name)
        (.ofMember type.name field.name field.directives)
  | argument {type : TypeDefinition} {fields : List FieldDefinition} {field : FieldDefinition}
      {argument : InputDefinition} : schema.named? type.name = some type →
      type.fields? = some fields → field ∈ fields → argument ∈ field.arguments →
      Denotes schema (type.name ++ "." ++ field.name ++ "(" ++ argument.name ++ ":)")
        (.ofArgument type.name field.name argument)

/-! ### Members by name -/

namespace GraphQL.TypeDefinition

variable {type : TypeDefinition} {text : String} {reference : Reference}
  {declaration : Declaration}

theorem resolveValue_eq_ok {values : List EnumValueDefinition} :
    type.resolveValue values text reference = .ok declaration ↔ ∃ value,
      (values.find? fun value => value.name = reference.member) = some value ∧
        declaration = .ofMember type.name value.name value.directives := by
  rw [resolveValue]
  cases values.find? fun value => value.name = reference.member with
  | none => simp
  | some value => simp [eq_comm]

theorem resolveInput_eq_ok {fields : List InputDefinition} :
    type.resolveInput fields text reference = .ok declaration ↔ ∃ field,
      (fields.find? fun field => field.name = reference.member) = some field ∧
        reference.argument = none ∧
          declaration = .ofMember type.name field.name field.directives := by
  rw [resolveInput]
  cases fields.find? fun field => field.name = reference.member with
  | none => simp
  | some field =>
    cases reference.argument with
    | none => simp [eq_comm]
    | some argument => simp

theorem resolveField_eq_ok {fields : List FieldDefinition} :
    type.resolveField fields text reference = .ok declaration ↔ ∃ field,
      (fields.find? fun field => field.name = reference.member) = some field ∧
        (reference.argument = none ∧
            declaration = .ofMember type.name field.name field.directives ∨
          ∃ name argument, reference.argument = some name ∧
            (field.arguments.find? fun argument => argument.name = name) = some argument ∧
              declaration = .ofArgument type.name field.name argument) := by
  rw [resolveField]
  cases fields.find? fun field => field.name = reference.member with
  | none => simp
  | some field =>
    cases reference.argument with
    | none => simp [eq_comm]
    | some name =>
      cases hfind : field.arguments.find? fun argument => argument.name = name with
      | none => simp [hfind]
      | some argument =>
        simp only [hfind, Except.ok.injEq]
        constructor
        · rintro rfl
          exact ⟨field, rfl, Or.inr ⟨name, argument, rfl, hfind, rfl⟩⟩
        · rintro ⟨_, hfield, ⟨hnone, -⟩ | ⟨_, other, hname, hother, rfl⟩⟩
          · cases hnone
          · obtain rfl := Option.some.inj hfield
            obtain rfl := Option.some.inj hname
            obtain rfl := Option.some.inj (hfind.symm.trans hother)
            rfl

/-- Whether a reference stops at the type. -/
def stopsHere (reference : Reference) : Bool :=
  reference.member = "" && reference.argument.isNone

theorem resolve_of_stopsHere (h : stopsHere reference = true) :
    type.resolve text reference = .ok (.ofType type) :=
  if_pos h

theorem resolve_of_values {values : List EnumValueDefinition} (h : stopsHere reference = false)
    (hcontent : type.content = .enum values) (hargument : reference.argument = none) :
    type.resolve text reference = type.resolveValue values text reference := by
  rw [resolve, hcontent, hargument]
  rw [stopsHere, hargument] at h
  rw [if_neg (by simpa using h)]

theorem resolve_of_inputs {fields : List InputDefinition} (h : stopsHere reference = false)
    (hcontent : type.content = .input fields) :
    type.resolve text reference = type.resolveInput fields text reference := by
  rw [resolve, hcontent]
  exact if_neg (Bool.eq_false_iff.mp h)

theorem resolve_of_fields {fields : List FieldDefinition} (h : stopsHere reference = false)
    (hfields : type.fields? = some fields) :
    type.resolve text reference = type.resolveField fields text reference := by
  obtain ⟨_, hcontent | hcontent⟩ := content_of_fields? hfields
  all_goals
    rw [resolve, hcontent]
    exact if_neg (Bool.eq_false_iff.mp h)

end GraphQL.TypeDefinition

/-! ### What resolves -/

namespace Schema

variable {schema : Schema} {text : String} {declaration : Declaration}

theorem named?_eq_some_iff {name : String} {type : TypeDefinition} :
    schema.named? name = some type ↔
      schema.entries.get? name = some .known ∧ schema.definition? name = some type := by
  rw [named?]
  cases schema.entries.get? name with
  | none => simp
  | some entry => cases entry <;> simp

/-- What a reference of no member comes to is spelled as the type, perhaps with a point. -/
theorem type_of_spells {reference : Reference} (hspells : reference.Spells text)
    (h : TypeDefinition.stopsHere reference = true) :
    text = reference.type ∨ text = reference.type ++ "." := by
  cases hspells with
  | type => exact Or.inl rfl
  | @member type member =>
    have hmember : member = "" := by simpa [TypeDefinition.stopsHere] using h
    rw [hmember, String.append_empty]
    exact Or.inr rfl
  | argument => simp [TypeDefinition.stopsHere] at h

theorem member_of_spells {reference : Reference} (hspells : reference.Spells text)
    (h : TypeDefinition.stopsHere reference = false) (hargument : reference.argument = none) :
    text = reference.type ++ "." ++ reference.member := by
  cases hspells with
  | type => simp [TypeDefinition.stopsHere] at h
  | member => rfl
  | argument => cases hargument

theorem argument_of_spells {reference : Reference} {argument : String}
    (hspells : reference.Spells text) (h : reference.argument = some argument) :
    text = reference.type ++ "." ++ reference.member ++ "(" ++ argument ++ ":)" := by
  cases hspells with
  | type | member => cases h
  | argument =>
    obtain rfl := Option.some.inj h
    rfl

/-- What a type resolves beyond itself is denoted by the text. -/
theorem denotes_of_resolve {type : TypeDefinition} {reference : Reference}
    (hnamed : schema.named? type.name = some type) (htype : reference.type = type.name)
    (hspells : reference.Spells text) (hbeyond : TypeDefinition.stopsHere reference = false)
    (h : type.resolve text reference = .ok declaration) : schema.Denotes text declaration := by
  have hfound : ∀ {α : Type} {name : α → String} {items : List α} {wanted : String} {item : α},
      (items.find? fun item => name item = wanted) = some item →
        item ∈ items ∧ name item = wanted := by
    intro α name items wanted item hfind
    exact ⟨List.mem_of_find?_eq_some hfind, by simpa using List.find?_some hfind⟩
  have hfield : ∀ fields, type.fields? = some fields → schema.Denotes text declaration := by
    intro fields hfields
    rw [TypeDefinition.resolve_of_fields hbeyond hfields, TypeDefinition.resolveField_eq_ok] at h
    obtain ⟨field, hfind, ⟨hargument, rfl⟩ | ⟨name, argument, hargument, hfind', rfl⟩⟩ := h
    · obtain ⟨hmem, hname⟩ := hfound hfind
      rw [member_of_spells hspells hbeyond hargument, htype, ← hname]
      exact .field hnamed hfields hmem
    · obtain ⟨hmem, hname⟩ := hfound hfind
      obtain ⟨hmem', hname'⟩ := hfound hfind'
      rw [argument_of_spells hspells hargument, htype, ← hname, ← hname']
      exact .argument hnamed hfields hmem hmem'
  cases hcontent : type.content with
  | scalar | union =>
    have hfails : type.resolve text reference = .error (.noFields reference.type) := by
      rw [TypeDefinition.resolve, hcontent]
      exact if_neg (Bool.eq_false_iff.mp hbeyond)
    rw [hfails] at h
    cases h
  | object _ fields => exact hfield fields (by rw [TypeDefinition.fields?, hcontent])
  | interface _ fields => exact hfield fields (by rw [TypeDefinition.fields?, hcontent])
  | enum values =>
    cases hargument : reference.argument with
    | none =>
      rw [TypeDefinition.resolve_of_values hbeyond hcontent hargument,
        TypeDefinition.resolveValue_eq_ok] at h
      obtain ⟨value, hfind, rfl⟩ := h
      obtain ⟨hmem, hname⟩ := hfound hfind
      rw [member_of_spells hspells hbeyond hargument, htype, ← hname]
      exact .value hnamed hcontent hmem
    | some argument =>
      rw [TypeDefinition.resolve, hcontent, hargument] at h
      simp at h
  | input fields =>
    rw [TypeDefinition.resolve_of_inputs hbeyond hcontent, TypeDefinition.resolveInput_eq_ok] at h
    obtain ⟨field, hfind, hargument, rfl⟩ := h
    obtain ⟨hmem, hname⟩ := hfound hfind
    rw [member_of_spells hspells hbeyond hargument, htype, ← hname]
    exact .inputField hnamed hcontent hmem

/-- A text that reads as one of a known type is resolved by the type. -/
theorem resolve_of_named {type : TypeDefinition}
    (h : schema.named? (Reference.ofText text).type = some type) :
    schema.resolve text = type.resolve text (Reference.ofText text) := by
  obtain ⟨hentry, hdefined⟩ := named?_eq_some_iff.mp h
  simp only [resolve, hentry, hdefined]

/-- A type of unknown kind resolves to itself and to nothing more. -/
theorem resolve_of_unknownKind
    (h : schema.entries.get? (Reference.ofText text).type = some .unknownKind) :
    schema.resolve text =
      if TypeDefinition.stopsHere (Reference.ofText text) then
        .ok ⟨.type (Reference.ofText text).type,
          ⟨Record.topLevel, (Reference.ofText text).type⟩, []⟩
      else .error (.noFields (Reference.ofText text).type) := by
  simp only [resolve, h]
  rfl

/-- What resolves starts from an entry of the type map. -/
theorem resolve_cases (h : schema.resolve text = .ok declaration) :
    (∃ type, schema.named? (Reference.ofText text).type = some type ∧
        type.resolve text (Reference.ofText text) = .ok declaration) ∨
      schema.entries.get? (Reference.ofText text).type = some .unknownKind ∧
        TypeDefinition.stopsHere (Reference.ofText text) = true ∧
          declaration = ⟨.type (Reference.ofText text).type,
            ⟨Record.topLevel, (Reference.ofText text).type⟩, []⟩ := by
  cases hentry : schema.entries.get? (Reference.ofText text).type with
  | none =>
    simp only [resolve, hentry] at h
    cases h
  | some entry =>
    cases entry with
    | unknownKind =>
      rw [resolve_of_unknownKind hentry] at h
      split at h
      · next hstops => exact Or.inr ⟨rfl, hstops, (Except.ok.inj h).symm⟩
      · cases h
    | known =>
      cases hdefined : schema.definition? (Reference.ofText text).type with
      | none =>
        simp only [resolve, hentry, hdefined] at h
        cases h
      | some type =>
        have hnamed := named?_eq_some_iff.mpr ⟨hentry, hdefined⟩
        exact Or.inl ⟨type, hnamed, resolve_of_named hnamed ▸ h⟩

theorem name_of_named? {name : String} {type : TypeDefinition}
    (h : schema.named? name = some type) : type.name = name :=
  name_of_definition? (named?_eq_some_iff.mp h).2

/-- **A text that resolves is a coordinate**, or that of a whole type and a point behind it. -/
theorem exists_denotes (h : schema.resolve text = .ok declaration) :
    schema.Denotes text declaration ∨
      ∃ name, text = name ++ "." ∧ declaration.coordinate = .type name ∧
        schema.Denotes name declaration := by
  have hspells := Reference.spells_ofText text
  -- a reference that stops at the type has one of two spellings
  have hwhole : TypeDefinition.stopsHere (Reference.ofText text) = true →
      declaration.coordinate = .type (Reference.ofText text).type →
      schema.Denotes (Reference.ofText text).type declaration →
      schema.Denotes text declaration ∨ ∃ name, text = name ++ "." ∧
        declaration.coordinate = .type name ∧ schema.Denotes name declaration := by
    intro hstops hcoordinate hdenotes
    rcases type_of_spells hspells hstops with htext | htext
    · exact Or.inl (by rwa [← htext] at hdenotes)
    · exact Or.inr ⟨_, htext, hcoordinate, hdenotes⟩
  rcases resolve_cases h with ⟨type, hnamed, hresolve⟩ | ⟨hentry, hstops, rfl⟩
  · have hname := name_of_named? hnamed
    rw [← hname] at hnamed
    cases hstops : TypeDefinition.stopsHere (Reference.ofText text) with
    | true =>
      rw [TypeDefinition.resolve_of_stopsHere hstops, Except.ok.injEq] at hresolve
      subst hresolve
      rw [← hname] at hwhole
      exact hwhole hstops rfl (.type hnamed)
    | false => exact Or.inl (denotes_of_resolve hnamed hname.symm hspells hstops hresolve)
  · exact hwhole hstops rfl (.unknownKind hentry)

/-! ### Coordinates resolve -/

theorem Spelled.isName_of_get? (h : schema.Spelled) {name : String} {entry : Entry}
    (hentry : schema.entries.get? name = some entry) : Text.IsName name :=
  h.types name (List.mem_map.mpr ⟨(name, entry), Table.mem_of_get? hentry, rfl⟩)

theorem Spelled.isName_of_named? (h : schema.Spelled) {name : String} {type : TypeDefinition}
    (hnamed : schema.named? name = some type) : Text.IsName name :=
  h.isName_of_get? (named?_eq_some_iff.mp hnamed).1

theorem point_not_mem {name : String} (h : Text.IsName name) : '.' ∉ name.toList :=
  h.not_mem (by decide)

theorem parenthesis_not_mem {name : String} (h : Text.IsName name) : '(' ∉ name.toList :=
  h.not_mem (by decide)

/-- A reference to a member with a name goes beyond the type. -/
theorem beyond_of_isName {type member : String} {argument : Option String}
    (h : Text.IsName member) : TypeDefinition.stopsHere ⟨type, member, argument⟩ = false := by
  rw [TypeDefinition.stopsHere, decide_eq_false h.ne_empty, Bool.false_and]

/-- What a text that reads as one of a known type comes to. -/
theorem resolve_of_read {reference : Reference} {type : TypeDefinition}
    (hread : Reference.ofText text = reference)
    (hnamed : schema.named? reference.type = some type) :
    schema.resolve text = type.resolve text reference := by
  subst hread
  exact resolve_of_named hnamed

/-- A member has a name of the language and is found by it. -/
theorem find?_member {α : Type} {name : α → String} {items : List α} {item : α}
    {type : TypeDefinition} (hdistinct : schema.Distinct) (hspelled : schema.Spelled)
    (hnamed : schema.named? type.name = some type)
    (hmembers : Rules.memberNames type = items.map name) (hitem : item ∈ items) :
    Text.IsName (name item) ∧
      (items.find? fun other => name other = name item) = some item := by
  have hdefined := (named?_eq_some_iff.mp hnamed).2
  have hmem : name item ∈ Rules.memberNames type := by
    rw [hmembers]
    exact List.mem_map_of_mem hitem
  refine ⟨hspelled.members _ type hdefined _ hmem, find?_of_mem ?_ hitem⟩
  rw [← hmembers]
  exact hdistinct.members _ type hdefined

/-- **Each coordinate resolves to what it means.** -/
theorem Denotes.resolve_eq (h : schema.Denotes text declaration) (hdistinct : schema.Distinct)
    (hspelled : schema.Spelled) : schema.resolve text = .ok declaration := by
  have hpoint : ∀ {type : TypeDefinition}, schema.named? type.name = some type →
      '.' ∉ type.name.toList :=
    fun hnamed => point_not_mem (hspelled.isName_of_named? hnamed)
  cases h with
  | @type type hnamed =>
    rw [resolve_of_read (Reference.ofText_type (hpoint hnamed)) hnamed]
    exact TypeDefinition.resolve_of_stopsHere rfl
  | @unknownKind name hentry =>
    have hread := Reference.ofText_type (point_not_mem (hspelled.isName_of_get? hentry))
    rw [resolve_of_unknownKind (by rw [hread]; exact hentry), hread]
    rfl
  | @value type values value hnamed hcontent hmem =>
    have hmembers : Rules.memberNames type = values.map EnumValueDefinition.name := by
      rw [Rules.memberNames, hcontent]
    obtain ⟨hname, hfind⟩ := find?_member hdistinct hspelled hnamed hmembers hmem
    have hread := Reference.ofText_member (hpoint hnamed) (parenthesis_not_mem hname)
    rw [resolve_of_read hread hnamed,
      TypeDefinition.resolve_of_values (beyond_of_isName hname) hcontent rfl]
    exact TypeDefinition.resolveValue_eq_ok.mpr ⟨value, hfind, rfl⟩
  | @inputField type fields field hnamed hcontent hmem =>
    have hmembers : Rules.memberNames type = fields.map InputDefinition.name := by
      rw [Rules.memberNames, hcontent]
    obtain ⟨hname, hfind⟩ := find?_member hdistinct hspelled hnamed hmembers hmem
    have hread := Reference.ofText_member (hpoint hnamed) (parenthesis_not_mem hname)
    rw [resolve_of_read hread hnamed,
      TypeDefinition.resolve_of_inputs (beyond_of_isName hname) hcontent]
    exact TypeDefinition.resolveInput_eq_ok.mpr ⟨field, hfind, rfl, rfl⟩
  | @field type fields field hnamed hfields hmem =>
    obtain ⟨hname, hfind⟩ := find?_member hdistinct hspelled hnamed
      (TypeDefinition.memberNames_of_fields? hfields) hmem
    have hread := Reference.ofText_member (hpoint hnamed) (parenthesis_not_mem hname)
    rw [resolve_of_read hread hnamed,
      TypeDefinition.resolve_of_fields (beyond_of_isName hname) hfields]
    exact TypeDefinition.resolveField_eq_ok.mpr ⟨field, hfind, Or.inl ⟨rfl, rfl⟩⟩
  | @argument type fields field argument hnamed hfields hmem hargument =>
    obtain ⟨hname, hfind⟩ := find?_member hdistinct hspelled hnamed
      (TypeDefinition.memberNames_of_fields? hfields) hmem
    have hread :=
      Reference.ofText_argument argument.name (hpoint hnamed) (parenthesis_not_mem hname)
    have harguments : (field.arguments.map InputDefinition.name).Nodup := by
      refine hdistinct.arguments _ type (named?_eq_some_iff.mp hnamed).2 field ?_
      rw [hfields]
      exact hmem
    rw [resolve_of_read hread hnamed,
      TypeDefinition.resolve_of_fields (beyond_of_isName hname) hfields]
    exact TypeDefinition.resolveField_eq_ok.mpr ⟨field, hfind,
      Or.inr ⟨argument.name, argument, rfl, find?_of_mem harguments hargument, rfl⟩⟩

/-- A point behind a whole type is passed over. -/
theorem Denotes.resolve_trailing {name : String} (h : schema.Denotes name declaration)
    (htype : declaration.coordinate = .type name) (hspelled : schema.Spelled) :
    schema.resolve (name ++ ".") = .ok declaration := by
  cases h with
  | @type type hnamed =>
    have hpoint := point_not_mem (hspelled.isName_of_named? hnamed)
    rw [resolve_of_read (Reference.ofText_trailing hpoint) hnamed]
    exact TypeDefinition.resolve_of_stopsHere rfl
  | @unknownKind name hentry =>
    have hread := Reference.ofText_trailing (point_not_mem (hspelled.isName_of_get? hentry))
    rw [resolve_of_unknownKind (by rw [hread]; exact hentry), hread]
    rfl
  | value | inputField | field | argument => cases htype

/-- A coordinate is the text of what it means. -/
theorem Denotes.text_eq (h : schema.Denotes text declaration) :
    text = declaration.coordinate.toText := by
  cases h <;> rfl

/-! ### The texts of a declaration -/

/-- **Which texts name a declaration.** A text resolves to what it means as a coordinate, and
besides a whole type is resolved from its name and a point. So two texts of one declaration differ
at most in this point. All other texts fail, and a call that meets one flags nothing from there
on. -/
theorem resolve_iff_denotes (hdistinct : schema.Distinct) (hspelled : schema.Spelled) :
    (∀ text declaration, schema.resolve text = .ok declaration ↔
      schema.Denotes text declaration ∨ ∃ name, text = name ++ "." ∧
        declaration.coordinate = .type name ∧ schema.Denotes name declaration) ∧
    (∀ text other declaration declaration', schema.resolve text = .ok declaration →
      schema.resolve other = .ok declaration' →
      declaration.coordinate = declaration'.coordinate →
      text = other ∨ ∃ name, declaration.coordinate = .type name ∧
        (text = name ∧ other = name ++ "." ∨ text = name ++ "." ∧ other = name)) ∧
    ∀ text, (∀ declaration, schema.resolve text ≠ .ok declaration) → ∃ error : CoordinateError,
      schema.resolve text = .error error ∧
      ∀ shared rest, schema.mark shared (text :: rest) = ((schema, shared), some error) := by
  refine ⟨fun text declaration => ⟨exists_denotes, ?_⟩, ?_, fun text hnone => ?_⟩
  · rintro (hdenotes | ⟨name, rfl, htype, hdenotes⟩)
    · exact hdenotes.resolve_eq hdistinct hspelled
    · exact hdenotes.resolve_trailing htype hspelled
  · intro text other declaration declaration' htext hother hsame
    -- each of the two texts is that of the coordinate, or has a point behind it
    have hspelling : ∀ {text declaration}, schema.resolve text = .ok declaration →
        text = declaration.coordinate.toText ∨ ∃ name, declaration.coordinate = .type name ∧
          text = name ++ "." := by
      intro text declaration hresolve
      rcases exists_denotes hresolve with hdenotes | ⟨name, rfl, htype, -⟩
      · exact Or.inl hdenotes.text_eq
      · exact Or.inr ⟨name, htype, rfl⟩
    have hname : ∀ {name}, declaration.coordinate = .type name →
        declaration.coordinate.toText = name := by
      intro name htype
      rw [htype]
      rfl
    rcases hspelling htext with rfl | ⟨name, htype, rfl⟩
    · rcases hspelling hother with rfl | ⟨name, htype, rfl⟩
      · exact Or.inl (congrArg Coordinate.toText hsame)
      · rw [← hsame] at htype
        exact Or.inr ⟨name, htype, Or.inl ⟨hname htype, rfl⟩⟩
    · rcases hspelling hother with rfl | ⟨name', htype', rfl⟩
      · rw [← hsame]
        exact Or.inr ⟨name, htype, Or.inr ⟨rfl, hname htype⟩⟩
      · rw [← hsame, htype, Coordinate.type.injEq] at htype'
        exact Or.inl (by rw [htype'])
  · cases hresolve : schema.resolve text with
    | ok declaration => exact absurd hresolve (hnone declaration)
    | error error => exact ⟨error, rfl, fun shared rest => mark_of_resolve_error hresolve rest⟩

/-- The text of a type with one field and of a root that answers it. -/
def userText : String :=
  "type User \x7b id: Int \x7d type Query \x7b user: User \x7d"

/-- The schema of this text. -/
def userSchema : Schema :=
  (ofText userText).toOption.getD ⟨[], [], [], [], []⟩

theorem ofText_userText : ofText userText = .ok userSchema := by
  have hread : (ofText userText).toOption.isSome = true := by decide +kernel
  obtain ⟨schema, hschema⟩ := Option.isSome_iff_exists.mp hread
  rw [userSchema, hschema]
  exact Fallible.toOption_eq_some.mp hschema

theorem denotes_user : ∃ type, type.name = "User" ∧ userSchema.Denotes "User" (.ofType type) := by
  have hnamed : (userSchema.named? "User").isSome = true := by decide +kernel
  obtain ⟨type, htype⟩ := Option.isSome_iff_exists.mp hnamed
  have hname := name_of_named? htype
  refine ⟨type, hname, ?_⟩
  rw [← hname] at htype ⊢
  exact .type htype

/-- A schema that was read from a text keeps its names apart and spells them as the language does;
in it the type resolves from its name and from its name with a point. -/
theorem resolve_iff_denotes_of_text :
    userSchema.Distinct ∧ userSchema.Spelled ∧ ∃ declaration,
      userSchema.resolve "User" = .ok declaration ∧
        userSchema.resolve "User." = .ok declaration := by
  have hdistinct := (ofText_isBuilt ofText_userText).distinct
  have hspelled := ofText_spelled ofText_userText
  obtain ⟨hiff, -, -⟩ := resolve_iff_denotes hdistinct hspelled
  obtain ⟨type, hname, hdenotes⟩ := denotes_user
  exact ⟨hdistinct, hspelled, .ofType type, (hiff _ _).mpr (Or.inl hdenotes),
    (hiff _ _).mpr (Or.inr ⟨"User", rfl, congrArg Coordinate.type hname, hdenotes⟩)⟩

/-- **A point behind a type marks the whole type.** The text has none of the forms of a coordinate,
but it resolves as the name of the type does, and a call with it makes the type private. -/
theorem marks_whole_type :
    (∀ declaration, ¬ userSchema.Denotes "User." declaration) ∧
      (∃ declaration, userSchema.resolve "User" = .ok declaration ∧
        userSchema.resolve "User." = .ok declaration) ∧
      (userSchema.mark [] ["User."]).2 = none ∧
      (userSchema.mark [] ["User."]).1.1.scan (userSchema.mark [] ["User."]).1.2 =
        .ok [⟨Record.topLevel, "User"⟩] := by
  have hdistinct := (ofText_isBuilt ofText_userText).distinct
  have hspelled := ofText_spelled ofText_userText
  obtain ⟨type, hname, hdenotes⟩ := denotes_user
  have hpoint : "User." = "User" ++ "." := by decide
  have htrailing : userSchema.resolve "User." = .ok (.ofType type) := by
    rw [hpoint]
    exact hdenotes.resolve_trailing (congrArg Coordinate.type hname) hspelled
  have hscan : ((userSchema.mark [] ["User."]).1.1.scan
      (userSchema.mark [] ["User."]).1.2).toOption = some [⟨Record.topLevel, "User"⟩] := by
    decide +kernel
  refine ⟨fun declaration hother => ?_,
    ⟨.ofType type, hdenotes.resolve_eq hdistinct hspelled, htrailing⟩, by decide +kernel,
    Fallible.toOption_eq_some.mp hscan⟩
  obtain rfl := Except.ok.inj (htrailing.symm.trans (hother.resolve_eq hdistinct hspelled))
  have htext : "User." = type.name := hother.text_eq
  rw [hname] at htext
  exact absurd htext (by decide)

end Schema

end SchemaVisibility
