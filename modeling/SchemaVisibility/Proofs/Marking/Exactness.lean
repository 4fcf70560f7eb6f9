import SchemaVisibility.Proofs.Marking.Scan

/-! # How exact a scanned registry is

One index holds the records of all kinds of declarations: a whole type stands under a reserved
owner, a member under the name of its type, and an argument under the name of its field. In a valid
schema that was built, the members of a type have names of their own (`nodup_memberNames`) and no
type bears a reserved name. So nothing but a marked argument can stand in for a member, and it does
if a field is named like a type (`isPrivate_ofRecords_iff`). Nothing keeps a schema from naming a
field so (`private_by_argument`).
-/

namespace SchemaVisibility

open GraphQL

/-! ### The members of a type have names of their own -/

namespace GraphQL.Document

/-- The types and the extensions of a document, up to their order. -/
theorem perm_allTypes (document : Document) :
    (document.declaredTypes ++ document.typeExtensions).Perm document.allTypes := by
  obtain ⟨definitions⟩ := document
  simp only [declaredTypes, typeExtensions, allTypes]
  induction definitions with
  | nil => exact List.Perm.nil
  | cons definition rest ih =>
    cases definition with
    | type type => exact ih.cons type
    | typeExtension extension =>
      exact List.perm_middle.trans (ih.cons extension)
    | operation | fragment | root | rootExtension | directive => exact ih

end GraphQL.Document

namespace Rules

theorem nodup_of_repetitions {names : List String} (h : repetitions names = []) :
    names.Nodup := by
  rw [repetitions, List.map_eq_nil_iff] at h
  exact nodup_of_repeatedNames h

/-- A document without violations gives no name to two members of a type, wherever in the document
they are declared. -/
theorem nodup_membersByName {document : Document} (h : violations document = []) (name : String) :
    ((document.allTypes.filter fun type => type.name = name).flatMap memberNames).Nodup := by
  simp only [violations, repeatedMembers, List.append_eq_nil_iff, List.flatMap_eq_nil_iff] at h
  have hrepeated := h.1.1.1.1.1.1.2.1
  by_cases hname : name ∈ document.allTypes.map TypeDefinition.name
  · exact nodup_of_repetitions (hrepeated name (List.mem_eraseDups.mpr hname))
  · have hnone : (document.allTypes.filter fun type => type.name = name) = [] := by
      rw [List.filter_eq_nil_iff]
      intro type ht heq
      exact hname (List.mem_map.mpr ⟨type, ht, by simpa using heq⟩)
    rw [hnone]
    exact List.nodup_nil

/-- An extension adds at most its own members. -/
theorem memberNames_append_sublist (type extension : TypeDefinition) (directives : List Directive) :
    (memberNames { type with
      directives := directives
      content := type.content.append extension.content }).Sublist
      (memberNames type ++ memberNames extension) := by
  obtain ⟨name, written, content⟩ := type
  obtain ⟨other, more, added⟩ := extension
  cases content <;> cases added <;> simp [memberNames, TypeContent.append]

end Rules

namespace Schema

variable {schema : Schema} {shared : Extensions} {type : TypeDefinition}

/-- The members of an extended type come from the type and from its extensions. -/
theorem memberNames_extended_sublist (extensions : List TypeDefinition) (type : TypeDefinition) :
    (Rules.memberNames (extended extensions type)).Sublist
      (Rules.memberNames type ++
        (extensions.filter fun extension => extension.name = type.name).flatMap
          Rules.memberNames) := by
  rw [extended]
  generalize (extensions.filter fun extension => extension.name = type.name) = own
  induction own generalizing type with
  | nil => simp
  | cons extension rest ih =>
    rw [List.foldl_cons, List.flatMap_cons, ← List.append_assoc]
    refine (ih _).trans ?_
    exact (Rules.memberNames_append_sublist type extension _).append (List.Sublist.refl _)

/-- **The members of a built type have names of their own.** -/
theorem nodup_memberNames (h : schema.IsBuilt) (ht : type ∈ schema.types) :
    (Rules.memberNames type).Nodup := by
  obtain ⟨document, base, hbase, hschema⟩ := h
  obtain ⟨hviolations, htypes, -⟩ := ofDocument_ok hbase
  rw [hschema] at ht
  have hdeclared : type ∈ declared document := by
    rw [htypes] at ht
    exact List.mem_of_mem_filter ht
  obtain ⟨bare, hbare, rfl⟩ := List.mem_map.mp hdeclared
  let named (type : TypeDefinition) : Bool := type.name = bare.name
  have hall : ((document.declaredTypes.filter named).flatMap Rules.memberNames ++
      (document.typeExtensions.filter named).flatMap Rules.memberNames).Nodup := by
    rw [← List.flatMap_append, ← List.filter_append]
    refine ((document.perm_allTypes.filter named).flatMap_right _).nodup_iff.mpr ?_
    exact Rules.nodup_membersByName hviolations bare.name
  have hown : (Rules.memberNames bare).Sublist
      ((document.declaredTypes.filter named).flatMap Rules.memberNames) := by
    rw [List.flatMap_def]
    refine List.sublist_flatten_of_mem (List.mem_map_of_mem ?_)
    exact List.mem_filter.mpr ⟨hbare, by simp [named]⟩
  exact ((memberNames_extended_sublist _ bare).trans
    (hown.append (List.Sublist.refl _))).nodup hall

end Schema

/-! ### The declarations of a type -/

namespace GraphQL.TypeDefinition

variable {type : TypeDefinition} {declaration : Declaration}

/-- The fields, input fields or values of a type with the directives written on them. -/
def ownMembers (type : TypeDefinition) : List (String × List Directive) :=
  match type.content with
  | .scalar | .union _ => []
  | .object _ fields | .interface _ fields => fields.map fun field => (field.name, field.directives)
  | .enum values => values.map fun value => (value.name, value.directives)
  | .input fields => fields.map fun field => (field.name, field.directives)

theorem map_fst_ownMembers (type : TypeDefinition) :
    type.ownMembers.map Prod.fst = Rules.memberNames type := by
  obtain ⟨name, directives, content⟩ := type
  cases content <;> simp [ownMembers, Rules.memberNames]

/-- Only objects and interfaces have fields of their own. -/
theorem content_of_fields? {fields : List FieldDefinition} (h : type.fields? = some fields) :
    ∃ interfaces, type.content = .object interfaces fields ∨
      type.content = .interface interfaces fields := by
  obtain ⟨name, directives, content⟩ := type
  cases content with
  | object interfaces own => exact ⟨interfaces, Or.inl (congrArg _ (Option.some.inj h))⟩
  | interface interfaces own => exact ⟨interfaces, Or.inr (congrArg _ (Option.some.inj h))⟩
  | scalar | union | enum | input => cases h

/-- The members of an object or an interface are its fields. -/
theorem ownMembers_of_fields? {fields : List FieldDefinition} (h : type.fields? = some fields) :
    type.ownMembers = fields.map fun field => (field.name, field.directives) := by
  obtain ⟨_, hcontent | hcontent⟩ := content_of_fields? h <;> rw [ownMembers, hcontent]

theorem memberNames_of_fields? {fields : List FieldDefinition} (h : type.fields? = some fields) :
    Rules.memberNames type = fields.map FieldDefinition.name := by
  rw [← map_fst_ownMembers, ownMembers_of_fields? h, List.map_map]
  rfl

theorem mem_ownMembers_of_field {field : FieldDefinition} (h : field ∈ type.fields?.getD []) :
    (field.name, field.directives) ∈ type.ownMembers := by
  obtain ⟨name, directives, content⟩ := type
  cases content with
  | object _ fields | interface _ fields => exact List.mem_map.mpr ⟨field, h, rfl⟩
  | scalar | union | enum | input => cases h

theorem eq_of_mem_ownMembers {member : String} {directives other : List Directive}
    (hnodup : (Rules.memberNames type).Nodup) (h : (member, directives) ∈ type.ownMembers)
    (ho : (member, other) ∈ type.ownMembers) : directives = other := by
  rw [← map_fst_ownMembers] at hnodup
  exact congrArg Prod.snd (List.inj_on_of_nodup_map hnodup h ho rfl)

theorem mem_ofField {name : String} {field : FieldDefinition} :
    declaration ∈ Declaration.ofField name field ↔
      declaration = .ofMember name field.name field.directives ∨
        ∃ argument ∈ field.arguments, declaration = .ofArgument name field.name argument := by
  rw [Declaration.ofField, List.mem_cons, List.mem_map]
  simp only [eq_comm]

/-- A declaration of a type is the type, one of its members, or an argument of one of its fields. -/
theorem mem_declarations_iff :
    declaration ∈ type.declarations ↔
      declaration = .ofType type ∨
      (∃ member ∈ type.ownMembers, declaration = .ofMember type.name member.1 member.2) ∨
      ∃ field ∈ type.fields?.getD [], ∃ argument ∈ field.arguments,
        declaration = .ofArgument type.name field.name argument := by
  obtain ⟨name, directives, content⟩ := type
  rw [declarations, List.mem_cons]
  refine or_congr_right ?_
  cases content with
  | scalar | union => simp [ownMembers, fields?]
  | enum | input => simp [ownMembers, fields?, eq_comm]
  | object _ fields | interface _ fields =>
    simp only [List.mem_flatMap, mem_ofField, ownMembers, fields?, List.mem_map, Option.getD_some,
      and_or_left, exists_or, exists_exists_and_eq_and]

/-- What is declared as a member is a member. -/
theorem mem_ownMembers {member : String} {directives : List Directive}
    (h : .ofMember type.name member directives ∈ type.declarations) :
    (member, directives) ∈ type.ownMembers := by
  rcases mem_declarations_iff.mp h with htype | ⟨other, hmember, heq⟩ | ⟨field, -, argument, -, heq⟩
  · exact absurd (congrArg Declaration.coordinate htype) (by simp [Declaration.ofMember,
      Declaration.ofType])
  · simp only [Declaration.ofMember, Declaration.mk.injEq, Coordinate.member.injEq] at heq
    obtain ⟨⟨-, rfl⟩, -, rfl⟩ := heq
    exact hmember
  · exact absurd (congrArg Declaration.coordinate heq) (by simp [Declaration.ofMember,
      Declaration.ofArgument])

end GraphQL.TypeDefinition

/-! ### Exactness -/

namespace Schema

variable {schema : Schema} {shared : Extensions} {type : TypeDefinition}

/-- Some type has a field of this name that takes a marked argument of that name. -/
def MarksArgument (schema : Schema) (shared : Extensions) (field argument : String) : Prop :=
  ∃ type ∈ schema.types, ∃ declaring ∈ type.fields?.getD [], declaring.name = field ∧
    ∃ taken ∈ declaring.arguments, taken.name = argument ∧
      schema.isPrivate shared (.ofArgument type.name declaring.name taken) = true

theorem isReserved_topLevel : isReserved Record.topLevel = true := by decide +kernel

theorem mem_recordsOf_iff {name : String} {record : Record} :
    record ∈ schema.recordsOf shared name ↔ isReserved name = false ∧
      ∃ type, schema.definition? name = some type ∧ ∃ declaration ∈ type.declarations,
        schema.isPrivate shared declaration = true ∧ declaration.record = record := by
  rw [recordsOf]
  by_cases hname : isReserved name = true
  · simp [hname]
  · cases hdefined : schema.definition? name with
    | none => simp [hname]
    | some type => simp [hname, and_assoc]

/-- The standard types with members are those of introspection. -/
theorem isReserved_of_ownMembers (h : type ∈ Standard.types) (hmembers : type.ownMembers ≠ []) :
    isReserved type.name = true := by
  have hall : ∀ type ∈ Standard.types, type.ownMembers ≠ [] → isReserved type.name = true := by
    decide +kernel
  exact hall type h hmembers

/-- A type with members whose name is not reserved is declared. -/
theorem mem_types_of_ownMembers {name : String} (h : schema.definition? name = some type)
    (hname : isReserved name = false) (hmembers : type.ownMembers ≠ []) :
    type ∈ schema.types := by
  refine (standard_or_mem_types h).resolve_left fun hstandard => ?_
  rw [← name_of_definition? h, isReserved_of_ownMembers hstandard hmembers] at hname
  cases hname

/-- **A scanned registry is exact for members, up to arguments of fields that are named like the
type.** In a valid schema that was built a scan gives records, and by these a member of a type is
private exactly if it is marked itself or a field with the type's name takes a marked argument with
the member's name. -/
theorem isPrivate_ofRecords_iff (hbuilt : schema.IsBuilt) (hvalid : schema.isValid = true)
    (shared : Extensions) :
    ∃ records, schema.scan shared = .ok records ∧
      ∀ name type, schema.definition? name = some type → isReserved name = false →
        ∀ member directives, .ofMember name member directives ∈ type.declarations →
          ((Registry.ofRecords records).isPrivate name member = true ↔
            schema.isPrivate shared (.ofMember name member directives) = true ∨
              schema.MarksArgument shared name member) := by
  obtain ⟨records, hscan, hrecords⟩ := exists_scan hbuilt.regular hvalid shared
  have hexact : records = schema.entries.flatMap fun entry => schema.recordsOf shared entry.1 :=
    Except.ok.inj (hscan.symm.trans (scan_eq fun entry he _ => hbuilt.regular.known entry he))
  refine ⟨records, hscan, fun name type hdefined hname member directives hdeclared => ?_⟩
  obtain rfl := name_of_definition? hdefined
  have hmember := TypeDefinition.mem_ownMembers hdeclared
  have htype : type ∈ schema.types :=
    mem_types_of_ownMembers hdefined hname (List.ne_nil_of_mem hmember)
  rw [Registry.isPrivate_iff]
  change (⟨type.name, member⟩ : Record) ∈ records ↔ _
  constructor
  · intro hrecord
    rw [hexact] at hrecord
    obtain ⟨entry, -, hrecord⟩ := List.mem_flatMap.mp hrecord
    obtain ⟨hentry, owner, howner, declaration, hdeclaration, hprivate, heq⟩ :=
      mem_recordsOf_iff.mp hrecord
    -- Which kind of declaration has left the record?
    rcases TypeDefinition.mem_declarations_iff.mp hdeclaration with
      rfl | ⟨other, hother, rfl⟩ | ⟨field, hfield, argument, hargument, rfl⟩
    · have hroot : Record.topLevel = type.name := congrArg Record.owner heq
      rw [← hroot, isReserved_topLevel] at hname
      cases hname
    · obtain ⟨hsame, rfl⟩ := Record.mk.inj heq
      have hown : owner = type := by
        rw [← name_of_definition? howner, hsame, hdefined] at howner
        exact (Option.some.inj howner).symm
      subst hown
      rw [TypeDefinition.eq_of_mem_ownMembers (nodup_memberNames hbuilt htype) hmember hother]
      exact Or.inl hprivate
    · obtain ⟨hsame, rfl⟩ := Record.mk.inj heq
      have hfields : owner.ownMembers ≠ [] :=
        List.ne_nil_of_mem (TypeDefinition.mem_ownMembers_of_field hfield)
      have hin : owner ∈ schema.types := mem_types_of_ownMembers howner hentry hfields
      exact Or.inr ⟨owner, hin, field, hfield, hsame, argument, hargument, rfl, hprivate⟩
  · rintro (hprivate | ⟨owner, howner, field, hfield, hsame, argument, hargument, rfl, hprivate⟩)
    · exact hrecords type htype _ hdeclared hprivate
    · have hargued : .ofArgument owner.name field.name argument ∈ owner.declarations :=
        TypeDefinition.mem_declarations_iff.mpr
          (Or.inr (Or.inr ⟨field, hfield, argument, hargument, rfl⟩))
      rw [← hsame]
      exact hrecords owner howner _ hargued hprivate

/-- The document `type Query { user(ssn: Int @private): user } type user { ssn: Int id: Int }`, in
which a field and a type bear one name. -/
def fieldNamedLikeType : Document :=
  ⟨[.directive ⟨"private", [], false, ["ARGUMENT_DEFINITION"]⟩,
    .type ⟨"Query", [], .object [] [⟨"user",
      [⟨"ssn", .named "Int", none, [⟨"private", []⟩]⟩], .named "user", []⟩]⟩,
    .type ⟨"user", [], .object [] [⟨"ssn", [], .named "Int", []⟩, ⟨"id", [], .named "Int", []⟩]⟩]⟩

theorem exists_fieldNamedLikeType :
    ∃ (schema : Schema) (type : TypeDefinition) (records : List Record), schema.IsBuilt ∧
      schema.isValid = true ∧ schema.scan [] = .ok records ∧
      schema.definition? "user" = some type ∧
      .ofMember "user" "ssn" [] ∈ type.declarations ∧ .ofMember "user" "id" [] ∈ type.declarations ∧
      schema.isPrivate [] (.ofMember "user" "ssn" []) = false ∧
      (Registry.ofRecords records).isPrivate "user" "ssn" = true := by
  have htest : ((ofDocument fieldNamedLikeType).toOption.any fun schema => schema.isValid &&
      !schema.isPrivate [] (.ofMember "user" "ssn" []) &&
      ((schema.definition? "user").any fun type =>
        (type.ownMembers.any fun member => decide (member.1 = "ssn") && member.2.isEmpty) &&
        type.ownMembers.any fun member => decide (member.1 = "id") && member.2.isEmpty) &&
      (schema.scan []).toOption.any fun records =>
        (Registry.ofRecords records).isPrivate "user" "ssn") = true := by
    decide +kernel
  simp only [Option.any_eq_true, Bool.and_eq_true, Bool.not_eq_true', List.any_eq_true,
    decide_eq_true_eq, List.isEmpty_iff, Fallible.toOption_eq_some] at htest
  obtain ⟨schema, hschema, ⟨⟨hvalid, hunmarked⟩, type, hdefined, ⟨⟨_, _⟩, hssn, rfl, rfl⟩,
    ⟨_, _⟩, hid, rfl, rfl⟩, records, hscan, hprivate⟩ := htest
  have hname : type.name = "user" := name_of_definition? hdefined
  have hdeclared : ∀ member ∈ type.ownMembers,
      .ofMember "user" member.1 member.2 ∈ type.declarations := by
    intro member hmember
    rw [TypeDefinition.mem_declarations_iff, hname]
    exact Or.inr (Or.inl ⟨member, hmember, rfl⟩)
  exact ⟨schema, type, records, ⟨_, schema, hschema, rfl⟩, hvalid, hscan, hdefined,
    hdeclared _ hssn, hdeclared _ hid, hunmarked, hprivate⟩

/-- Two members of a type that bears the name of a field with a marked argument. -/
theorem isPrivate_ofRecords_iff_of_field_named_like_type :
    ∃ (schema : Schema) (type : TypeDefinition) (records : List Record), schema.IsBuilt ∧
      schema.isValid = true ∧ schema.scan [] = .ok records ∧
      schema.definition? "user" = some type ∧ isReserved "user" = false ∧
      .ofMember "user" "ssn" [] ∈ type.declarations ∧ .ofMember "user" "id" [] ∈ type.declarations ∧
      ((Registry.ofRecords records).isPrivate "user" "ssn" = true ↔
        schema.isPrivate [] (.ofMember "user" "ssn" []) = true ∨
          schema.MarksArgument [] "user" "ssn") ∧
      ((Registry.ofRecords records).isPrivate "user" "id" = true ↔
        schema.isPrivate [] (.ofMember "user" "id" []) = true ∨
          schema.MarksArgument [] "user" "id") := by
  obtain ⟨schema, type, _, hbuilt, hvalid, -, hdefined, hssn, hid, -⟩ := exists_fieldNamedLikeType
  have hname : isReserved "user" = false := by decide +kernel
  obtain ⟨records, hscan, hexact⟩ := isPrivate_ofRecords_iff hbuilt hvalid []
  exact ⟨schema, type, records, hbuilt, hvalid, hscan, hdefined, hname, hssn, hid,
    hexact "user" type hdefined hname "ssn" [] hssn, hexact "user" type hdefined hname "id" [] hid⟩

/-- **A marked argument makes a member private that is not marked itself.** -/
theorem private_by_argument :
    ∃ (schema : Schema) (type : TypeDefinition) (records : List Record), schema.IsBuilt ∧
      schema.isValid = true ∧ schema.scan [] = .ok records ∧
      schema.definition? "user" = some type ∧ isReserved "user" = false ∧
      .ofMember "user" "ssn" [] ∈ type.declarations ∧
      schema.isPrivate [] (.ofMember "user" "ssn" []) = false ∧
      (Registry.ofRecords records).isPrivate "user" "ssn" = true := by
  obtain ⟨schema, type, records, hbuilt, hvalid, hscan, hdefined, hssn, -, hunmarked, hprivate⟩ :=
    exists_fieldNamedLikeType
  exact ⟨schema, type, records, hbuilt, hvalid, hscan, hdefined, by decide +kernel, hssn,
    hunmarked, hprivate⟩

end Schema

end SchemaVisibility
