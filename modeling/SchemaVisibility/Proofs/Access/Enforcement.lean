import SchemaVisibility.Proofs.Access.Completeness
import SchemaVisibility.Proofs.Introspection.Hiding

/-! # One set of private members

Redaction takes private members out of what introspection tells, and the rule denies their use. The
two share nothing but the registry: one walks a result along the selections of an operation, the
other follows the types along the visit of a document. Yet they agree on what is private
(`hidden_iff_denied`). What is listed and private is taken out (`Introspection.Listing.lists_iff`),
what is private is denied wherever a document uses it (`Uses.exists_enter_eq_cons`), and what is
denied is private, because every denial is of a record (`record_mem_of_reported`).
-/

namespace SchemaVisibility

open GraphQL Introspection

/-! ### Fields of declared types -/

namespace Schema

variable {schema : Schema} {type : TypeDefinition} {member : String}

/-- No declared field is answered with a type of introspection. -/
def AnswersOwnTypes (schema : Schema) : Prop :=
  ∀ type ∈ schema.types, ∀ field ∈ type.fields?.getD [],
    Standard.isIntrospection field.type.core = false

/-- A field that is not of introspection is one that its parent declares. -/
theorem fieldOf?_eq (hname : isReserved member = false) :
    schema.fieldOf? type member = type.field? member := by
  have hne : ∀ name, isReserved name = true → member ≠ name := by
    rintro name hreserved rfl
    rw [hname] at hreserved
    cases hreserved
  have hschema : member ≠ "__schema" := hne _ (by decide +kernel)
  have htype : member ≠ "__type" := hne _ (by decide +kernel)
  have htypename : member ≠ "__typename" := hne _ (by decide +kernel)
  simp [fieldOf?, hschema, htype, htypename]

end Schema

namespace Access

variable {registry : Registry} {schema : Schema} {scope : Scope} {memory : Memory}
  {type : TypeDefinition} {member : String} {node : Node} {position : Position}

/-! ### From records to denials -/

/-- **A node uses a member of a type**: a field is selected on the type, or a field of an object
literal or an enum literal is given where the type is expected, be it in lists or never null. -/
inductive Uses (scope : Scope) (type : TypeDefinition) (member : String) :
    Node → Position → Prop
  | field {head : FieldHead} : scope.parent = some type → head.name = member →
      Uses scope type member (.field head) head.position
  | objectField {label : Label} {expected : TypeRef} {fields : List InputDefinition} :
      type.content = .input fields → scope.input = some expected → expected.core = type.name →
      label.text = member → Uses scope type member (.objectField label) label.position
  | enumValue {label : Label} {expected : TypeRef} {values : List EnumValueDefinition} :
      type.content = .enum values → scope.input = some expected → expected.core = type.name →
      label.text = member → Uses scope type member (.enumValue label) label.position

theorem checkMember_of_isPrivate {label : Label} {owner : String}
    (h : registry.isPrivate owner label.text = true) :
    checkMember registry label owner = [⟨label.position, .member label.text owner⟩] :=
  if_pos h

theorem checkObjectField_eq_checkMember {label : Label} {expected : TypeRef}
    {fields : List InputDefinition} (houter : scope.outerInput = some expected)
    (hdefined : schema.definition? expected.core = some type)
    (hcontent : type.content = .input fields) :
    checkObjectField registry schema scope label = checkMember registry label type.name := by
  obtain ⟨name, directives, content⟩ := type
  obtain rfl : content = .input fields := hcontent
  rw [checkObjectField, houter, Option.some_or]
  simp only [hdefined]

theorem checkEnumValue_eq_checkMember {label : Label} {expected : TypeRef}
    {values : List EnumValueDefinition} (hinput : scope.input = some expected)
    (hdefined : schema.definition? expected.core = some type)
    (hcontent : type.content = .enum values) :
    checkEnumValue registry schema scope label = checkMember registry label type.name := by
  obtain ⟨name, directives, content⟩ := type
  obtain rfl : content = .enum values := hcontent
  rw [checkEnumValue, hinput]
  simp only [hdefined]

/-- A type with members on which fields are selected is the first of their owners. -/
theorem exists_ownerNames_eq_cons (schema : Schema) (hcomposite : type.isComposite = true)
    (hmember : member ∈ Rules.memberNames type) :
    ∃ others, ownerNames schema type = type.name :: others := by
  rw [TypeDefinition.isComposite] at hcomposite
  rw [Rules.memberNames] at hmember
  cases hcontent : type.content with
  | object interfaces fields =>
    simp only [ownerNames, objectsOf, hcontent, List.nil_append, List.flatMap_cons,
      List.cons_append, List.eraseDups_cons]
    exact ⟨_, rfl⟩
  | interface interfaces fields =>
    simp only [ownerNames, objectsOf, hcontent, List.cons_append, List.eraseDups_cons]
    exact ⟨_, rfl⟩
  | union members =>
    rw [hcontent] at hmember
    cases hmember
  | _ =>
    rw [hcontent] at hcomposite
    cases hcomposite

/-- A private member of its own parent is the first thing denied at a field. -/
theorem exists_checkField_eq_cons_self {head : FieldHead} (hparent : scope.parent = some type)
    (hcomposite : type.isComposite = true) (hmember : head.name ∈ Rules.memberNames type)
    (hprivate : registry.isPrivate type.name head.name = true) :
    ∃ later, checkField registry schema scope head =
      ⟨head.position, .member head.name type.name⟩ :: later := by
  obtain ⟨others, howners⟩ := exists_ownerNames_eq_cons schema hcomposite hmember
  have hdenied : checkMember registry ⟨head.position, head.name⟩ type.name =
      [⟨head.position, .member head.name type.name⟩] := if_pos hprivate
  rw [checkField, hparent, Option.map_some, Option.getD_some, howners, List.flatMap_cons, hdenied]
  exact ⟨_, rfl⟩

/-- A field that a type of the schema declares is not exempt there. -/
theorem isExempt_eq_false (hregular : schema.Regular) (hvalid : schema.isValid = true)
    (hanswers : schema.AnswersOwnTypes) (htype : type ∈ schema.types) {head : FieldHead}
    (hmember : head.name ∈ Rules.memberNames type) (hparent : scope.parent = some type) :
    isExempt (schema.enter scope (.field head)) = false := by
  have hfield : schema.fieldOf? type head.name = type.field? head.name :=
    Schema.fieldOf?_eq (hregular.not_isReserved_member hvalid htype hmember)
  have houtput : (schema.enter scope (.field head)).output =
      (type.field? head.name).bind fun field => schema.asOutput field.type := by
    rw [← hfield]
    show ((scope.parent.bind fun parent => schema.fieldOf? parent head.name).bind fun field =>
      schema.asOutput field.type) = _
    rw [hparent, Option.bind_some]
  have hentered : (schema.enter scope (.field head)).parent = some type := hparent
  rw [isExempt, hentered, houtput, Bool.or_eq_false_iff, Option.any_eq_false]
  refine ⟨fun answer hanswer => ?_, hregular.not_isIntrospection htype⟩
  obtain ⟨field, hfound, hanswer⟩ := Option.bind_eq_some_iff.mp hanswer
  obtain ⟨fields, hfields, hfound⟩ := Option.bind_eq_some_iff.mp hfound
  rw [Schema.asOutput] at hanswer
  split at hanswer
  · cases hanswer
    refine hanswers type htype field ?_
    rw [hfields]
    exact List.mem_of_find?_eq_some hfound
  · cases hanswer

/-- **A private member is denied where it is used**, before anything else is denied there. -/
theorem Uses.exists_enter_eq_cons (hregular : schema.Regular) (hvalid : schema.isValid = true)
    (hanswers : schema.AnswersOwnTypes) (htype : type ∈ schema.types)
    (hmember : member ∈ Rules.memberNames type)
    (hparent : ∀ parent, scope.parent = some parent → parent.isComposite = true)
    (hprivate : registry.isPrivate type.name member = true)
    (h : Uses scope type member node position) (memory : Memory) :
    ∃ later, (enter registry schema (schema.enter scope node) memory node).2 =
      ⟨position, .member member type.name⟩ :: later := by
  cases h with
  | @field head hscope hname =>
    subst hname
    have hexempt := isExempt_eq_false hregular hvalid hanswers htype hmember hscope
    have hentered : (schema.enter scope (.field head)).parent = some type := hscope
    obtain ⟨later, hdenied⟩ : ∃ later, checkField registry schema
        (schema.enter scope (.field head)) head = _ :: later :=
      exists_checkField_eq_cons_self hentered (hparent type hscope) hmember hprivate
    refine ⟨later, ?_⟩
    rw [enter, hexempt, ← hdenied]
    rfl
  | @objectField label expected fields hcontent hexpected hcore hname =>
    subst hname
    have hdefined : schema.definition? expected.core = some type :=
      hcore ▸ hregular.definition?_eq htype
    -- the type around the field's own is that of the literal
    have houter : (schema.enter scope (.objectField label)).outerInput = some expected := hexpected
    rw [enter, checkObjectField_eq_checkMember houter hdefined hcontent,
      checkMember_of_isPrivate hprivate]
    exact ⟨[], rfl⟩
  | @enumValue label expected values hcontent hexpected hcore hname =>
    subst hname
    have hdefined : schema.definition? expected.core = some type :=
      hcore ▸ hregular.definition?_eq htype
    have hinput : (schema.enter scope (.enumValue label)).input = some expected := hexpected
    rw [enter, checkEnumValue_eq_checkMember hinput hdefined hcontent,
      checkMember_of_isPrivate hprivate]
    exact ⟨[], rfl⟩

/-! ### From denials to records -/

/-- The record that a denial is based on. -/
def Reason.record : Reason → Record
  | .member name type => ⟨type, name⟩
  | .argument name field => ⟨field, name⟩
  | .type name _ => ⟨Record.topLevel, name⟩

variable {denial : Denial}

/-- What is denied if its record is private is on record. -/
theorem record_mem_of_mem_ite {only : Denial} {owner name : String}
    (h : denial ∈ if registry.isPrivate owner name then [only] else [])
    (hrecord : only.reason.record = ⟨owner, name⟩) : denial.reason.record ∈ registry.records := by
  split at h
  · next hprivate =>
    obtain rfl := List.mem_singleton.mp h
    rw [hrecord]
    exact (registry.isPrivate_iff owner name).mp hprivate
  · cases h

theorem record_mem_of_mem_checkMember {label : Label} {owner : String}
    (h : denial ∈ checkMember registry label owner) : denial.reason.record ∈ registry.records := by
  rw [checkMember] at h
  exact record_mem_of_mem_ite h rfl

theorem record_mem_of_mem_checkType {position : Position} {answer : Option TypeRef} {place : Place}
    (h : denial ∈ checkType registry position answer place) :
    denial.reason.record ∈ registry.records := by
  cases answer with
  | none => cases h
  | some answer =>
    rw [checkType] at h
    exact record_mem_of_mem_ite h rfl

theorem record_mem_of_mem_checkArgument {label : Label}
    (h : denial ∈ checkArgument registry scope memory label) :
    denial.reason.record ∈ registry.records := by
  unfold checkArgument at h
  split at h
  · rcases List.mem_append.mp h with h | h
    · exact record_mem_of_mem_ite h rfl
    · exact record_mem_of_mem_checkType h
  · cases h

/-- What is denied at a node is on record. -/
theorem record_mem_of_mem_enter (h : denial ∈ (enter registry schema scope memory node).2) :
    denial.reason.record ∈ registry.records := by
  cases node with
  | field head =>
    rw [enter] at h
    split at h
    · cases h
    · rcases List.mem_append.mp h with h | h
      · obtain ⟨owner, -, h⟩ := List.mem_flatMap.mp h
        exact record_mem_of_mem_checkMember h
      · exact record_mem_of_mem_checkType h
  | argument label => exact record_mem_of_mem_checkArgument h
  | declaredVariable label type => exact record_mem_of_mem_checkType h
  | objectField label =>
    rw [enter, checkObjectField] at h
    split at h
    · cases h
    · split at h
      · exact record_mem_of_mem_checkMember h
      · cases h
  | enumValue label =>
    rw [enter, checkEnumValue] at h
    split at h
    · cases h
    · split at h
      · exact record_mem_of_mem_checkMember h
      · cases h
  | _ => cases h

/-- **What is denied is on record**, all along a visit. -/
theorem record_mem_of_mem_run {events : List Event}
    (h : denial ∈ Visit.run schema (.single registry scope memory) events) :
    denial.reason.record ∈ registry.records := by
  induction events generalizing scope memory with
  | nil => cases h
  | cons event events ih =>
    cases event with
    | enter node =>
      rw [Visit.run_enter] at h
      rcases List.mem_append.mp h with h | h
      · exact record_mem_of_mem_enter h
      · exact ih h
    | leave node =>
      rw [Visit.run_leave] at h
      exact ih h

theorem record_mem_of_reported {document : Document} {reports : List Report}
    (hreports : validate schema [some registry] document = .ok reports)
    (h : .denied denial ∈ reports) : denial.reason.record ∈ registry.records := by
  cases hreports
  rcases List.mem_append.mp h with h | h
  · obtain ⟨other, hmem, hother⟩ := List.mem_map.mp h
    cases hother
    exact record_mem_of_mem_run (List.mem_of_mem_take hmem)
  · split at h
    · cases List.mem_singleton.mp h
    · cases h

/-! ### Both -/

/-- **Redaction and the rule keep the same members private.** Take a member of a type that a valid
schema declares, and any registry. Redaction takes the member out of the descriptors of the type
exactly if it is private, and then the rule denies every use of it in every document, and reports
the denial unless the limit was reached before it visits the use. The other way around, whatever the
rule denies as a member of a type, redaction takes out of the descriptors of that type. -/
theorem hidden_iff_denied {schema : Schema} {type : TypeDefinition} {member : String}
    (registry : Registry) (hbuilt : schema.IsBuilt) (hvalid : schema.isValid = true)
    (hanswers : schema.AnswersOwnTypes) (htype : type ∈ schema.types)
    (hmember : member ∈ Rules.memberNames type) :
    (∀ {document operationName data result routes before after key},
      Listing registry document operationName type.name member data result routes before after key →
      (¬ Lists document.fragmentTable routes after key member ↔
        registry.isPrivate type.name member = true)) ∧
    (registry.isPrivate type.name member = true →
      ∀ {document : Document} {before after node position},
        document.events = before ++ .enter node :: after →
        Uses (schema.scopeAfter .empty before) type member node position →
        ∃ reports, validate schema [some registry] document = .ok reports ∧ reports ≠ [] ∧
          (.denied ⟨position, .member member type.name⟩ ∈ reports ∨
            limit ≤ (Visit.run schema (.start [registry]) before).length ∧
              .tooMany ∈ reports)) ∧
    ∀ {document reports position name owner},
      validate schema [some registry] document = .ok reports →
      .denied ⟨position, .member name owner⟩ ∈ reports → Removes registry owner name := by
  refine ⟨fun hlisting => ?_, fun hprivate document before after node position hevents huses => ?_,
    fun hreports hdenied => ?_⟩
  · rw [hlisting.lists_iff, Bool.not_eq_false]
  · have hcomposite : ∀ parent, (schema.scopeAfter .empty before).parent = some parent →
        parent.isComposite = true := fun parent hparent => (Schema.definition?_parent hparent).2
    obtain ⟨memory, later, hdenials⟩ : ∃ memory later, denials schema [registry] document =
        Visit.run schema (.start [registry]) before ++ ((enter registry schema
          (schema.enter (schema.scopeAfter .empty before) node) memory node).2 ++ later) :=
      exists_denials_eq hevents
    obtain ⟨others, hfirst⟩ := huses.exists_enter_eq_cons hbuilt.regular hvalid hanswers htype
      hmember hcomposite hprivate memory
    rw [hfirst, List.cons_append] at hdenials
    exact reported_after hdenials
  · have hrecord := record_mem_of_reported hreports hdenied
    exact removes_of_isPrivate ((registry.isPrivate_iff _ _).mpr hrecord)

/-- The document `{ __type(name: "User") { name fields { name } } }`. -/
def aboutUser : Document :=
  ⟨[.operation ⟨.query, none, [], [],
    [.field ⟨⟨1, 3⟩, none, "__type", [⟨⟨⟨1, 10⟩, "name"⟩, .str "User"⟩], []⟩
      [.field (bareField 26 "name") [],
        .field (bareField 31 "fields") [.field (bareField 40 "name") []]]]⟩]⟩

/-- A private field of an object type, listed in one document and selected in another. -/
theorem hidden_iff_denied_secret :
    ∃ (schema : Schema) (type : TypeDefinition) (registry : Registry)
      (data result before after : Table Json) (routes : List Route), schema.IsBuilt ∧
      schema.isValid = true ∧ schema.AnswersOwnTypes ∧ type ∈ schema.types ∧
      type.name = "User" ∧ "secret" ∈ Rules.memberNames type ∧
      registry.isPrivate "User" "secret" = true ∧
      Listing registry aboutUser none "User" "secret" data result routes before after "fields" ∧
      ¬ Lists aboutUser.fragmentTable routes after "fields" "secret" ∧
      Uses (schema.scopeAfter .empty (beforeInner "user")) type "secret"
        (.field (bareField 9 "secret")) ⟨1, 9⟩ ∧
      ∃ reports, validate schema [some registry] (nestedFields "user" "secret") = .ok reports ∧
        reports ≠ [] ∧
        (.denied ⟨⟨1, 9⟩, .member "secret" "User"⟩ ∈ reports ∨
          limit ≤ (Visit.run schema (.start [registry]) (beforeInner "user")).length ∧
            .tooMany ∈ reports) := by
  let types : Document := ⟨[
    .type ⟨"User", [], .object [] [⟨"id", [], .named "ID", []⟩, ⟨"secret", [], .named "Int", []⟩]⟩,
    .type ⟨"Query", [], .object [] [⟨"user", [], .named "User", []⟩]⟩]⟩
  have htest : ((Schema.ofDocument types).toOption.any fun schema =>
      schema.isValid && (schema.types.all fun type => (type.fields?.getD []).all fun field =>
        !Standard.isIntrospection field.type.core) &&
      (schema.scopeAfter .empty (beforeInner "user")).parent.any fun type =>
        decide (type.name = "User") && decide ("secret" ∈ Rules.memberNames type)) = true := by
    decide +kernel
  simp only [Option.any_eq_true, Bool.and_eq_true, List.all_eq_true, Bool.not_eq_true',
    decide_eq_true_eq, Fallible.toOption_eq_some] at htest
  obtain ⟨schema, hschema, ⟨hvalid, hanswers⟩, type, hparent, hname, hmember⟩ := htest
  have hbuilt : schema.IsBuilt := ⟨types, schema, hschema, rfl⟩
  obtain ⟨hdefined, hcomposite⟩ := Schema.definition?_parent hparent
  have htype : type ∈ schema.types :=
    Schema.mem_types_of_composite hdefined hcomposite (by rw [hname]; decide)
  let registry := Registry.ofRecords [⟨"User", "secret"⟩]
  have hprivate : registry.isPrivate "User" "secret" = true := by decide +kernel
  let entry (name : String) : Table Json := [("name", .str name)]
  let about (fields : List String) : Table Json :=
    [("name", .str "User"), ("fields", .arr (fields.map fun name => .obj (entry name)))]
  let routes := rootRoutes (rootSelection aboutUser none) "__type"
  have hlisting : Listing registry aboutUser none "User" "secret"
      [("__type", .obj (about ["id", "secret"]))] [("__type", .obj (about ["id"]))] routes
      (about ["id", "secret"]) (about ["id"]) "fields" :=
    { redacted := Fallible.toOption_eq_some.mp (by decide +kernel)
      survives := .root rfl rfl
      named := by decide +kernel
      name_ne := by decide
      selects := by
        have hselects : ∃ route ∈ routes, route.kind = .type ∧
            ∃ child ∈ under "fields" (route.children aboutUser.fragmentTable),
              child.name ∈ memberLists := by
          decide +kernel
        obtain ⟨route, hroute, hkind, child, hc, hlist⟩ := hselects
        exact ⟨child, route, hroute, hkind, hc, hlist⟩
      lists := by
        have hnamed : ∀ route ∈ routes,
            ∀ child ∈ under "fields" (route.children aboutUser.fragmentTable),
              Redaction.selected (entry "secret")
                (collect aboutUser.fragmentTable child.selections) "name" =
                .str "secret" := by
          decide +kernel
        exact ⟨_, rfl, entry "secret", by simp,
          fun child ⟨route, hroute, _, hc, _⟩ => hnamed route hroute child hc⟩ }
  have huses : Uses (schema.scopeAfter .empty (beforeInner "user")) type "secret"
      (.field (bareField 9 "secret")) ⟨1, 9⟩ := .field hparent rfl
  have henforced := hidden_iff_denied registry hbuilt hvalid hanswers htype hmember
  rw [hname] at henforced
  exact ⟨schema, type, registry, _, _, _, _, routes, hbuilt, hvalid, hanswers, htype, hname,
    hmember, hprivate, hlisting, (henforced.1 hlisting).mpr hprivate, huses,
    henforced.2.1 hprivate (nestedFields_events "user" "secret") huses⟩

end Access

end SchemaVisibility
