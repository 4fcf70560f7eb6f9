import SchemaVisibility.Proofs.Access.Completeness
import SchemaVisibility.Proofs.Access.Refinement
import SchemaVisibility.Proofs.Traversal.Nesting

/-! # Fields of object literals

An object literal stands where a value is expected, and its fields are denied as members of the
input object that is expected there. `denied_at_objectField` says what the rule denies at such a
field in terms of the nodes around it: where the expected type is known, a field is denied exactly
if that type is an input object with a record of the field.

Where the expected type is not known, the rule takes the type of the argument around the literal
instead, however deep in the argument the literal stands. So a field of a literal two levels inside
a custom scalar is denied if its name is that of a private field of the argument's own input object
(`denied_inside_scalar`).
-/

namespace SchemaVisibility

open GraphQL

/-- A reference leads to the input object of this name. -/
def Schema.LeadsToInput (schema : Schema) (type : TypeRef) (name : String) : Prop :=
  ∃ directives fields, schema.definition? type.core = some ⟨name, directives, .input fields⟩

namespace Access

variable {registry : Registry} {schema : Schema} {document : Document} {before after : List Event}
  {label : Label}

theorem mem_deniedObjectField_iff {type : TypeRef} {denial : Denial} :
    denial ∈ Direct.deniedObjectField registry schema label (some type) ↔
      ∃ owner, schema.LeadsToInput type owner ∧ registry.isPrivate owner label.text = true ∧
        denial = ⟨label.position, .member label.text owner⟩ := by
  rw [Direct.deniedObjectField, Option.bind_some]
  constructor
  · intro h
    split at h
    · next owner directives fields hdefined =>
      exact ⟨owner, ⟨directives, fields, hdefined⟩, Direct.mem_due_iff.mp h⟩
    · cases h
  · rintro ⟨owner, ⟨directives, fields, hdefined⟩, hdenial⟩
    rw [hdefined]
    exact Direct.mem_due_iff.mpr hdenial

/-- What the rule denies where it enters a field of an object literal, by the nodes around the
literal: the field counts as a member of what is expected there, else of what the argument around
takes. -/
theorem exists_denials_eq_at_objectField (registry : Registry) (schema : Schema)
    (hevents : document.events = before ++ .enter (.objectField label) :: after) :
    ∃ visit, denials schema [registry] document =
      Visit.run schema (.start [registry]) before ++
        (Direct.deniedObjectField registry schema label
          ((schema.expected (Event.enclosing before)).or
            ((schema.argumentAround (Event.enclosing before)).map InputDefinition.type)) ++
          Visit.run schema visit after) := by
  obtain ⟨memory, visit, hdenials⟩ := exists_denials_eq_around hevents
  refine ⟨visit, hdenials.trans ?_⟩
  have hscope := schema.scopeAfter_eq_scopeIn hevents
  have houter : (schema.enter (schema.scopeAfter .empty before) (.objectField label)).outerInput =
      schema.expected (Event.enclosing before) := by
    rw [← schema.input_scopeIn, ← hscope]
    rfl
  have hargument : (schema.enter (schema.scopeAfter .empty before) (.objectField label)).argument =
      schema.argumentAround (Event.enclosing before) := by
    rw [← schema.argument_scopeIn, ← hscope]
    rfl
  rw [← houter, ← hargument, ← Visit.checkObjectField_eq label]
  rfl

/-- **What is denied at a field of an object literal.** The denials on a document are those of what
is visited before the field, those at the field, and those of what is visited after it. Where the
type that is expected of the literal is known, the field is denied exactly if this is an input
object with a record of the field. Where it is not known, nothing is denied outside of arguments,
and inside an argument the field is denied exactly if the argument takes an input object with a
record of the field. -/
theorem denied_at_objectField (registry : Registry) (schema : Schema)
    (hevents : document.events = before ++ .enter (.objectField label) :: after) :
    ∃ here visit, denials schema [registry] document =
        Visit.run schema (.start [registry]) before ++ (here ++ Visit.run schema visit after) ∧
      (∀ type, schema.expected (Event.enclosing before) = some type → ∀ denial, denial ∈ here ↔
        ∃ owner, schema.LeadsToInput type owner ∧ registry.isPrivate owner label.text = true ∧
          denial = ⟨label.position, .member label.text owner⟩) ∧
      (schema.expected (Event.enclosing before) = none →
        schema.argumentAround (Event.enclosing before) = none → here = []) ∧
      ∀ argument, schema.expected (Event.enclosing before) = none →
        schema.argumentAround (Event.enclosing before) = some argument → ∀ denial, denial ∈ here ↔
          ∃ owner, schema.LeadsToInput argument.type owner ∧
            registry.isPrivate owner label.text = true ∧
            denial = ⟨label.position, .member label.text owner⟩ := by
  obtain ⟨visit, hdenials⟩ := exists_denials_eq_at_objectField registry schema hevents
  refine ⟨_, visit, hdenials, ?_, ?_, ?_⟩
  · intro type htype denial
    rw [htype, Option.some_or, mem_deniedObjectField_iff]
  · intro hunknown hnone
    rw [hunknown, hnone]
    rfl
  · intro argument hunknown hargument denial
    rw [hunknown, hargument, Option.none_or, Option.map_some, mem_deniedObjectField_iff]

/-! ### A literal inside a custom scalar -/

/-- The field of `{ find(filter: {extra: {a: {ssn: 1}}}) }`. -/
def findField : FieldHead :=
  ⟨⟨1, 3⟩, none, "find", [⟨⟨⟨1, 8⟩, "filter"⟩, .object [(⟨⟨1, 17⟩, "extra"⟩,
    .object [(⟨⟨1, 25⟩, "a"⟩, .object [(⟨⟨1, 29⟩, "ssn"⟩, .int "1")])])]⟩], []⟩

/-- The document `{ find(filter: {extra: {a: {ssn: 1}}}) }`. -/
def literalInScalar : Document :=
  ⟨[.operation ⟨.query, none, [], [], [.field findField []]⟩]⟩

/-- The visit of `{ find(filter: {extra: {a: {ssn: 1}}}) }` before the field `ssn`. -/
def beforeSsn : List Event :=
  [.enter (.operation .query), .enter .selectionSet, .enter (.field findField),
    .enter (.argument ⟨⟨1, 8⟩, "filter"⟩), .enter (.objectField ⟨⟨1, 17⟩, "extra"⟩),
    .enter (.objectField ⟨⟨1, 25⟩, "a"⟩)]

/-- The visit of `{ find(filter: {extra: {a: {ssn: 1}}}) }` after the field `ssn` was entered. -/
def afterSsn : List Event :=
  [.leave (.objectField ⟨⟨1, 29⟩, "ssn"⟩), .leave (.objectField ⟨⟨1, 25⟩, "a"⟩),
    .leave (.objectField ⟨⟨1, 17⟩, "extra"⟩), .leave (.argument ⟨⟨1, 8⟩, "filter"⟩),
    .leave (.field findField), .leave .selectionSet, .leave (.operation .query)]

theorem literalInScalar_events : literalInScalar.events =
    beforeSsn ++ .enter (.objectField ⟨⟨1, 29⟩, "ssn"⟩) :: afterSsn := rfl

/-- The document `scalar JSON input Filter { extra: JSON ssn: Int @private } type Query {
find(filter: Filter): Int }`. -/
def filterTypes : Document :=
  ⟨[.directive ⟨"private", [], false, ["INPUT_FIELD_DEFINITION"]⟩,
    .type ⟨"JSON", [], .scalar⟩,
    .type ⟨"Filter", [], .input [⟨"extra", .named "JSON", none, []⟩,
      ⟨"ssn", .named "Int", none, [⟨"private", []⟩]⟩]⟩,
    .type ⟨"Query", [], .object [] [⟨"find", [⟨"filter", .named "Filter", none, []⟩],
      .named "Int", []⟩]⟩]⟩

/-- A field two levels inside a custom scalar, where nothing is known of what is expected. -/
theorem denied_at_objectField_of_unknown :
    ∃ (schema : Schema) (argument : InputDefinition) (here : List Denial) (visit : Visit),
      schema.expected (Event.enclosing beforeSsn) = none ∧
      schema.argumentAround (Event.enclosing beforeSsn) = some argument ∧
      literalInScalar.events = beforeSsn ++ .enter (.objectField ⟨⟨1, 29⟩, "ssn"⟩) :: afterSsn ∧
      denials schema [.ofRecords [⟨"Filter", "ssn"⟩]] literalInScalar =
        Visit.run schema (.start [.ofRecords [⟨"Filter", "ssn"⟩]]) beforeSsn ++
          (here ++ Visit.run schema visit afterSsn) ∧
      ∀ denial, denial ∈ here ↔ ∃ owner, schema.LeadsToInput argument.type owner ∧
        (Registry.ofRecords [⟨"Filter", "ssn"⟩]).isPrivate owner "ssn" = true ∧
        denial = ⟨⟨1, 29⟩, .member "ssn" owner⟩ := by
  have htest : ((Schema.ofDocument filterTypes).toOption.any fun schema =>
      (schema.expected (Event.enclosing beforeSsn)).isNone &&
      (schema.argumentAround (Event.enclosing beforeSsn)).isSome) = true := by
    decide +kernel
  simp only [Option.any_eq_true, Bool.and_eq_true, Option.isNone_iff_eq_none,
    Option.isSome_iff_exists] at htest
  obtain ⟨schema, -, hunknown, argument, hargument⟩ := htest
  obtain ⟨here, visit, hdenials, -, -, hhere⟩ := denied_at_objectField
    (.ofRecords [⟨"Filter", "ssn"⟩]) schema literalInScalar_events
  exact ⟨schema, argument, here, visit, hunknown, hargument, literalInScalar_events, hdenials,
    hhere argument hunknown hargument⟩

/-- **A field of a literal inside a custom scalar is denied.** Nothing is known of what is expected
where the literal stands, and the field is denied as a member of the argument's input object. -/
theorem denied_inside_scalar :
    ∃ (schema : Schema) (records : List Record), schema.IsBuilt ∧ schema.isValid = true ∧
      schema.scan [] = .ok records ∧
      literalInScalar.events = beforeSsn ++ .enter (.objectField ⟨⟨1, 29⟩, "ssn"⟩) :: afterSsn ∧
      schema.expected (Event.enclosing beforeSsn) = none ∧
      validate schema [some (.ofRecords records)] literalInScalar =
        .ok [.denied ⟨⟨1, 29⟩, .member "ssn" "Filter"⟩] := by
  have htest : ((Schema.ofDocument filterTypes).toOption.any fun schema => schema.isValid &&
      (schema.expected (Event.enclosing beforeSsn)).isNone &&
      (schema.scan []).toOption.any fun records =>
        decide (denials schema [.ofRecords records] literalInScalar =
          [⟨⟨1, 29⟩, .member "ssn" "Filter"⟩])) = true := by
    decide +kernel
  simp only [Option.any_eq_true, Bool.and_eq_true, Option.isNone_iff_eq_none, decide_eq_true_eq,
    Fallible.toOption_eq_some] at htest
  obtain ⟨schema, hschema, ⟨hvalid, hunknown⟩, records, hscan, hdenials⟩ := htest
  exact ⟨schema, records, ⟨filterTypes, schema, hschema, rfl⟩, hvalid, hscan,
    literalInScalar_events, hunknown, congrArg (Except.ok ∘ reportOf) hdenials⟩

end Access

end SchemaVisibility
