import SchemaVisibility.Proofs.Access.Completeness
import SchemaVisibility.Proofs.Access.Refinement
import SchemaVisibility.Proofs.Traversal.Nesting

/-! # Private types

Where an operation may not refer to a type that is private as a whole. `Document.Selects` tells
which fields a document selects, at whatever depth and in operations and fragments alike, with the
types that stand around them. `Refers` says that a document refers to a type by what a field is
answered with, by what an argument takes, or by what a variable is declared with; each of these
references is denied where it stands (`denied_of_refers`).

A type condition is no such reference: the fields under it are checked one by one, the type itself
is not. Neither is what is supplied for an input field or for an argument of a known directive
(`not_denied_elsewhere`).
-/

namespace SchemaVisibility.Access

open GraphQL

/-! ### Fields that a document selects -/

/-- A selection set that is answered with a type selects a field: itself, in an inline fragment, or
below another field. The field comes with its parent and with the type of its answer. -/
inductive Selects (schema : Schema) : Option TypeRef → List Selection →
    Option TypeDefinition → Option TypeRef → FieldHead → Prop where
  | here {type : Option TypeRef} {selections below : List Selection} {head : FieldHead} :
      .field head below ∈ selections →
      Selects schema type selections (schema.parentOf type)
        (schema.fieldType (schema.parentOf type) head.name) head
  | deeper {type answer : Option TypeRef} {selections below : List Selection}
      {parent : Option TypeDefinition} {outer head : FieldHead} :
      .field outer below ∈ selections →
      Selects schema (schema.fieldType (schema.parentOf type) outer.name) below parent answer head →
      Selects schema type selections parent answer head
  | inline {type answer : Option TypeRef} {selections inside : List Selection}
      {condition : Option String} {directives : List Directive} {parent : Option TypeDefinition}
      {head : FieldHead} :
      .inline condition directives inside ∈ selections →
      Selects schema (schema.inlineType type condition) inside parent answer head →
      Selects schema type selections parent answer head

/-- A document selects a field, in an operation or in a fragment. -/
inductive DocumentSelects (schema : Schema) (document : Document) :
    Option TypeDefinition → Option TypeRef → FieldHead → Prop where
  | operation {operation : Operation} {parent : Option TypeDefinition} {answer : Option TypeRef}
      {head : FieldHead} :
      .operation operation ∈ document.definitions →
      Selects schema (schema.rootType operation.kind) operation.selections parent answer head →
      DocumentSelects schema document parent answer head
  | fragment {fragment : Fragment} {parent : Option TypeDefinition} {answer : Option TypeRef}
      {head : FieldHead} :
      .fragment fragment ∈ document.definitions →
      Selects schema (schema.conditionType fragment.condition) fragment.selections parent answer
        head →
      DocumentSelects schema document parent answer head

/-- A document refers to a type at a position. Selections of introspection are left out. -/
inductive Refers (schema : Schema) (document : Document) (name : String) :
    Position → Place → Prop where
  /-- A field is selected that is answered with the type. -/
  | field {parent : TypeDefinition} {answer : TypeRef} {head : FieldHead} :
      DocumentSelects schema document (some parent) (some answer) head →
      Direct.exempt (some parent) (some answer) = false → answer.core = name →
      Refers schema document name head.position (.field head.name)
  /-- An argument is supplied that takes the type. -/
  | argument {parent : TypeDefinition} {answer : Option TypeRef} {head : FieldHead}
      {field : FieldDefinition} {argument : Argument} {definition : InputDefinition} :
      DocumentSelects schema document (some parent) answer head →
      Direct.exempt (some parent) answer = false →
      schema.fieldOf? parent head.name = some field → argument ∈ head.arguments →
      field.arguments.find? (fun input => input.name = argument.label.text) = some definition →
      definition.type.core = name →
      Refers schema document name argument.label.position (.argument argument.label.text)
  /-- An operation declares a variable that takes the type. -/
  | declared {operation : Operation} {definition : VariableDefinition} {type : TypeRef} :
      .operation operation ∈ document.definitions → definition ∈ operation.variableDefinitions →
      schema.variableType definition.type = some type → type.core = name →
      Refers schema document name definition.label.position (.variable definition.label.text)

variable {registry : Registry} {schema : Schema} {document : Document}

/-! ### From references to denials -/

namespace Direct

theorem mem_deniedType {type : TypeRef} (position : Position) (place : Place)
    (h : registry.isPrivate Record.topLevel type.core = true) :
    ⟨position, .type type.core place⟩ ∈ deniedType registry position (some type) place :=
  mem_due_iff.mpr ⟨h, rfl⟩

/-- The denials at a field and at and in its arguments. -/
def ofHead (registry : Registry) (schema : Schema) (parent : Option TypeDefinition)
    (answer : Option TypeRef) (head : FieldHead) : List Denial :=
  (match parent with
    | some parent =>
      if exempt (some parent) answer then [] else deniedField registry schema head parent answer
    | none => []) ++
    head.arguments.flatMap (ofArgument registry schema
      (some ⟨head.name, exempt parent answer, schema.selectedField parent head.name⟩) none)

theorem ofSelection_field (type : Option TypeRef) (parent : Option TypeDefinition)
    (innermost : Option Innermost) (head : FieldHead) (selections : List Selection) :
    let answer := schema.fieldType parent head.name
    let field : Innermost :=
      ⟨head.name, exempt parent answer, schema.selectedField parent head.name⟩
    ofSelection registry schema type parent innermost (.field head selections) =
      ofHead registry schema parent answer head ++
        ofDirectives registry schema (some field) head.directives ++
        ofSelections registry schema answer (schema.parentOf answer) (some field) selections := by
  rw [ofSelection.eq_def]
  rfl

theorem ofSelection_subset {selection : Selection} {selections : List Selection}
    {type : Option TypeRef} {parent : Option TypeDefinition} {innermost : Option Innermost}
    (h : selection ∈ selections) :
    ofSelection registry schema type parent innermost selection ⊆
      ofSelections registry schema type parent innermost selections := by
  induction selections with
  | nil => cases h
  | cons first rest ih =>
    rw [ofSelections]
    rcases List.mem_cons.mp h with rfl | h
    · exact List.subset_append_left _ _
    · exact List.Subset.trans (ih h) (List.subset_append_right _ _)

/-- What is denied at a field is denied in every set that selects it. -/
theorem ofHead_subset {type answer : Option TypeRef} {selections : List Selection}
    {parent : Option TypeDefinition} {head : FieldHead}
    (h : Selects schema type selections parent answer head) :
    ∀ innermost, ofHead registry schema parent answer head ⊆
      ofSelections registry schema type (schema.parentOf type) innermost selections := by
  induction h with
  | here hmem =>
    intro innermost
    refine List.Subset.trans ?_ (ofSelection_subset hmem)
    rw [ofSelection_field]
    exact List.subset_append_of_subset_left _ (List.subset_append_left _ _)
  | deeper hmem _ ih =>
    intro innermost
    refine List.Subset.trans ?_ (ofSelection_subset hmem)
    rw [ofSelection_field]
    exact List.subset_append_of_subset_right _ (ih _)
  | inline hmem _ ih =>
    intro innermost
    refine List.Subset.trans ?_ (ofSelection_subset hmem)
    rw [ofSelection.eq_def]
    exact List.subset_append_of_subset_right _ (ih _)

theorem ofDefinition_subset {definition : Definition} (h : definition ∈ document.definitions) :
    ofDefinition registry schema definition ⊆ ofDocument registry schema document :=
  fun _ hdenial => List.mem_flatMap.mpr ⟨definition, h, hdenial⟩

/-- What is denied at a field is denied in every document that selects it. -/
theorem ofHead_subset_ofDocument {parent : Option TypeDefinition} {answer : Option TypeRef}
    {head : FieldHead} (h : DocumentSelects schema document parent answer head) :
    ofHead registry schema parent answer head ⊆ ofDocument registry schema document := by
  cases h with
  | operation hmem hselects =>
    refine List.Subset.trans ?_ (ofDefinition_subset hmem)
    exact List.subset_append_of_subset_right _ (ofHead_subset hselects none)
  | fragment hmem hselects =>
    refine List.Subset.trans ?_ (ofDefinition_subset hmem)
    exact List.subset_append_of_subset_right _ (ofHead_subset hselects none)

/-- A reference to a private type is denied where it stands. -/
theorem mem_ofDocument_of_refers {name : String} {position : Position} {place : Place}
    (hprivate : registry.isPrivate Record.topLevel name = true)
    (h : Refers schema document name position place) :
    ⟨position, .type name place⟩ ∈ ofDocument registry schema document := by
  cases h with
  | @field parent answer head hselects hexempt hname =>
    subst hname
    apply ofHead_subset_ofDocument hselects
    have hdenied := mem_deniedType head.position (.field head.name) hprivate
    simp only [ofHead, hexempt, Bool.false_eq_true, if_false, deniedField, List.mem_append, hdenied,
      or_true, true_or]
  | @argument parent answer head field argument definition hselects hexempt hfield hmem
      hdefinition hname =>
    subst hname
    apply ofHead_subset_ofDocument hselects
    refine List.mem_append_right _ (List.mem_flatMap.mpr ⟨argument, hmem, ?_⟩)
    have hselected : schema.selectedField (some parent) head.name = some field := hfield
    have harguments : declaredArguments (some ⟨head.name, false, some field⟩) none =
        field.arguments := rfl
    have hdenied := mem_deniedType argument.label.position (.argument argument.label.text) hprivate
    simp only [ofArgument, hexempt, hselected, harguments, hdefinition, deniedArgument,
      List.mem_append, hdenied, or_true, true_or]
  | @declared operation definition type hmem hdeclared htype hname =>
    subst hname
    apply ofDefinition_subset hmem
    have hdenied :=
      mem_deniedType definition.label.position (.variable definition.label.text) hprivate
    have hvariable :
        ⟨definition.label.position, .type type.core (.variable definition.label.text)⟩ ∈
          ofVariable registry schema definition := by
      simp only [ofVariable, htype, List.mem_append, hdenied, true_or]
    rw [ofDefinition]
    exact List.mem_append_left _
      (List.mem_append_left _ (List.mem_flatMap.mpr ⟨definition, hdeclared, hvariable⟩))

end Direct

/-! ### From denials to reports -/

/-- **References to a private type are denied.** Take any registry, such as that of a scan, that has
a record of a type as a whole. Wherever a document refers to the type, this is denied at that place.
The denial is reported, unless the limit was reached by denials that come before it; in either case
the document is rejected. -/
theorem denied_of_refers {name : String} {position : Position} {place : Place}
    (hprivate : registry.isPrivate Record.topLevel name = true)
    (hrefers : Refers schema document name position place) :
    ⟨position, .type name place⟩ ∈ denials schema [registry] document ∧
      ∃ reports, validate schema [some registry] document = .ok reports ∧ reports ≠ [] ∧
        (.denied ⟨position, .type name place⟩ ∈ reports ∨ .tooMany ∈ reports ∧
          ∀ earlier later, denials schema [registry] document =
            earlier ++ ⟨position, .type name place⟩ :: later → limit ≤ earlier.length) := by
  have hdenied := Direct.mem_ofDocument_of_refers hprivate hrefers
  rw [← denials_eq_ofDocument] at hdenied
  exact ⟨hdenied, reported_of_mem hdenied⟩

/-- The document `interface Node { id: ID } type Secret implements Node @private { id: ID }
input Hidden @private { a: Int } input Filter { hidden: Hidden } directive @tag(by: Hidden) on FIELD
type Query { node: Node secret: Secret find(filter: Filter): Int }`. -/
def secretTypes : Document :=
  ⟨[.directive ⟨"private", [], false, ["OBJECT", "INPUT_OBJECT"]⟩,
    .directive ⟨"tag", [⟨"by", .named "Hidden", none, []⟩], false, ["FIELD"]⟩,
    .type ⟨"Node", [], .interface [] [⟨"id", [], .named "ID", []⟩]⟩,
    .type ⟨"Secret", [⟨"private", []⟩], .object ["Node"] [⟨"id", [], .named "ID", []⟩]⟩,
    .type ⟨"Hidden", [⟨"private", []⟩], .input [⟨"a", .named "Int", none, []⟩]⟩,
    .type ⟨"Filter", [], .input [⟨"hidden", .named "Hidden", none, []⟩]⟩,
    .type ⟨"Query", [], .object [] [⟨"node", [], .named "Node", []⟩,
      ⟨"secret", [], .named "Secret", []⟩,
      ⟨"find", [⟨"filter", .named "Filter", none, []⟩], .named "Int", []⟩]⟩]⟩

/-- The field that is answered with the private type. -/
theorem denied_of_refers_secret :
    ∃ (schema : Schema) (records : List Record), Schema.ofDocument secretTypes = .ok schema ∧
      schema.isValid = true ∧ schema.scan [] = .ok records ∧
      (Registry.ofRecords records).isPrivate Record.topLevel "Secret" = true ∧
      Refers schema (nestedFields "secret" "id") "Secret" ⟨1, 3⟩ (.field "secret") ∧
      ∃ reports,
        validate schema [some (.ofRecords records)] (nestedFields "secret" "id") = .ok reports ∧
        reports ≠ [] ∧ (.denied ⟨⟨1, 3⟩, .type "Secret" (.field "secret")⟩ ∈ reports ∨
          .tooMany ∈ reports ∧ ∀ earlier later,
            denials schema [.ofRecords records] (nestedFields "secret" "id") =
              earlier ++ ⟨⟨1, 3⟩, .type "Secret" (.field "secret")⟩ :: later →
                limit ≤ earlier.length) := by
  have htest : ((Schema.ofDocument secretTypes).toOption.any fun schema =>
      schema.isValid &&
        ((schema.parentOf (schema.rootType .query)).any fun parent =>
          (schema.fieldType (some parent) "secret").any fun answer =>
            !Direct.exempt (some parent) (some answer) && decide (answer.core = "Secret")) &&
        (schema.scan []).toOption.any fun records =>
          (Registry.ofRecords records).isPrivate Record.topLevel "Secret") = true := by
    decide +kernel
  simp only [Option.any_eq_true, Bool.and_eq_true, Bool.not_eq_true', decide_eq_true_eq,
    Fallible.toOption_eq_some] at htest
  obtain ⟨schema, hschema, ⟨hvalid, parent, hparent, answer, hanswer, hexempt, hname⟩, records,
    hscan, hprivate⟩ := htest
  have hselects : DocumentSelects schema (nestedFields "secret" "id")
      (schema.parentOf (schema.rootType .query))
      (schema.fieldType (schema.parentOf (schema.rootType .query)) "secret")
      (bareField 3 "secret") :=
    .operation List.mem_cons_self (.here List.mem_cons_self)
  rw [hparent, hanswer] at hselects
  have hrefers : Refers schema (nestedFields "secret" "id") "Secret" ⟨1, 3⟩ (.field "secret") :=
    .field hselects hexempt hname
  exact ⟨schema, records, hschema, hvalid, hscan, hprivate, hrefers,
    (denied_of_refers hprivate hrefers).2⟩

/-! ### What is no reference -/

/-- A value is supplied at a node that the visit of a document enters, where a type is expected. -/
def Supplies (schema : Schema) (document : Document) (node : Node) (name : String) : Prop :=
  ∃ before after type, document.events = before ++ .enter node :: after ∧
    schema.expected (Event.enclosing (before ++ [.enter node])) = some type ∧ type.core = name

/-- The document `{ node { ... on Secret { id } } }`. -/
def nodeOnSecret : Document :=
  ⟨[.operation ⟨.query, none, [], [],
    [.field (bareField 3 "node") [.inline (some "Secret") [] [.field (bareField 26 "id") []]]]⟩]⟩

/-- The field of `{ find(filter: {hidden: {a: 1}}) }`. -/
def findHiddenField : FieldHead :=
  ⟨⟨1, 3⟩, none, "find", [⟨⟨⟨1, 8⟩, "filter"⟩, .object [(⟨⟨1, 17⟩, "hidden"⟩,
    .object [(⟨⟨1, 26⟩, "a"⟩, .int "1")])]⟩], []⟩

/-- The document `{ find(filter: {hidden: {a: 1}}) }`. -/
def findHidden : Document :=
  ⟨[.operation ⟨.query, none, [], [], [.field findHiddenField []]⟩]⟩

/-- The field of `{ node @tag(by: {a: 1}) { id } }`. -/
def taggedField : FieldHead :=
  ⟨⟨1, 3⟩, none, "node", [],
    [⟨"tag", [⟨⟨⟨1, 13⟩, "by"⟩, .object [(⟨⟨1, 18⟩, "a"⟩, .int "1")]⟩]⟩]⟩

/-- The document `{ node @tag(by: {a: 1}) { id } }`. -/
def taggedNode : Document :=
  ⟨[.operation ⟨.query, none, [], [], [.field taggedField [.field (bareField 27 "id") []]]⟩]⟩

/-- **Type conditions, input fields and directives are not checked.** In one valid schema, each of
three documents refers to a type that is private as a whole: a field is selected on a type that only
a type condition names, a literal is supplied for an input field, and another one for an argument of
a known directive. Nothing is denied in any of them. -/
theorem not_denied_elsewhere :
    ∃ (schema : Schema) (records : List Record) (secret : TypeDefinition),
      Schema.ofDocument secretTypes = .ok schema ∧ schema.isValid = true ∧
      schema.scan [] = .ok records ∧ ⟨Record.topLevel, "Secret"⟩ ∈ records ∧
      ⟨Record.topLevel, "Hidden"⟩ ∈ records ∧ secret.name = "Secret" ∧
      DocumentSelects schema nodeOnSecret (some secret) (some (.named "ID")) (bareField 26 "id") ∧
      validate schema [some (.ofRecords records)] nodeOnSecret = .ok [] ∧
      Supplies schema findHidden (.objectField ⟨⟨1, 17⟩, "hidden"⟩) "Hidden" ∧
      validate schema [some (.ofRecords records)] findHidden = .ok [] ∧
      Supplies schema taggedNode (.argument ⟨⟨1, 13⟩, "by"⟩) "Hidden" ∧
      validate schema [some (.ofRecords records)] taggedNode = .ok [] := by
  let beforeHidden : List Event :=
    [.enter (.operation .query), .enter .selectionSet, .enter (.field findHiddenField),
      .enter (.argument ⟨⟨1, 8⟩, "filter"⟩)]
  let beforeBy : List Event :=
    [.enter (.operation .query), .enter .selectionSet, .enter (.field taggedField),
      .enter (.directive "tag")]
  have htest : ((Schema.ofDocument secretTypes).toOption.any fun schema =>
      schema.isValid &&
        ((schema.parentOf (schema.conditionType "Secret")).any fun secret =>
          decide (secret.name = "Secret") &&
            decide (schema.fieldType (some secret) "id" = some (.named "ID"))) &&
        decide (schema.expected (Event.enclosing
          (beforeHidden ++ [.enter (.objectField ⟨⟨1, 17⟩, "hidden"⟩)])) =
            some (.named "Hidden")) &&
        decide (schema.expected (Event.enclosing
          (beforeBy ++ [.enter (.argument ⟨⟨1, 13⟩, "by"⟩)])) = some (.named "Hidden")) &&
        (schema.scan []).toOption.any fun records =>
          decide (⟨Record.topLevel, "Secret"⟩ ∈ records) &&
            decide (⟨Record.topLevel, "Hidden"⟩ ∈ records) &&
            [nodeOnSecret, findHidden, taggedNode].all fun document =>
              (denials schema [.ofRecords records] document).isEmpty) = true := by
    decide +kernel
  simp only [Option.any_eq_true, Bool.and_eq_true, decide_eq_true_eq, List.isEmpty_iff,
    List.all_cons, List.all_nil, and_true, Fallible.toOption_eq_some] at htest
  obtain ⟨schema, hschema, ⟨⟨⟨hvalid, secret, hsecret, hname, hanswer⟩, hhidden⟩, hby⟩, records,
    hscan, ⟨hrecord, hrecord'⟩, hcondition, hfield, hdirective⟩ := htest
  have hselects : DocumentSelects schema nodeOnSecret
      (schema.parentOf (schema.conditionType "Secret"))
      (schema.fieldType (schema.parentOf (schema.conditionType "Secret")) "id")
      (bareField 26 "id") :=
    .operation List.mem_cons_self (.deeper List.mem_cons_self
      (.inline List.mem_cons_self (.here List.mem_cons_self)))
  rw [hsecret, hanswer] at hselects
  exact ⟨schema, records, secret, hschema, hvalid, hscan, hrecord, hrecord', hname, hselects,
    congrArg (Except.ok ∘ reportOf) hcondition, ⟨beforeHidden, _, _, rfl, hhidden, rfl⟩,
    congrArg (Except.ok ∘ reportOf) hfield, ⟨beforeBy, _, _, rfl, hby, rfl⟩,
    congrArg (Except.ok ∘ reportOf) hdirective⟩

end SchemaVisibility.Access
