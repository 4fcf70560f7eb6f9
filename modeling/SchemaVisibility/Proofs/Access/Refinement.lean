import SchemaVisibility.Proofs.Access.Direct
import SchemaVisibility.Proofs.Access.Visit

/-! # The rule comes to the direct list of denials

The rule sees a document as a sequence of nodes that are entered and left. What it knows at a node
it reads off stacks, and off the two places where the scope keeps a directive and an argument.
`Visit.Tracks` ties these to what the direct recursion passes down.

`Visit.Adds` says that visiting a part of a document adds certain denials and ends in the scope and
with the memory in which it started. It is proved for one kind of part after the other, from
literals (`adds_value`) over directives (`adds_directives`) and selections (`adds_selection`) up to
definitions. So the whole visit comes to the direct list (`denials_eq_direct`).
-/

namespace SchemaVisibility.Access

open GraphQL

variable {registry : Registry} {schema : Schema} {scope : Scope} {memory : Memory}

/-! ### Records and owners -/

/-- What the index says to be private is what there is a record of. -/
theorem ite_isPrivate_eq (owner name : String) (denial : Denial) :
    (if registry.isPrivate owner name then [denial] else []) =
      Direct.due registry owner name denial :=
  if_congr (registry.isPrivate_iff owner name) rfl rfl

theorem Direct.mem_due_iff {owner name : String} {denial only : Denial} :
    denial ∈ due registry owner name only ↔
      registry.isPrivate owner name = true ∧ denial = only := by
  rw [due, registry.isPrivate_iff]
  split
  · next h => simp [h]
  · next h => simp [h]

theorem checkMember_eq (label : Label) (owner : String) :
    checkMember registry label owner =
      Direct.due registry owner label.text ⟨label.position, .member label.text owner⟩ :=
  ite_isPrivate_eq ..

theorem checkType_eq (position : Position) (type : Option TypeRef) (place : Place) :
    checkType registry position type place = Direct.deniedType registry position type place := by
  cases type with
  | none => rfl
  | some type => exact ite_isPrivate_eq ..

theorem flatMap_filterMap_definition? (schema : Schema) (members : List String) :
    ((members.filterMap schema.definition?).flatMap fun object =>
        object.name :: object.interfaces) =
      members.flatMap fun member =>
        ((schema.definition? member).map Direct.objectNames).getD [] := by
  induction members with
  | nil => rfl
  | cons member rest ih =>
    rw [List.filterMap_cons, List.flatMap_cons, ← ih]
    cases schema.definition? member <;> rfl

/-- The owners by way of the objects that a parent can stand for are the owners by its kind. -/
theorem ownerNames_eq (schema : Schema) (parent : TypeDefinition) :
    ownerNames schema parent = Direct.owners schema parent := by
  rw [ownerNames, Direct.owners, objectsOf]
  cases parent.content with
  | object interfaces fields => rw [List.nil_append, List.flatMap_singleton]; rfl
  | union members => rw [List.nil_append, flatMap_filterMap_definition?]
  | _ => rfl

namespace Visit

/-- Visiting the events adds the denials and ends where it started. -/
def Adds (registry : Registry) (schema : Schema) (scope : Scope) (memory : Memory)
    (events : List Event) (denials : List Denial) : Prop :=
  ∀ rest, run schema (single registry scope memory) (events ++ rest) =
    denials ++ run schema (single registry scope memory) rest

theorem Adds.nil : Adds registry schema scope memory [] [] :=
  fun _ => rfl

theorem Adds.append {events more : List Event} {denials others : List Denial}
    (h : Adds registry schema scope memory events denials)
    (hmore : Adds registry schema scope memory more others) :
    Adds registry schema scope memory (events ++ more) (denials ++ others) := by
  intro rest
  rw [List.append_assoc, h, hmore, List.append_assoc]

theorem Adds.flatMap {α : Type} {events : α → List Event} {direct : α → List Denial}
    (h : ∀ part, Adds registry schema scope memory (events part) (direct part)) (parts : List α) :
    Adds registry schema scope memory (parts.flatMap events) (parts.flatMap direct) := by
  induction parts with
  | nil => exact .nil
  | cons part parts ih => exact (h part).append ih

/-- A node adds what the rule denies at it and what its parts add, if leaving it undoes what
entering it did. -/
theorem Adds.around {node : Node} {parts : List Event} {inside : Memory}
    {denials others : List Denial}
    (hrule : enter registry schema (schema.enter scope node) memory node = (inside, denials))
    (hparts : Adds registry schema (schema.enter scope node) inside parts others)
    (hscope : (schema.enter scope node).leave node = scope)
    (hmemory : leave inside node = memory) :
    Adds registry schema scope memory (Event.around node parts) (denials ++ others) := by
  intro rest
  rw [Event.around, List.cons_append, List.cons_append, List.append_assoc, run_enter, hrule,
    hparts, List.singleton_append, run_leave, hscope, hmemory, List.append_assoc]

/-- A node at which the rule does nothing adds what its parts add. -/
theorem Adds.within {node : Node} {parts : List Event} {denials : List Denial}
    (hrule : enter registry schema (schema.enter scope node) memory node = (memory, []))
    (hparts : Adds registry schema (schema.enter scope node) memory parts denials)
    (hscope : (schema.enter scope node).leave node = scope)
    (hmemory : leave memory node = memory) :
    Adds registry schema scope memory (Event.around node parts) denials :=
  .around hrule hparts hscope hmemory

/-! ### Values -/

theorem checkObjectField_eq (label : Label) :
    checkObjectField registry schema scope label =
      Direct.deniedObjectField registry schema label
        (scope.outerInput.or (scope.argument.map InputDefinition.type)) := by
  unfold checkObjectField Direct.deniedObjectField
  simp only [← checkMember_eq]
  cases scope.outerInput.or (scope.argument.map InputDefinition.type) <;> rfl

theorem checkEnumValue_eq (label : Label) :
    checkEnumValue registry schema scope label =
      Direct.deniedEnumValue registry schema label scope.input := by
  unfold checkEnumValue Direct.deniedEnumValue
  simp only [← checkMember_eq]
  cases scope.input <;> rfl

mutual

/-- Visiting a literal adds the denials in it. -/
theorem adds_value (scope : Scope) : ∀ value : Value,
    Adds registry schema scope memory value.events
      (Direct.ofValue registry schema scope.argument scope.input value)
  | .list items => .within rfl (adds_items _ items) rfl rfl
  | .object fields => adds_objectFields scope fields
  | .enum label => by
    rw [Direct.ofValue, ← checkEnumValue_eq, ← List.append_nil (checkEnumValue ..)]
    exact .around rfl .nil rfl rfl
  | .var _ | .int _ | .float _ | .str _ | .bool _ | .null => .nil

theorem adds_items (scope : Scope) : ∀ items : List Value,
    Adds registry schema scope memory (Value.eventsOfItems items)
      (Direct.ofItems registry schema scope.argument scope.input items)
  | [] => .nil
  | item :: rest => (adds_value scope item).append (adds_items scope rest)

theorem adds_objectFields (scope : Scope) : ∀ fields : List (Label × Value),
    Adds registry schema scope memory (Value.eventsOfFields fields)
      (Direct.ofObjectFields registry schema scope.argument scope.input fields)
  | [] => .nil
  | (label, value) :: rest => by
    refine .append (.around ?_ (adds_value _ value) rfl rfl) (adds_objectFields scope rest)
    -- the type around the field's own is the one that the literal stands for
    exact congrArg (Prod.mk memory) (checkObjectField_eq label)

end

/-! ### Arguments and directives -/

/-- What stacks and memory say about the place of a part: the innermost field around it and the
directive around it, and no argument. -/
structure Tracks (scope : Scope) (memory : Memory) (innermost : Option Innermost)
    (directive : Option DirectiveDefinition) : Prop where
  directive : scope.directive = directive
  argument : scope.argument = none
  field : scope.field = innermost.bind Innermost.definition
  memory : memory.head? = innermost.map fun field => (field.name, field.exempt)

variable {innermost : Option Innermost} {directive : Option DirectiveDefinition}

theorem Tracks.argumentsHere_eq (h : Tracks scope memory innermost directive) :
    scope.argumentsHere = Direct.declaredArguments innermost directive := by
  rw [Scope.argumentsHere, h.directive, h.field]
  cases directive <;> rfl

/-- What the rule denies at an argument that was entered is denied directly. -/
theorem Tracks.checkArgument_eq (h : Tracks scope memory innermost directive) (label : Label)
    {inside : Scope} (hdirective : inside.directive = scope.directive) :
    checkArgument registry inside memory label =
      Direct.deniedArgument registry label innermost directive inside.argument := by
  have hmemory := h.memory
  unfold checkArgument Direct.deniedArgument
  simp only [← ite_isPrivate_eq, ← checkType_eq]
  rw [hdirective, h.directive]
  cases innermost with
  | none =>
    rw [Option.map_none, List.head?_eq_none_iff] at hmemory
    rw [hmemory]
  | some field =>
    obtain ⟨name, exempt, definition⟩ := field
    obtain ⟨outer, rfl⟩ := List.head?_eq_some_iff.mp hmemory
    cases exempt <;> cases directive <;> cases inside.argument <;> rfl

theorem adds_argument (h : Tracks scope memory innermost directive) (argument : Argument) :
    Adds registry schema scope memory argument.events
      (Direct.ofArgument registry schema innermost directive argument) := by
  have hleave : (schema.enter scope (.argument argument.label)).leave
      (.argument argument.label) = scope := by
    rw [Scope.leave, ← h.argument]
    rfl
  rw [Direct.ofArgument, ← h.argumentsHere_eq]
  exact .around (congrArg (Prod.mk memory) (h.checkArgument_eq argument.label rfl))
    (adds_value _ argument.value) hleave rfl

theorem adds_directives (h : Tracks scope memory innermost none) (directives : List Directive) :
    Adds registry schema scope memory (Directive.eventsOfAll directives)
      (Direct.ofDirectives registry schema innermost directives) := by
  refine .flatMap (fun directive => ?_) directives
  have hinside : Tracks (schema.enter scope (.directive directive.name)) memory innermost
      (schema.directive? directive.name) := ⟨rfl, h.argument, h.field, h.memory⟩
  have hleave : (schema.enter scope (.directive directive.name)).leave
      (.directive directive.name) = scope := by
    rw [Scope.leave, ← h.directive]
    rfl
  exact .within rfl (.flatMap (adds_argument hinside) directive.arguments) hleave rfl

/-! ### Selections -/

theorem isExempt_eq : isExempt scope = Direct.exempt scope.parent scope.output := by
  unfold isExempt Direct.exempt
  cases scope.parent <;> rfl

/-- What the rule denies at a field that was entered is denied directly. -/
theorem checkField_eq (head : FieldHead) :
    (if isExempt scope then [] else checkField registry schema scope head) =
      match scope.parent with
      | some parent =>
        if Direct.exempt (some parent) scope.output then []
        else Direct.deniedField registry schema head parent scope.output
      | none => [] := by
  rw [isExempt_eq]
  unfold checkField Direct.deniedField
  cases scope.parent with
  | none => rw [Direct.exempt, Option.all_none, Bool.or_true, if_pos rfl]
  | some parent =>
    by_cases h : Direct.exempt (some parent) scope.output = true
    · exact (if_pos h).trans (if_pos h).symm
    · refine (if_neg h).trans (Eq.trans ?_ (if_neg h).symm)
      have hmember : checkMember registry ⟨head.position, head.name⟩ = _ :=
        funext (checkMember_eq _)
      rw [Option.map_some, Option.getD_some, ownerNames_eq, checkType_eq, hmember]

theorem Tracks.enter_field (h : Tracks scope memory innermost none) (schema : Schema)
    (head : FieldHead) :
    Tracks (schema.enter scope (.field head))
      ((head.name, isExempt (schema.enter scope (.field head))) :: memory)
      (some ⟨head.name, Direct.exempt scope.parent (schema.enter scope (.field head)).output,
        (schema.enter scope (.field head)).field⟩) none := by
  refine ⟨h.directive, h.argument, rfl, ?_⟩
  rw [isExempt_eq]
  rfl

theorem Tracks.enter_inline (h : Tracks scope memory innermost none) (schema : Schema)
    (condition : Option String) :
    Tracks (schema.enter scope (.inline condition)) memory innermost none := by
  cases condition <;> exact ⟨h.directive, h.argument, h.field, h.memory⟩

theorem Tracks.enter_selectionSet (h : Tracks scope memory innermost none) :
    Tracks (schema.enter scope .selectionSet) memory innermost none :=
  ⟨h.directive, h.argument, h.field, h.memory⟩

/-- A field whose selection set is not visited has none. -/
theorem Adds.ofNonempty {type : Option TypeRef} {parent : Option TypeDefinition}
    {selections : List Selection}
    (h : Adds registry schema scope memory
      (Event.around .selectionSet (Selection.eventsOfAll selections))
      (Direct.ofSelections registry schema type parent innermost selections)) :
    Adds registry schema scope memory
      (if selections.isEmpty then []
        else Event.around .selectionSet (Selection.eventsOfAll selections))
      (Direct.ofSelections registry schema type parent innermost selections) := by
  cases selections with
  | nil => exact .nil
  | cons selection rest => exact h

mutual

/-- Visiting a selection adds the denials in it. -/
theorem adds_selection {scope : Scope} {memory : Memory} {innermost : Option Innermost}
    (h : Tracks scope memory innermost none) : ∀ selection : Selection,
    Adds registry schema scope memory selection.events
      (Direct.ofSelection registry schema scope.output scope.parent innermost selection)
  | .field head selections => by
    have hinside := h.enter_field schema head
    have hparts := ((Adds.flatMap (adds_argument hinside) head.arguments).append
      (adds_directives hinside head.directives)).append
      (.ofNonempty (.within rfl (adds_selections hinside.enter_selectionSet selections) rfl rfl))
    have hfield : Adds registry schema scope memory (Selection.field head selections).events _ :=
      .around rfl hparts rfl rfl
    rw [checkField_eq] at hfield
    unfold Direct.ofSelection
    simp only [List.append_assoc] at hfield ⊢
    exact hfield
  | .inline condition directives selections => by
    have hinside := h.enter_inline schema condition
    have hparts := (adds_directives hinside directives).append
      (.within rfl (adds_selections hinside.enter_selectionSet selections) rfl rfl)
    cases condition <;> exact .within rfl hparts rfl rfl
  | .spread _ directives => adds_directives h directives

theorem adds_selections {scope : Scope} {memory : Memory} {innermost : Option Innermost}
    (h : Tracks scope memory innermost none) : ∀ selections : List Selection,
    Adds registry schema scope memory (Selection.eventsOfAll selections)
      (Direct.ofSelections registry schema scope.output scope.parent innermost selections)
  | [] => .nil
  | selection :: rest => (adds_selection h selection).append (adds_selections h rest)

end

/-! ### Definitions -/

theorem tracks_empty : Tracks .empty [] none none :=
  ⟨rfl, rfl, rfl, rfl⟩

theorem adds_default (hargument : scope.argument = none) (value : Option Value) :
    Adds registry schema scope memory (Value.eventsOfDefault value)
      (Direct.ofDefault registry schema scope.input value) := by
  cases value with
  | none => exact .nil
  | some value =>
    rw [Direct.ofDefault, Option.map_some, Option.getD_some, ← hargument]
    exact adds_value scope value

theorem adds_variable (h : Tracks scope memory none none) (definition : VariableDefinition) :
    Adds registry schema scope memory definition.events
      (Direct.ofVariable registry schema definition) := by
  have hinside : Tracks (schema.enter scope
      (.declaredVariable definition.label definition.type)) memory none none :=
    ⟨h.directive, h.argument, h.field, h.memory⟩
  rw [Direct.ofVariable, List.append_assoc]
  exact .around (congrArg (Prod.mk memory) (checkType_eq ..))
    ((adds_default hinside.argument definition.default).append
      (adds_directives hinside definition.directives)) rfl rfl

theorem adds_input (definition : InputDefinition) :
    Adds registry schema .empty [] definition.events
      (Direct.ofInput registry schema definition) :=
  (adds_default rfl definition.default).append (adds_directives tracks_empty definition.directives)

theorem adds_content : ∀ content : TypeContent,
    Adds registry schema .empty [] content.events (Direct.ofContent registry schema content)
  | .scalar | .union _ => .nil
  | .object _ fields | .interface _ fields => .flatMap (fun field =>
    (Adds.flatMap adds_input field.arguments).append
      (adds_directives tracks_empty field.directives)) fields
  | .enum values => .flatMap (fun value => adds_directives tracks_empty value.directives) values
  | .input fields => .flatMap adds_input fields

theorem adds_definition : ∀ definition : Definition,
    Adds registry schema .empty [] definition.events
      (Direct.ofDefinition registry schema definition)
  | .operation operation => by
    have hinside : Tracks (schema.enter .empty (.operation operation.kind)) [] none none :=
      ⟨rfl, rfl, rfl, rfl⟩
    exact .within rfl (((Adds.flatMap (adds_variable hinside) operation.variableDefinitions).append
      (adds_directives hinside operation.directives)).append
      (.within rfl (adds_selections hinside.enter_selectionSet operation.selections) rfl rfl))
      rfl rfl
  | .fragment named => by
    have hinside : Tracks (schema.enter .empty (.fragment named.condition)) [] none none :=
      ⟨rfl, rfl, rfl, rfl⟩
    exact .within rfl ((adds_directives hinside named.directives).append
      (.within rfl (adds_selections hinside.enter_selectionSet named.selections) rfl rfl)) rfl rfl
  | .root definition | .rootExtension definition =>
    adds_directives tracks_empty definition.directives
  | .type named | .typeExtension named =>
    (adds_directives tracks_empty named.directives).append (adds_content named.content)
  | .directive definition => .flatMap adds_input definition.arguments

end Visit

/-- What the visit denies is the direct list. -/
theorem denials_eq_ofDocument (schema : Schema) (registry : Registry) (document : Document) :
    denials schema [registry] document = Direct.ofDocument registry schema document := by
  have h : Visit.Adds registry schema .empty [] document.events
    (Direct.ofDocument registry schema document) := .flatMap Visit.adds_definition _
  have hrun := h []
  rwa [List.append_nil, Visit.run, List.append_nil] at hrun

/-- **The rule refines the direct recursion.** On every document it denies the same uses in the same
order, and a validation reports these. -/
theorem denials_eq_direct (schema : Schema) (registry : Registry) (document : Document) :
    denials schema [registry] document = Direct.ofDocument registry schema document ∧
      validate schema [some registry] document =
        .ok (reportOf (Direct.ofDocument registry schema document)) := by
  have hvisit := denials_eq_ofDocument schema registry document
  exact ⟨hvisit, hvisit ▸ rfl⟩

end SchemaVisibility.Access
