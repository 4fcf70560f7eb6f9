import SchemaVisibility.Proofs.Access.Visit
import SchemaVisibility.Proofs.Marking.Scan

/-! # Every marked field is denied

A field that is selected on a parent type may be marked private in several places: on the parent, on
an object that the parent can stand for, or on an interface of such an object. `Schema.Hides` is
that it is marked in any of them. `denied_of_hides` follows such a mark from the declaration through
the scan and the registry to the visit of a document: wherever the visit enters the field, the rule
denies it there. Types of introspection are no owners, since a scan passes over them
(`not_denied_on_introspection`).
-/

namespace SchemaVisibility

open GraphQL

/-- Whether the type is an interface. -/
def GraphQL.TypeDefinition.isInterface (type : TypeDefinition) : Bool :=
  match type.content with
  | .interface .. => true
  | _ => false

/-- The members of a union. -/
def GraphQL.TypeDefinition.members (type : TypeDefinition) : List String :=
  match type.content with
  | .union members => members
  | _ => []

namespace GraphQL.TypeDefinition

variable {type : TypeDefinition}

theorem content_of_isInterface (h : type.isInterface = true) :
    ∃ interfaces fields, type.content = .interface interfaces fields := by
  rw [isInterface] at h
  cases hcontent : type.content with
  | interface interfaces fields => exact ⟨interfaces, fields, rfl⟩
  | _ =>
    rw [hcontent] at h
    cases h

theorem content_of_isObject (h : type.isObject = true) :
    ∃ interfaces fields, type.content = .object interfaces fields := by
  rw [isObject] at h
  cases hcontent : type.content with
  | object interfaces fields => exact ⟨interfaces, fields, rfl⟩
  | _ =>
    rw [hcontent] at h
    cases h

theorem content_of_mem_members {name : String} (h : name ∈ type.members) :
    ∃ members, type.content = .union members ∧ name ∈ members := by
  rw [members] at h
  cases hcontent : type.content with
  | union members =>
    rw [hcontent] at h
    exact ⟨members, rfl, h⟩
  | _ =>
    rw [hcontent] at h
    cases h

end GraphQL.TypeDefinition

namespace Schema

/-- A type declares a field of the name that is marked private. -/
def MarksField (schema : Schema) (shared : Extensions) (type : TypeDefinition) (name : String) :
    Prop :=
  ∃ fields, type.fields? = some fields ∧ ∃ field ∈ fields, field.name = name ∧
    schema.isPrivate shared (Declaration.ofMember type.name name field.directives) = true

/-- An object type whose values a composite type can stand for. -/
inductive StandsFor (schema : Schema) : TypeDefinition → TypeDefinition → Prop
  | self {object : TypeDefinition} : object.isObject = true → StandsFor schema object object
  | member {parent object : TypeDefinition} {name : String} : name ∈ parent.members →
      schema.definition? name = some object → object.isObject = true →
      StandsFor schema parent object
  | implementer {parent object : TypeDefinition} : parent.isInterface = true →
      object ∈ schema.types → object.isObject = true → parent.name ∈ object.interfaces →
      StandsFor schema parent object

/-- A field selected on the parent is marked private: on the parent if it is an interface, or on an
object that the parent can stand for or on an interface that this object declares. -/
def Hides (schema : Schema) (shared : Extensions) (parent : TypeDefinition) (name : String) :
    Prop :=
  (parent.isInterface = true ∧ schema.MarksField shared parent name) ∨
    ∃ object, schema.StandsFor parent object ∧ Standard.isIntrospection object.name = false ∧
      (schema.MarksField shared object name ∨
        ∃ interface, interface.isInterface = true ∧ interface.name ∈ object.interfaces ∧
          schema.definition? interface.name = some interface ∧
          schema.MarksField shared interface name)

variable {schema : Schema} {shared : Extensions} {parent object type : TypeDefinition}
  {name : String}

/-! ### From marks to records -/

/-- A mark on a declared type is a mark of one of its declarations. -/
theorem MarksField.exists_declaration (h : schema.MarksField shared type name) :
    ∃ declaration ∈ type.declarations, schema.isPrivate shared declaration = true ∧
      declaration.record = ⟨type.name, name⟩ := by
  obtain ⟨fields, hfields, field, hf, rfl, hp⟩ := h
  refine ⟨_, ?_, hp, rfl⟩
  have hmem : Declaration.ofMember type.name field.name field.directives ∈
      fields.flatMap (Declaration.ofField type.name) :=
    List.mem_flatMap.mpr ⟨field, hf, List.mem_cons_self⟩
  rw [TypeDefinition.fields?] at hfields
  rw [TypeDefinition.declarations]
  cases hcontent : type.content with
  | object interfaces fields =>
    rw [hcontent] at hfields
    cases hfields
    exact List.mem_cons_of_mem _ hmem
  | interface interfaces fields =>
    rw [hcontent] at hfields
    cases hfields
    exact List.mem_cons_of_mem _ hmem
  | _ =>
    rw [hcontent] at hfields
    cases hfields

theorem MarksField.isComposite (h : schema.MarksField shared type name) :
    type.isComposite = true := by
  obtain ⟨fields, hfields, -⟩ := h
  rw [TypeDefinition.fields?] at hfields
  rw [TypeDefinition.isComposite]
  cases hcontent : type.content <;> rw [hcontent] at hfields <;> first | rfl | cases hfields

/-- No standard type is an interface. -/
theorem mem_types_of_isInterface (h : schema.definition? name = some type)
    (hinterface : type.isInterface = true) : type ∈ schema.types := by
  have hall : ∀ type ∈ Standard.types, type.isInterface = false := by decide
  refine (standard_or_mem_types h).resolve_left fun hstandard => ?_
  rw [hall type hstandard] at hinterface
  cases hinterface

end Schema

namespace Access

variable {schema : Schema} {shared : Extensions} {parent object : TypeDefinition} {name : String}

/-! ### From marks to owners -/

theorem name_mem_ownerNames (h : parent.isInterface = true) :
    parent.name ∈ ownerNames schema parent := by
  obtain ⟨interfaces, fields, hcontent⟩ := TypeDefinition.content_of_isInterface h
  rw [ownerNames, List.mem_eraseDups, List.mem_append, hcontent]
  exact Or.inl List.mem_cons_self

theorem mem_objectsOf (h : schema.StandsFor parent object) :
    object ∈ objectsOf schema parent := by
  cases h with
  | self hobject =>
    obtain ⟨interfaces, fields, hcontent⟩ := TypeDefinition.content_of_isObject hobject
    rw [objectsOf, hcontent]
    exact List.mem_cons_self
  | member hmember hdefined =>
    obtain ⟨members, hcontent, hmember⟩ := TypeDefinition.content_of_mem_members hmember
    rw [objectsOf, hcontent]
    exact List.mem_filterMap.mpr ⟨_, hmember, hdefined⟩
  | implementer hinterface hmem hobject hdeclares =>
    obtain ⟨interfaces, fields, hcontent⟩ := TypeDefinition.content_of_isInterface hinterface
    rw [objectsOf, hcontent]
    show object ∈ implementers schema parent.name
    rw [implementers, List.mem_filter, hobject, Bool.true_and]
    exact ⟨hmem, List.contains_iff_mem.mpr hdeclares⟩

/-- An object that the parent can stand for is an owner, and so are its interfaces. -/
theorem mem_ownerNames (h : schema.StandsFor parent object)
    (hname : name = object.name ∨ name ∈ object.interfaces) : name ∈ ownerNames schema parent := by
  rw [ownerNames, List.mem_eraseDups, List.mem_append]
  exact Or.inr (List.mem_flatMap.mpr ⟨object, mem_objectsOf h, List.mem_cons.mpr hname⟩)

/-- One of the owners of a hidden field is a declared type that marks it. -/
theorem exists_owner
    (hparent : schema.definition? parent.name = some parent)
    (hnot : Standard.isIntrospection parent.name = false)
    (h : schema.Hides shared parent name) :
    ∃ type ∈ schema.types, type.name ∈ ownerNames schema parent ∧
      schema.MarksField shared type name := by
  rcases h with ⟨hinterface, hmarks⟩ | ⟨object, hstands, hobject, hmarks⟩
  · exact ⟨parent, Schema.mem_types_of_isInterface hparent hinterface,
      name_mem_ownerNames hinterface, hmarks⟩
  · rcases hmarks with hmarks | ⟨interface, hinterface, hdeclared, hdefined, hmarks⟩
    · refine ⟨object, ?_, mem_ownerNames hstands (Or.inl rfl), hmarks⟩
      cases hstands with
      | self => exact Schema.mem_types_of_composite hparent hmarks.isComposite hnot
      | member _ hdefined => exact Schema.mem_types_of_composite hdefined hmarks.isComposite hobject
      | implementer _ hmem => exact hmem
    · exact ⟨interface, Schema.mem_types_of_isInterface hdefined hinterface,
        mem_ownerNames hstands (Or.inr hdeclared), hmarks⟩

/-! ### From owners to denials -/

variable {registry : Registry} {scope : Scope} {head : FieldHead}

theorem position_of_mem_checkField {denial : Denial}
    (h : denial ∈ checkField registry schema scope head) : denial.position = head.position := by
  rcases List.mem_append.mp h with h | h
  · obtain ⟨owner, -, h⟩ := List.mem_flatMap.mp h
    rw [checkMember] at h
    split at h
    · rw [List.mem_singleton.mp h]
    · cases h
  · cases htype : scope.output with
    | none =>
      rw [htype] at h
      cases h
    | some type =>
      rw [htype, checkType] at h
      split at h
      · rw [List.mem_singleton.mp h]
      · cases h

theorem mem_checkField {owner : String} (hparent : scope.parent = some parent)
    (howner : owner ∈ ownerNames schema parent)
    (hprivate : registry.isPrivate owner head.name = true) :
    (⟨head.position, .member head.name owner⟩ : Denial) ∈
      checkField registry schema scope head := by
  refine List.mem_append_left _ (List.mem_flatMap.mpr ⟨owner, ?_, ?_⟩)
  · rwa [hparent]
  · rw [checkMember, if_pos hprivate]
    exact List.mem_cons_self

/-- A field with an owner that has a record of it is denied. -/
theorem exists_checkField_eq_cons {owner : String} (hparent : scope.parent = some parent)
    (howner : owner ∈ ownerNames schema parent)
    (hprivate : registry.isPrivate owner head.name = true) :
    ∃ reason later, checkField registry schema scope head = ⟨head.position, reason⟩ :: later := by
  have hmem := mem_checkField hparent howner hprivate
  cases hfirst : checkField registry schema scope head with
  | nil =>
    rw [hfirst] at hmem
    cases hmem
  | cons denial later =>
    refine ⟨denial.reason, later, ?_⟩
    rw [← position_of_mem_checkField (hfirst ▸ List.mem_cons_self)]

/-- A denial is reported unless the limit was reached before it. -/
theorem denied_or_tooMany (earlier later : List Denial) (denial : Denial) :
    .denied denial ∈ reportOf (earlier ++ denial :: later) ∨
      limit ≤ earlier.length ∧ .tooMany ∈ reportOf (earlier ++ denial :: later) := by
  rw [reportOf, List.mem_append, List.mem_append]
  by_cases h : earlier.length < limit
  · refine Or.inl (Or.inl (List.mem_map_of_mem ?_))
    rw [List.take_append, List.mem_append]
    obtain ⟨rest, hrest⟩ := Nat.exists_eq_add_of_lt h
    refine Or.inr ?_
    rw [show limit - earlier.length = rest + 1 by omega, List.take_succ_cons]
    exact List.mem_cons_self
  · refine Or.inr ⟨Nat.le_of_not_lt h, Or.inr ?_⟩
    rw [if_pos (by simp only [List.length_append, List.length_cons]; omega)]
    exact List.mem_singleton_self _

/-- What is denied is reported, unless the limit is reached by what is denied before it. -/
theorem reported_of_mem {document : Document} {denial : Denial}
    (h : denial ∈ denials schema [registry] document) :
    ∃ reports, validate schema [some registry] document = .ok reports ∧ reports ≠ [] ∧
      (.denied denial ∈ reports ∨ .tooMany ∈ reports ∧
        ∀ earlier later, denials schema [registry] document = earlier ++ denial :: later →
          limit ≤ earlier.length) := by
  obtain ⟨earlier, later, hdenials⟩ := List.append_of_mem h
  refine ⟨reportOf (denials schema [registry] document), rfl, ?_⟩
  by_cases hdenied : .denied denial ∈ reportOf (denials schema [registry] document)
  · exact ⟨List.ne_nil_of_mem hdenied, Or.inl hdenied⟩
  · -- so wherever the denial stands, the limit was reached before
    have hlimit : ∀ earlier later, denials schema [registry] document =
        earlier ++ denial :: later → limit ≤ earlier.length ∧
          .tooMany ∈ reportOf (denials schema [registry] document) := by
      intro earlier later hdenials
      rw [hdenials] at hdenied ⊢
      exact (denied_or_tooMany earlier later denial).resolve_left hdenied
    have htooMany := (hlimit earlier later hdenials).2
    exact ⟨List.ne_nil_of_mem htooMany, Or.inr ⟨htooMany, fun earlier later hdenials =>
      (hlimit earlier later hdenials).1⟩⟩

/-- What is denied right after the denials on what was visited before is reported, unless the limit
was reached by these. -/
theorem reported_after {document : Document} {denial : Denial} {before : List Event}
    {later : List Denial} (hdenials : denials schema [registry] document =
      Visit.run schema (.start [registry]) before ++ denial :: later) :
    ∃ reports, validate schema [some registry] document = .ok reports ∧ reports ≠ [] ∧
      (.denied denial ∈ reports ∨
        limit ≤ (Visit.run schema (.start [registry]) before).length ∧ .tooMany ∈ reports) := by
  refine ⟨reportOf (denials schema [registry] document), rfl, ?_⟩
  rw [hdenials]
  have hreported := denied_or_tooMany (Visit.run schema (.start [registry]) before) later denial
  rcases hreported with h | h
  · exact ⟨List.ne_nil_of_mem h, Or.inl h⟩
  · exact ⟨List.ne_nil_of_mem h.2, Or.inr h⟩

/-- The denials on a document come from what is visited before a node, from the node itself, and
from what is visited after it is entered. -/
theorem exists_denials_eq_around {document : Document} {before after : List Event} {node : Node}
    (hevents : document.events = before ++ .enter node :: after) :
    ∃ memory visit, denials schema [registry] document =
      Visit.run schema (.start [registry]) before ++
        ((enter registry schema (schema.enter (schema.scopeAfter .empty before) node) memory
          node).2 ++ Visit.run schema visit after) := by
  obtain ⟨memory, hrun⟩ : ∃ memory, denials schema [registry] document =
      Visit.run schema (.start [registry]) before ++
        Visit.run schema (.single registry (schema.scopeAfter .empty before) memory)
          (.enter node :: after) := by
    rw [denials, hevents]
    exact Visit.run_append before _ .empty []
  rw [Visit.run_enter] at hrun
  exact ⟨memory, _, hrun⟩

/-- Where the visit enters a node, what the rule denies there follows the denials so far. -/
theorem exists_denials_eq {document : Document} {before after : List Event} {node : Node}
    (hevents : document.events = before ++ .enter node :: after) :
    ∃ memory later, denials schema [registry] document =
      Visit.run schema (.start [registry]) before ++
        ((enter registry schema (schema.enter (schema.scopeAfter .empty before) node) memory
          node).2 ++ later) := by
  obtain ⟨memory, visit, hdenials⟩ := exists_denials_eq_around hevents
  exact ⟨memory, _, hdenials⟩

/-- Where the visit enters a field with an owner that has a record of it, a denial of the field
follows the denials so far. -/
theorem denials_eq_of_owner {document : Document} {before after : List Event} {owner : String}
    (hevents : document.events = before ++ .enter (.field head) :: after)
    (hparent : (schema.scopeAfter .empty (before ++ [.enter (.field head)])).parent = some parent)
    (hexempt : isExempt (schema.scopeAfter .empty (before ++ [.enter (.field head)])) = false)
    (howner : owner ∈ ownerNames schema parent)
    (hprivate : registry.isPrivate owner head.name = true) :
    ∃ reason later, denials schema [registry] document =
      Visit.run schema (.start [registry]) before ++ ⟨head.position, reason⟩ :: later := by
  obtain ⟨reason, more, hdenied⟩ := exists_checkField_eq_cons hparent howner hprivate
  rw [schema.scopeAfter_enter] at hexempt hdenied
  obtain ⟨memory, later, hdenials⟩ : ∃ memory later, denials schema [registry] document =
      Visit.run schema (.start [registry]) before ++ ((enter registry schema
        (schema.enter (schema.scopeAfter .empty before) (.field head)) memory (.field head)).2 ++
          later) := exists_denials_eq hevents
  have hentered : (enter registry schema
      (schema.enter (schema.scopeAfter .empty before) (.field head)) memory (.field head)).2 =
        ⟨head.position, reason⟩ :: more := by
    rw [← hdenied, enter, hexempt]
    rfl
  rw [hentered] at hdenials
  exact ⟨reason, _, hdenials⟩

/-- **Every marked field is denied where it is selected.** In a valid schema, take any place of a
document where the visit enters a field on a known parent that is not exempt. If the field is marked
private on anything that the parent can stand for, the rule bound to the scanned registry reports it
at that place, unless there were already too many denials before it. -/
theorem denied_of_hides {schema : Schema} {shared : Extensions} {document : Document}
    {before after : List Event} {head : FieldHead} {parent : TypeDefinition}
    (hbuilt : schema.IsBuilt) (hvalid : schema.isValid = true)
    (hevents : document.events = before ++ .enter (.field head) :: after)
    (hparent : (schema.scopeAfter .empty (before ++ [.enter (.field head)])).parent = some parent)
    (hexempt : isExempt (schema.scopeAfter .empty (before ++ [.enter (.field head)])) = false)
    (hhides : schema.Hides shared parent head.name) :
    ∃ records reports, schema.scan shared = .ok records ∧
      validate schema [some (.ofRecords records)] document = .ok reports ∧ reports ≠ [] ∧
      ((∃ reason, .denied ⟨head.position, reason⟩ ∈ reports) ∨
        limit ≤ (Visit.run schema (.start [.ofRecords records]) before).length ∧
          .tooMany ∈ reports) := by
  obtain ⟨records, hscan, hrecords⟩ := Schema.exists_scan hbuilt.regular hvalid shared
  have hknown := Schema.definition?_parent hparent
  have hnot : Standard.isIntrospection parent.name = false := by
    rw [isExempt, hparent, Bool.or_eq_false_iff] at hexempt
    exact hexempt.2
  obtain ⟨type, htype, howner, hmarks⟩ := exists_owner hknown.1 hnot hhides
  obtain ⟨declaration, hdeclared, hprivate, hrecord⟩ := hmarks.exists_declaration
  have hheld : (Registry.ofRecords records).isPrivate type.name head.name = true := by
    rw [Registry.isPrivate_iff, ← hrecord]
    exact hrecords type htype declaration hdeclared hprivate
  obtain ⟨reason, later, hdenials⟩ :=
    denials_eq_of_owner hevents hparent hexempt howner hheld
  obtain ⟨reports, hreports, hne, hreported⟩ := reported_after hdenials
  exact ⟨records, reports, hscan, hreports, hne, hreported.imp_left fun h => ⟨reason, h⟩⟩

/-! ### A field below a field -/

/-- A field with nothing but a name, somewhere in a line. -/
def bareField (column : Nat) (name : String) : FieldHead :=
  ⟨⟨1, column⟩, none, name, [], []⟩

/-- The document `{ outer { inner } }`. -/
def nestedFields (outer inner : String) : Document :=
  ⟨[.operation ⟨.query, none, [], [],
    [.field (bareField 3 outer) [.field (bareField 9 inner) []]]⟩]⟩

/-- The visit of `{ outer { inner } }` before the inner field. -/
def beforeInner (outer : String) : List Event :=
  [.enter (.operation .query), .enter .selectionSet, .enter (.field (bareField 3 outer)),
    .enter .selectionSet]

/-- The visit of `{ outer { inner } }` after the inner field was entered. -/
def afterInner (outer inner : String) : List Event :=
  [.leave (.field (bareField 9 inner)), .leave .selectionSet, .leave (.field (bareField 3 outer)),
    .leave .selectionSet, .leave (.operation .query)]

theorem nestedFields_events (outer inner : String) :
    (nestedFields outer inner).events =
      beforeInner outer ++ .enter (.field (bareField 9 inner)) :: afterInner outer inner := rfl

/-- The scope in which the inner field of `{ outer { inner } }` is entered. -/
def innerScope (schema : Schema) (outer inner : String) : Scope :=
  schema.scopeAfter .empty (beforeInner outer ++ [.enter (.field (bareField 9 inner))])

/-- A field that is marked on an interface and selected on an object that declares it. -/
theorem denied_of_marked_on_interface :
    ∃ (schema : Schema) (document : Document) (before after : List Event) (head : FieldHead)
      (parent : TypeDefinition), schema.IsBuilt ∧ schema.isValid = true ∧
      document.events = before ++ .enter (.field head) :: after ∧
      (schema.scopeAfter .empty (before ++ [.enter (.field head)])).parent = some parent ∧
      isExempt (schema.scopeAfter .empty (before ++ [.enter (.field head)])) = false ∧
      schema.Hides [] parent head.name ∧
      ∃ records reports, schema.scan [] = .ok records ∧
        validate schema [some (.ofRecords records)] document = .ok reports ∧ reports ≠ [] ∧
        ((∃ reason, .denied ⟨head.position, reason⟩ ∈ reports) ∨
          limit ≤ (Visit.run schema (.start [.ofRecords records]) before).length ∧
            .tooMany ∈ reports) := by
  let types : Document := ⟨[.directive ⟨"private", [], false, ["FIELD_DEFINITION"]⟩,
    .type ⟨"Node", [], .interface [] [⟨"secret", [], .named "Int", [⟨"private", []⟩]⟩]⟩,
    .type ⟨"User", [], .object ["Node"] [⟨"secret", [], .named "Int", []⟩]⟩,
    .type ⟨"Query", [], .object [] [⟨"user", [], .named "User", []⟩]⟩]⟩
  have htest : ((Schema.ofDocument types).toOption.any fun schema =>
      schema.isValid && !isExempt (innerScope schema "user" "secret") &&
        (innerScope schema "user" "secret").parent.any fun parent =>
          parent.isObject && !Standard.isIntrospection parent.name &&
          (schema.definition? "Node").any fun interface =>
            interface.isInterface && parent.interfaces.contains interface.name &&
            interface.fields?.any fun fields => fields.any fun field =>
              decide (field.name = "secret") &&
              schema.isPrivate [] (.ofMember interface.name "secret" field.directives)) = true := by
    decide +kernel
  simp only [Option.any_eq_true, Bool.and_eq_true, Bool.not_eq_true', List.any_eq_true,
    decide_eq_true_eq, List.contains_iff_mem, Fallible.toOption_eq_some] at htest
  obtain ⟨schema, hschema, ⟨hvalid, hexempt⟩, parent, hparent, ⟨hobject, hnot⟩, interface,
    hinterface, ⟨hkind, hdeclared⟩, fields, hfields, field, hf, hname, hprivate⟩ := htest
  have hbuilt : schema.IsBuilt := ⟨types, schema, hschema, rfl⟩
  have hdefined : schema.definition? interface.name = some interface :=
    Schema.name_of_definition? hinterface ▸ hinterface
  have hhides : schema.Hides [] parent "secret" :=
    Or.inr ⟨parent, .self hobject, hnot, Or.inr ⟨interface, hkind, hdeclared, hdefined,
      fields, hfields, field, hf, hname, hprivate⟩⟩
  have hevents := nestedFields_events "user" "secret"
  exact ⟨schema, _, _, _, _, parent, hbuilt, hvalid, hevents, hparent, hexempt, hhides,
    denied_of_hides hbuilt hvalid hevents hparent hexempt hhides⟩

/-- A field that is marked on a type of introspection is not denied on a union that this type is a
member of. -/
theorem not_denied_on_introspection :
    ∃ (schema : Schema) (shared : Extensions) (document : Document) (before after : List Event)
      (head : FieldHead) (parent object : TypeDefinition), schema.IsBuilt ∧
      schema.isValid = true ∧ document.events = before ++ .enter (.field head) :: after ∧
      (schema.scopeAfter .empty (before ++ [.enter (.field head)])).parent = some parent ∧
      isExempt (schema.scopeAfter .empty (before ++ [.enter (.field head)])) = false ∧
      schema.StandsFor parent object ∧ schema.MarksField shared object head.name ∧
      ∃ records, schema.scan shared = .ok records ∧
        validate schema [some (.ofRecords records)] document = .ok [] := by
  let types : Document := ⟨[.type ⟨"Query", [], .object [] [⟨"u", [], .named "U", []⟩]⟩,
    .type ⟨"U", [], .union ["__Type"]⟩]⟩
  let shared : Extensions := [(.member "__Type" "name", [("is_private", .bool true)])]
  have htest : ((Schema.ofDocument types).toOption.any fun schema =>
      schema.isValid && !isExempt (innerScope schema "u" "name") &&
        ((innerScope schema "u" "name").parent.any fun parent =>
          parent.members.contains "__Type" &&
          (schema.definition? "__Type").any fun object => object.isObject &&
            object.fields?.any fun fields => fields.any fun field =>
              decide (field.name = "name") &&
              schema.isPrivate shared (.ofMember object.name "name" field.directives)) &&
        (schema.scan shared).toOption.any fun records =>
          (denials schema [.ofRecords records] (nestedFields "u" "name")).isEmpty) = true := by
    decide +kernel
  simp only [Option.any_eq_true, Bool.and_eq_true, Bool.not_eq_true', List.any_eq_true,
    decide_eq_true_eq, List.contains_iff_mem, List.isEmpty_iff,
    Fallible.toOption_eq_some] at htest
  obtain ⟨schema, hschema, ⟨⟨hvalid, hexempt⟩, parent, hparent, hmember, object, hdefined,
    hobject, fields, hfields, field, hf, hname, hprivate⟩, records, hscan, hdenials⟩ := htest
  exact ⟨schema, shared, _, _, _, _, parent, object, ⟨types, schema, hschema, rfl⟩, hvalid,
    nestedFields_events "u" "name", hparent, hexempt, .member hmember hdefined hobject,
    ⟨fields, hfields, field, hf, hname, hprivate⟩, records, hscan,
    congrArg (Except.ok ∘ reportOf) hdenials⟩

end Access

end SchemaVisibility
