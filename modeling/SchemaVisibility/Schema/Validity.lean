import SchemaVisibility.Schema.Build

/-! # Valid schemas

A schema can be built and still be unfit to serve operations: its roots may be no objects, a type
may be empty, an object may not keep what its interfaces promise, an input object may need itself.
`Schema.flaws` lists all that is wrong with a schema as it stands, and `isValid_iff` says that a
valid schema is one without flaws. Types that the type map does not show are not looked at.
-/

namespace SchemaVisibility

open GraphQL

/-- What makes a schema unfit to serve operations. -/
inductive Flaw where
  /-- There is no type for queries. -/
  | noQueryRoot
  /-- The root of an operation is no object. -/
  | rootKind (name : String)
  /-- A name starts as only names of introspection may. -/
  | reservedName (name : String)
  /-- A type has no members. -/
  | empty (type : String)
  /-- A type names an interface or a member of a union twice. -/
  | repeated (type name : String)
  /-- A type lacks an interface, or a field lacks an argument, that an interface asks for. -/
  | missing (type name : String)
  /-- The type of a field or of an argument is not what an interface promises. -/
  | broken (type name : String)
  /-- What has to be given is deprecated, or is more than an interface announces. -/
  | unexpected (type name : String)
  /-- A field of an input object of which exactly one is given is required or has a default. -/
  | exclusive (type name : String)
  /-- Every value of an input object holds a value of the same input object. -/
  | endless (type : String)
  deriving DecidableEq, Repr

namespace GraphQL.TypeRef

/-- Whether values of a type are never null. -/
def isNonNull : TypeRef → Bool
  | nonNull _ => true
  | _ => false

end GraphQL.TypeRef

namespace Schema

/-- One flaw for each reserved name. -/
def reservedNames (names : List String) : List Flaw :=
  (names.filter isReserved).map .reservedName

/-- Whether directives deprecate what they stand at. A reason of `null` does not. -/
def isDeprecated (directives : List Directive) : Bool :=
  (directives.find? fun directive => directive.name = "deprecated").any fun directive =>
    match (directive.arguments.find? fun argument => argument.label.text = "reason").map
      Argument.value with
    | some .null => false
    | _ => true

/-- Whether an argument or an input field has to be given. -/
def isRequired (schema : Schema) (input : InputDefinition) : Bool :=
  input.type.isNonNull && !Defaults.hasDefault schema.types schema.definition? input

/-- The required ones of some inputs that are deprecated. -/
def requiredDeprecated (schema : Schema) (place : String) (inputs : List InputDefinition) :
    List Flaw :=
  (inputs.filter fun input => isDeprecated input.directives && schema.isRequired input).map
    fun input => .unexpected place input.name

/-- What is wrong with the arguments of a field or a directive. -/
def argumentFlaws (schema : Schema) (place : String) (arguments : List InputDefinition) :
    List Flaw :=
  reservedNames (arguments.map InputDefinition.name) ++ schema.requiredDeprecated place arguments

/-! ## Roots and directives -/

/-- There is a root for queries, and all roots are objects. -/
def rootFlaws (schema : Schema) : List Flaw :=
  (if (schema.root? .query).isSome then [] else [.noQueryRoot]) ++
  ((schema.roots.map Prod.snd).filter fun name =>
    !(schema.definition? name).any TypeDefinition.isObject).map .rootKind

/-- What is wrong with the directives that a schema knows. -/
def directiveFlaws (schema : Schema) : List Flaw :=
  schema.directives.flatMap fun directive =>
    reservedNames [directive.name] ++ schema.argumentFlaws directive.name directive.arguments

/-! ## Interfaces -/

/-- Whether a type is an abstract one's member or declares it as an interface. -/
def isPossible (schema : Schema) (abstract name : String) : Bool :=
  (schema.definition? abstract).any fun type =>
    match type.content with
    | .union members => members.contains name
    | .interface .. => (schema.definition? name).any fun other => other.interfaces.contains abstract
    | _ => false

/-- Whether all values of the first type are values of the second. -/
def isSubtype (schema : Schema) : TypeRef → TypeRef → Bool
  | .nonNull inner, .nonNull other => schema.isSubtype inner other
  | .nonNull inner, other => schema.isSubtype inner other
  | .list item, .list other => schema.isSubtype item other
  | .named name, .named other => name = other || schema.isPossible other name
  | _, _ => false

/-- What a field lacks of the field of the same name that an interface promises. -/
def fieldFlaws (schema : Schema) (place : String) (field promised : FieldDefinition) : List Flaw :=
  let taken (name : String) : Option InputDefinition :=
    field.arguments.find? fun argument => argument.name = name
  (if schema.isSubtype field.type promised.type then [] else [.broken place field.name]) ++
  (promised.arguments.flatMap fun argument =>
    match taken argument.name with
    | none => [.missing field.name argument.name]
    | some own => if own.type = argument.type then [] else [.broken field.name argument.name]) ++
  (field.arguments.filter fun argument =>
    !promised.arguments.any (fun other => other.name = argument.name) &&
      schema.isRequired argument).map
    fun argument => .unexpected field.name argument.name

/-- What a type lacks of what one of its interfaces promises. -/
def promiseFlaws (schema : Schema) (type iface : TypeDefinition) : List Flaw :=
  ((iface.interfaces.filter fun name => !type.interfaces.contains name).map
    (.missing type.name)) ++
  (iface.fields?.getD []).flatMap fun promised =>
    match type.field? promised.name with
    | none => [.missing type.name promised.name]
    | some field => schema.fieldFlaws type.name field promised

/-- A type names its interfaces once and not itself, and keeps what they promise. -/
def interfaceFlaws (schema : Schema) (type : TypeDefinition) : List Flaw :=
  (Rules.repeatedNames (type.name :: type.interfaces)).map (.repeated type.name) ++
  (type.interfaces.filterMap schema.definition?).flatMap (schema.promiseFlaws type)

/-! ## Input objects -/

/-- The input objects of which every value of an input object holds one. -/
def heldInputs (schema : Schema) (name : String) : List String :=
  (((schema.definition? name).bind TypeDefinition.inputFields?).getD []).filterMap fun field =>
    match field.type with
    | .nonNull (.named held) => some held
    | _ => none

/-- The input objects that those of a frontier hold at any depth, besides those met before. Every
round but the last meets another one, so the number of types bounds the rounds. -/
def heldFrom (schema : Schema) : Nat → List String → List String → List String
  | 0, _, met => met
  | n + 1, frontier, met =>
    let new := (frontier.flatMap schema.heldInputs).eraseDups.filter fun name => !met.contains name
    if new.isEmpty then met else schema.heldFrom n new (met ++ new)

/-- Whether every value of an input object holds a value of the same input object. -/
def holdsItself (schema : Schema) (name : String) : Bool :=
  (schema.heldFrom schema.types.length [name] []).contains name

/-- What is wrong with the fields of an input object. -/
def inputFlaws (schema : Schema) (type : TypeDefinition) (fields : List InputDefinition) :
    List Flaw :=
  let oneOf := type.directives.any fun directive => directive.name = "oneOf"
  schema.argumentFlaws type.name fields ++
  (if oneOf then
    (fields.filter fun field =>
      field.type.isNonNull ||
        Defaults.hasDefault schema.types schema.definition? field).map
      fun field => .exclusive type.name field.name
    else []) ++
  (if schema.holdsItself type.name then [.endless type.name] else [])

/-! ## All types -/

/-- A type other than a scalar has members. -/
def emptinessFlaws (type : TypeDefinition) : List Flaw :=
  let isEmpty : Bool :=
    match type.content with
    | .scalar => false
    | .object _ fields | .interface _ fields => fields.isEmpty
    | .union members => members.isEmpty
    | .enum values => values.isEmpty
    | .input fields => fields.isEmpty
  if isEmpty then [.empty type.name] else []

/-- What is wrong with a type. -/
def typeFlaws (schema : Schema) (type : TypeDefinition) : List Flaw :=
  emptinessFlaws type ++ reservedNames (Rules.memberNames type) ++
  match type.content with
  | .scalar | .enum _ => []
  | .object _ fields | .interface _ fields =>
    (fields.flatMap fun field => schema.argumentFlaws field.name field.arguments) ++
    schema.interfaceFlaws type
  | .union members => (Rules.repeatedNames members).map (.repeated type.name)
  | .input fields => schema.inputFlaws type fields

/-- All that makes a schema unfit to serve operations. -/
def flaws (schema : Schema) : List Flaw :=
  let shown (name : String) : Bool := schema.entries.get? name = some .known
  schema.rootFlaws ++ schema.directiveFlaws ++
  reservedNames (schema.entries.keys.filter fun name => !Standard.isIntrospection name) ++
  (schema.types.filter fun type => shown type.name).flatMap schema.typeFlaws

/-- Whether operations can be checked against a schema. -/
def isValid (schema : Schema) : Bool :=
  schema.flaws.isEmpty

theorem isValid_iff (schema : Schema) : schema.isValid = true ↔ schema.flaws = [] :=
  List.isEmpty_iff

end Schema

end SchemaVisibility
