import SchemaVisibility.Json.Basic
import SchemaVisibility.Schema.Coordinate
import SchemaVisibility.Schema.Standard

/-! # Schemas

A schema holds the types that its text declares, extensions merged in, the directives that it knows,
the roots of its operations, and its type map: the types that can be looked up by name, in the order
in which a scan visits them. An entry of the type map may also be of a kind that nothing here knows.

Declarations can carry extension data. Those of standard types are kept apart from the schema,
because all schemas share them.
-/

namespace SchemaVisibility

open GraphQL

/-- Extension data of declarations. -/
abbrev Extensions := List (Coordinate × Table Json)

namespace Extensions

/-- The data of a declaration, empty if it has none. -/
def data (extensions : Extensions) (coordinate : Coordinate) : Table Json :=
  ((extensions.find? fun entry => entry.1 = coordinate).map Prod.snd).getD []

/-- Replaces the data of a declaration. -/
def assign (extensions : Extensions) (coordinate : Coordinate) (data : Table Json) : Extensions :=
  (coordinate, data) :: extensions.filter fun entry => entry.1 ≠ coordinate

theorem data_assign (extensions : Extensions) (c other : Coordinate) (data : Table Json) :
    (extensions.assign c data).data other = if c = other then data else extensions.data other := by
  by_cases h : c = other
  · simp [assign, Extensions.data, h]
  · have find : (extensions.filter fun entry => entry.1 ≠ c).find? (fun entry => entry.1 = other) =
        extensions.find? fun entry => entry.1 = other := by
      rw [List.find?_filter]
      congr 1
      funext entry
      by_cases ho : entry.1 = other
      · simp [ho, Ne.symm h]
      · simp [ho]
    simp only [assign, Extensions.data, List.find?_cons, h, decide_false, find, if_false]

end Extensions

/-- What a name of the type map stands for. -/
inductive Entry where
  /-- A type of the schema or a standard type. -/
  | known
  /-- A type whose kind is none of the six. -/
  | unknownKind
  deriving DecidableEq, Repr

/-- A type system. -/
structure Schema where
  /-- The declared types in order, standard types left out. -/
  types : List TypeDefinition
  /-- The declared directives and after them the standard ones. -/
  directives : List DirectiveDefinition
  /-- The root types of the kinds of operation. -/
  roots : List (OperationKind × String)
  /-- The type map. -/
  entries : Table Entry
  /-- The extension data of the declared types. -/
  extensions : Extensions
  deriving Inhabited

namespace Schema

/-- Whether a name belongs to introspection: only its names start with two underscores. -/
def isReserved (name : String) : Bool :=
  name.startsWith "__"

/-- The type that a reference by this name stands for. -/
def definition? (schema : Schema) (name : String) : Option TypeDefinition :=
  (Standard.type? name).or (schema.types.find? fun type => type.name = name)

/-- The type that a document means by this name: it has to be in the type map. -/
def named? (schema : Schema) (name : String) : Option TypeDefinition :=
  match schema.entries.get? name with
  | some .known => schema.definition? name
  | _ => none

/-- The directive of a name. -/
def directive? (schema : Schema) (name : String) : Option DirectiveDefinition :=
  schema.directives.find? fun directive => directive.name = name

/-- The name of the root type of a kind of operation. -/
def root? (schema : Schema) (kind : OperationKind) : Option String :=
  (schema.roots.find? fun root => root.1 = kind).map Prod.snd

/-- Puts a type of unknown kind into the type map, in place of what has its name. -/
def addUnknownKind (schema : Schema) (name : String) : Schema :=
  { schema with
    entries := schema.entries.insert name .unknownKind
    extensions := schema.extensions.filter fun entry => entry.1.typeName ≠ name }

/-- Takes a name out of the type map. -/
def removeEntry (schema : Schema) (name : String) : Schema :=
  { schema with entries := schema.entries.erase name }

end Schema

namespace GraphQL.TypeDefinition

/-- The fields of an object or an interface. -/
def fields? (type : TypeDefinition) : Option (List FieldDefinition) :=
  match type.content with
  | .object _ fields | .interface _ fields => some fields
  | _ => none

/-- The field of a name. -/
def field? (type : TypeDefinition) (name : String) : Option FieldDefinition :=
  type.fields?.bind fun fields => fields.find? fun field => field.name = name

/-- The fields of an input object. -/
def inputFields? (type : TypeDefinition) : Option (List InputDefinition) :=
  match type.content with
  | .input fields => some fields
  | _ => none

/-- The interfaces that an object or an interface declares. -/
def interfaces (type : TypeDefinition) : List String :=
  match type.content with
  | .object interfaces _ | .interface interfaces _ => interfaces
  | _ => []

/-- Whether the type is an object. -/
def isObject (type : TypeDefinition) : Bool :=
  match type.content with
  | .object .. => true
  | _ => false

/-- Whether the type has fields to select or stands for types that have: an object, an interface or
a union. -/
def isComposite (type : TypeDefinition) : Bool :=
  match type.content with
  | .object .. | .interface .. | .union .. => true
  | _ => false

/-- Whether values of the type can be given: a scalar, an enum or an input object. -/
def isInput (type : TypeDefinition) : Bool :=
  match type.content with
  | .scalar | .enum .. | .input .. => true
  | _ => false

/-- Whether values of the type can be answered: any type but an input object. -/
def isOutput (type : TypeDefinition) : Bool :=
  match type.content with
  | .input .. => false
  | _ => true

end GraphQL.TypeDefinition

end SchemaVisibility
