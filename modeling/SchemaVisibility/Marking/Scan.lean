import SchemaVisibility.Marking.Declaration

/-! # Scanning and marking

A scan lists the records of all private declarations, in the order of the type map and within a type
in the order of its declarations. Types whose names start with two underscores belong to
introspection and are passed over. A type of unknown kind makes the scan fail.

The extension data of standard types are shared by all schemas, so they are passed beside the schema
and marking may change either.
-/

namespace SchemaVisibility

/-- Why a scan fails: a type is of none of the six kinds. -/
structure ScanError where
  type : String
  deriving DecidableEq, Repr

/-- The wording of a failed scan. -/
def ScanError.message (error : ScanError) : String :=
  s!"Unexpected type kind for '{error.type}': GraphQLNamedType"

namespace Schema

/-- Whether a name of the type map stands for a standard type, whose extension data are shared. -/
def isShared (schema : Schema) (type : String) : Bool :=
  Standard.isStandard type && schema.entries.get? type = some .known

/-- The extension data of a declaration. -/
def extensionData (schema : Schema) (shared : Extensions) (coordinate : Coordinate) :
    Table Json :=
  if schema.isShared coordinate.typeName then shared.data coordinate
  else schema.extensions.data coordinate

/-- Replaces the extension data of a declaration. -/
def assign (schema : Schema) (shared : Extensions) (coordinate : Coordinate)
    (data : Table Json) : Schema × Extensions :=
  if schema.isShared coordinate.typeName then (schema, shared.assign coordinate data)
  else ({ schema with extensions := schema.extensions.assign coordinate data }, shared)

/-- Whether a declaration is marked private. -/
def isPrivate (schema : Schema) (shared : Extensions) (declaration : Declaration) : Bool :=
  Marking.flagged (schema.extensionData shared declaration.coordinate) ||
    Marking.directed declaration.directives

/-- The records of one entry of the type map. -/
def scanEntry (schema : Schema) (shared : Extensions) :
    String × Entry → Except ScanError (List Record)
  | (name, entry) =>
    if isReserved name then .ok []
    else
      match entry with
      | .unknownKind => .error ⟨name⟩
      | .known =>
        let declarations := ((schema.definition? name).map
          GraphQL.TypeDefinition.declarations).getD []
        .ok ((declarations.filter (schema.isPrivate shared)).map Declaration.record)

/-- The records of the entries of a type map, in order, up to the first failure. -/
def scanEntries (schema : Schema) (shared : Extensions) :
    List (String × Entry) → Except ScanError (List Record)
  | [] => .ok []
  | entry :: rest => do
    let records ← schema.scanEntry shared entry
    return records ++ (← scanEntries schema shared rest)

/-- The records of all private declarations. -/
def scan (schema : Schema) (shared : Extensions) : Except ScanError (List Record) :=
  schema.scanEntries shared schema.entries

/-- Flags the declaration of a coordinate as private; its other extension data stay. -/
def markOne (schema : Schema) (shared : Extensions) (text : String) :
    Except CoordinateError (Schema × Extensions) := do
  let declaration ← schema.resolve text
  let data := schema.extensionData shared declaration.coordinate
  return schema.assign shared declaration.coordinate (Marking.withFlag data)

/-- Flags the declarations of coordinates one after the other. The first one that names no
declaration ends this; what was flagged before stays flagged. -/
def mark (schema : Schema) (shared : Extensions) :
    List String → (Schema × Extensions) × Option CoordinateError
  | [] => ((schema, shared), none)
  | text :: rest =>
    match schema.markOne shared text with
    | .error error => ((schema, shared), some error)
    | .ok (schema, shared) => mark schema shared rest

/-- Replaces the extension data of the declaration of a coordinate. -/
def flag (schema : Schema) (shared : Extensions) (text : String) (data : Table Json) :
    Except CoordinateError (Schema × Extensions) := do
  let declaration ← schema.resolve text
  return schema.assign shared declaration.coordinate data

/-- Whether the declaration of a coordinate is marked private. -/
def isMarked (schema : Schema) (shared : Extensions) (text : String) :
    Except CoordinateError Bool := do
  return schema.isPrivate shared (← schema.resolve text)

end Schema

end SchemaVisibility
