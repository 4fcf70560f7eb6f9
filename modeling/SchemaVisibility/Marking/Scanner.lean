import SchemaVisibility.Catalog

/-! # Scanners

A scanner belongs to one schema and keeps the records of its last scan. It goes through the type map
and registers declaration by declaration, so after a failed scan it holds what was found up to the
type of unknown kind. Each scan starts without records.
-/

namespace SchemaVisibility

/-- A scanner of a schema. -/
structure Scanner where
  key : String
  records : List Record
  deriving DecidableEq, Repr, Inhabited

namespace Scanner

/-- The scanner of a schema, wrapped or not. -/
def ofHandle (schema : Handle) : Scanner :=
  ⟨schema.key, []⟩

section

variable (schema : Schema) (shared : Extensions)

/-- Adds the record of a declaration that is marked private. -/
def register (records : List Record) (declaration : Declaration) : List Record :=
  if schema.isPrivate shared declaration then records ++ [declaration.record] else records

/-- Registers the declarations of one entry of the type map. -/
def scanType (records : List Record) : String × Entry → List Record × Option ScanError
  | (name, entry) =>
    if Schema.isReserved name then (records, none)
    else
      match entry with
      | .unknownKind => (records, some ⟨name⟩)
      | .known =>
        match schema.definition? name with
        | some type => (type.declarations.foldl (register schema shared) records, none)
        | none => (records, none)

/-- Registers the declarations of the entries of a type map, up to the first failure. -/
def scanTypes (records : List Record) : Table Entry → List Record × Option ScanError
  | [] => (records, none)
  | entry :: rest =>
    match scanType schema shared records entry with
    | (records, some error) => (records, some error)
    | (records, none) => scanTypes records rest

end

/-- Scans the schema anew. -/
def scan (scanner : Scanner) (catalog : Catalog) : Scanner × Except ScanError (List Record) :=
  let schema := catalog.schema scanner.key
  let (records, error) := scanTypes schema catalog.shared [] schema.entries
  let result :=
    match error with
    | some error => .error error
    | none => .ok records
  ({ scanner with records }, result)

end Scanner

end SchemaVisibility
