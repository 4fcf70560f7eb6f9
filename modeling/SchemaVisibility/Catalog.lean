import SchemaVisibility.Marking.Scan
import SchemaVisibility.Schema.Validity

/-! # Catalogs

The schemas of an application, each under a key that tells it from all others, even from those of
the same text. The extension data of standard types belong to the application and not to one schema.
Whether a schema is valid is judged once; the verdict stands, whatever becomes of the schema.
-/

namespace SchemaVisibility

/-- The schemas of an application and the extension data that they share. -/
structure Catalog where
  schemas : Table Schema
  shared : Extensions
  /-- The schemas that were judged, each with its verdict. -/
  verdicts : Table Bool
  deriving Inhabited

/-- An object that is handed to the library as a schema. It is a schema itself, or another object
that holds one. -/
structure Handle where
  /-- The key of the object itself. -/
  object : String
  /-- The key of the schema that it holds, if it holds one. -/
  inner : Option String
  deriving DecidableEq, Repr, Inhabited

/-- The key of the schema that an object stands for: the one that it holds, or else itself. -/
def Handle.key (handle : Handle) : String :=
  handle.inner.getD handle.object

/-- The schema that an object stands for, without the object. -/
def Handle.unwrap (handle : Handle) : Handle :=
  ⟨handle.key, none⟩

namespace Catalog

/-- The catalog without schemas. -/
def empty : Catalog :=
  ⟨[], [], []⟩

/-- The schema of a key, one without any types if there is none. -/
def schema (catalog : Catalog) (key : String) : Schema :=
  (catalog.schemas.get? key).getD ⟨[], [], [], [], []⟩

/-- Gives a key its schema and the shared extension data their new state. -/
def put (catalog : Catalog) (key : String) (schema : Schema) (shared : Extensions) : Catalog :=
  { catalog with schemas := catalog.schemas.insert key schema, shared }

/-- Whether a schema is valid: as it was judged first, or else as it stands. -/
def judge (catalog : Catalog) (key : String) : Bool × Catalog :=
  match catalog.verdicts.get? key with
  | some verdict => (verdict, catalog)
  | none =>
    let verdict := (catalog.schema key).isValid
    (verdict, { catalog with verdicts := catalog.verdicts.insert key verdict })

/-- The records of a schema. -/
def scan (catalog : Catalog) (key : String) : Except ScanError (List Record) :=
  (catalog.schema key).scan catalog.shared

/-- Marks declarations of a schema. -/
def mark (catalog : Catalog) (key : String) (coordinates : List String) :
    Catalog × Option CoordinateError :=
  let ((schema, shared), error) := (catalog.schema key).mark catalog.shared coordinates
  (catalog.put key schema shared, error)

/-- Puts a type of unknown kind into the type map of a schema. -/
def addUnknownKind (catalog : Catalog) (key name : String) : Catalog :=
  catalog.put key ((catalog.schema key).addUnknownKind name) catalog.shared

/-- Takes a name out of the type map of a schema, if it is there. -/
def removeEntry? (catalog : Catalog) (key name : String) : Option Catalog :=
  let schema := catalog.schema key
  if (schema.entries.get? name).isSome then
    some (catalog.put key (schema.removeEntry name) catalog.shared)
  else none

end Catalog

end SchemaVisibility
