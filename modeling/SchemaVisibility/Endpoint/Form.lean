import SchemaVisibility.Table
import SchemaVisibility.Text.Percent

/-! # Forms

A form is a line of named values, each name followed by an equals sign and its value, with `&`
between them. The query of an address is a form, and the body of a request can be one. A name may
have several values. The bytes of a form are read by a charset.
-/

namespace SchemaVisibility.Endpoint.Form

open Text

/-- Why a form cannot be read. -/
inductive Error where
  /-- There are more than `maxFields` fields. -/
  | tooManyFields
  /-- The charset refuses to read the form. -/
  | refused
  /-- A name or a value cannot be read by the charset. -/
  | unreadableField
  /-- What should be the charset yields no text. -/
  | charsetWithoutText
  deriving DecidableEq, Repr

/-- The largest number of fields in a form, empty ones counted. -/
def maxFields : Nat := 1000

/-- A name or a value of a form. -/
def readText (charset : Charset) (text : List Char) : Except Error String :=
  match Percent.readEscapes charset (Percent.spacePlus text) with
  | .ok text => .ok (String.ofList text)
  | .error _ => .error .unreadableField

/-- The name and the value of a field. Without an equals sign the value is empty. -/
def readField (charset : Charset) (field : List Char) : Except Error (String × String) := do
  let name ← readText charset (field.takeWhile (· != '='))
  let value ← readText charset ((field.dropWhile (· != '=')).drop 1)
  return (name, value)

/-- The values of each name, in the order in which the names come first. -/
def group (fields : List (String × String)) : Table (List String) :=
  fields.foldl (fun table (name, value) =>
    table.insert name ((table.get? name).getD [] ++ [value])) []

/-- The named values of a form. Empty fields do not count. -/
def readFields (charset : Charset) (form : List Char) : Except Error (Table (List String)) := do
  if form.isEmpty then return []
  if maxFields < form.count '&' + 1 then throw .tooManyFields
  let fields := (form.splitOn '&').filter fun field => !field.isEmpty
  return group (← fields.mapM (readField charset))

/-- The named values of the bytes of a form. Bytes that are no text in the charset are characters of
their numbers. -/
def read (charset : Charset) (bytes : List UInt8) : Except Error (Table (List String)) :=
  if bytes.isEmpty then .ok []
  else
    match charset.read .strict bytes with
    | .ok form => readFields charset form
    | .error .broken => readFields charset (bytes.map fun byte => Char.ofNat byte.toNat)
    | .error .refused => .error .refused
    | .error .noText => .error .charsetWithoutText

/-- A field of a form. -/
def writeField (name value : String) : List Char :=
  Percent.escape name.toList ++ '=' :: Percent.escape value.toList

/-- The form of some named values. -/
def write (values : List (String × List String)) : List Char :=
  List.intercalate ['&'] (values.flatMap fun (name, values) => values.map (writeField name))

end SchemaVisibility.Endpoint.Form
