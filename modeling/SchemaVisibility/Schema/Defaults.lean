import SchemaVisibility.Schema.Rules

/-! # Default values

The fields of an input object have defaults, and a default is read as a value of its field's type.
An object literal is read by the fields of its input object and by their defaults. So reading the
defaults of one type may need those of another; a type that needs its own has none.
-/

namespace SchemaVisibility.Defaults

open GraphQL

/-- What reading a literal as a value of a type gives. -/
inductive Reading where
  /-- The literal is no value of the type. -/
  | refused
  | null
  | value
  deriving DecidableEq, Repr

/-- A field of an input object with the reading of its default; a missing default reads as
`refused`. -/
abbrev ReadField := InputDefinition × Reading

/-- Whether a whole number fits into 32 bits with a sign. -/
def fitsInt (text : String) : Bool :=
  let digits := text.toList.filter Char.isDigit
  let size := Nat.ofDigitChars 10 digits 0
  if text.startsWith "-" then size ≤ 2147483648 else size ≤ 2147483647

/-- Whether a literal is a value of a standard scalar; a scalar of a schema's own takes any. -/
def isScalarLiteral (scalar : String) (value : Value) : Bool :=
  match scalar, value with
  | "Int", .int text => fitsInt text
  | "Float", .int _ | "Float", .float _ => true
  | "String", .str _ | "Boolean", .bool _ => true
  | "ID", .str _ | "ID", .int _ => true
  | _, _ => !Standard.scalarNames.contains scalar

/-- Reads the fields of an object literal by the fields of its type, in the order of the type. A
field without a value takes its default; without one it must be nullable. -/
def readFields (given : List (String × (TypeRef → Except SchemaError Reading))) :
    List ReadField → Except SchemaError (Option (List Reading))
  | [] => .ok (some [])
  | (field, default) :: rest => do
    match (given.filter fun entry => entry.1 = field.name).getLast? with
    | some (_, read) =>
      match ← read field.type with
      | .refused => return none
      | reading => return (← readFields given rest).map (reading :: ·)
    | none =>
      match default, field.type with
      | .refused, .nonNull _ => return none
      | .refused, _ => readFields given rest
      | reading, _ => return (← readFields given rest).map (reading :: ·)

/-- Reads an object literal as a value of an input object. -/
def readObject (type : TypeDefinition) (fields : List ReadField)
    (given : List (String × (TypeRef → Except SchemaError Reading))) :
    Except SchemaError Reading := do
  let oneOf := type.directives.any fun directive => directive.name = "oneOf"
  match ← readFields given fields with
  | none => return .refused
  | some readings => return if oneOf && readings ≠ [.value] then .refused else .value

section

variable (find : String → Option TypeDefinition)
  (fieldsOf : TypeDefinition → Except SchemaError (List ReadField))

/-- Reads a literal that is neither `null` nor a list nor an object as a value of a named type. -/
def readPlain (value : Value) (name : String) : Except SchemaError Reading :=
  match find name with
  | none => .error (.unknownType name)
  | some type =>
    match type.content, value with
    | .scalar, _ => .ok (if isScalarLiteral name value then .value else .refused)
    | .enum values, .enum label =>
      .ok (if values.any fun v => v.name = label.text then .value else .refused)
    | .enum _, _ | .input _, _ => .ok .refused
    | _, _ => .error (.wrongKind name)

mutual

/-- Reads a literal as a value of a type. A literal that is no list stands for a list of itself. -/
def readValue : Value → TypeRef → Except SchemaError Reading
  | .null, .nonNull _ => .ok .refused
  | .null, _ => .ok .null
  | .list items, type =>
    match type.nullable with
    | .list item => readItems items item
    | other => readPlain find (.list items) other.core
  | .object fields, type => do
    match find type.core with
    | some definition =>
      match definition.content with
      | .input _ => readObject definition (← fieldsOf definition) (readers fields)
      | _ => readPlain find (.object fields) type.core
    | none => .error (.unknownType type.core)
  | value, type => readPlain find value type.core

/-- Reads the items of a list literal. -/
def readItems : List Value → TypeRef → Except SchemaError Reading
  | [], _ => .ok .value
  | item :: rest, type => do
    match ← readValue item type with
    | .refused => return .refused
    | _ => readItems rest type

/-- The values of an object literal, each as what reads it. -/
def readers : List (Label × Value) → List (String × (TypeRef → Except SchemaError Reading))
  | [] => []
  | (label, value) :: rest => (label.text, readValue value) :: readers rest

end

end

/-- The input objects whose defaults were read, with their fields. -/
abbrev Readings := Table (List ReadField)

/-- The fields of an input object whose defaults were read already. -/
def Readings.fieldsOf (readings : Readings) (type : TypeDefinition) :
    Except SchemaError (List ReadField) :=
  match Table.get? readings type.name with
  | some fields => .ok fields
  | none => .error (.endlessDefault type.name)

/-- Reads the defaults of an input object by what was read already. -/
def readType (find : String → Option TypeDefinition) (readings : Readings)
    (type : TypeDefinition) : Except SchemaError (List ReadField) :=
  (type.inputFields?.getD []).mapM fun field =>
    match field.default with
    | none => return (field, .refused)
    | some value => return (field, ← readValue find readings.fieldsOf value field.type)

/-- Reads the defaults of those types that were not read yet and need only what was. -/
def readMore (find : String → Option TypeDefinition) (types : List TypeDefinition)
    (readings : Readings) : Readings :=
  types.foldl (fun readings type =>
    if (readings.get? type.name).isSome then readings
    else
      match readType find readings type with
      | .ok fields => readings.insert type.name fields
      | .error _ => readings) readings

/-- Reads the defaults of types in rounds until one brings nothing new. Each round but the last
reads a type, so their number is a bound. -/
def readAll (find : String → Option TypeDefinition) (types : List TypeDefinition) :
    Nat → Readings → Readings
  | 0, readings => readings
  | n + 1, readings =>
    let more := readMore find types readings
    if more.length = readings.length then readings else readAll find types n more

/-- The input objects among types with the readings of their defaults. A type that needs its own
defaults is not there. -/
def readingsOf (find : String → Option TypeDefinition) (types : List TypeDefinition) : Readings :=
  let inputs := types.filter fun type => type.inputFields?.isSome
  readAll find inputs inputs.length []

/-- Whether an argument or an input field has a default that is a value of its type. -/
def hasDefault (types : List TypeDefinition) (find : String → Option TypeDefinition)
    (input : InputDefinition) : Bool :=
  match input.default with
  | none => false
  | some value =>
    match readValue find (readingsOf find types).fieldsOf value input.type with
    | .ok .refused | .error _ => false
    | .ok _ => true

/-- Reads every default of types and directives. -/
def check (types : List TypeDefinition) (directives : List DirectiveDefinition)
    (find : String → Option TypeDefinition) : Except SchemaError Unit := do
  let readings := readingsOf find types
  for type in types.filter fun type => type.inputFields?.isSome do
    let _ ← readings.fieldsOf type
  let arguments :=
    types.flatMap (fun type =>
      (type.fields?.getD []).flatMap FieldDefinition.arguments) ++
    directives.flatMap DirectiveDefinition.arguments
  for argument in arguments do
    match argument.default with
    | none => pure ()
    | some value =>
      let _ ← readValue find readings.fieldsOf value argument.type

end SchemaVisibility.Defaults
