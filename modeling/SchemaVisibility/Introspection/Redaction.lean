import SchemaVisibility.Introspection.Basic
import SchemaVisibility.Json.Basic
import SchemaVisibility.Registry

/-! # Redaction

The result of an introspection operation is walked along the operation's selections. An object that
describes a type loses the private members from its lists of fields, input fields and enum values.
The type that it describes is known from a selected name or from the literal argument of the root
field; where it is not known, every private member name counts. A list entry whose name is not
selected cannot be told apart from a private one and goes too.

The data need not have the right shape. What cannot be walked makes the redaction fail, and then
there is no result at all.
-/

namespace SchemaVisibility.Introspection

open GraphQL

/-- Why data cannot be redacted. -/
inductive Failure where
  /-- The result holds introspection fields but is no object. -/
  | rootNotObject
  /-- An object stands at a field of a leaf type that nevertheless has selections. -/
  | selectionOnLeaf
  /-- A list or an object stands where a name is expected. -/
  | compositeName
  deriving DecidableEq, Repr

/-- The fields of a type descriptor that list members of the type. -/
def memberLists : List String :=
  ["fields", "inputFields", "enumValues"]

namespace Redaction

/-- The value of a field in an object, under the first of its response keys that holds one. -/
def selected (object : Table Json) (children : List Field) (name : String) : Json :=
  ((children.filter fun child => child.name = name).findSome? fun child =>
    match object.get? child.responseKey with
    | none | some .null => none
    | some value => some value).getD .null

/-- The owner of a descriptor: its selected name if that counts as set, else the literal one. -/
def owner (descriptor : Table Json) (children : List Field) (literal : Option String) : Json :=
  let name := selected descriptor children "name"
  if name.truthy then name else (literal.map Json.str).getD .null

/-- The member names to hide in the descriptor of an owner. -/
def hiddenNames (registry : Registry) : Json → Except Failure (List String)
  | .null => .ok registry.memberNames
  | .str owner => .ok (registry.privateNames owner)
  | .arr _ | .obj _ => .error .compositeName
  | _ => .ok []

/-- Whether an entry of a member list stays. What is no object stays; an object stays if it has a
selected name that is not hidden. -/
def keeps (hidden : List String) (children : List Field) : Json → Except Failure Bool
  | .obj entry =>
    match selected entry children "name" with
    | .null => .ok false
    | .str name => .ok (!hidden.contains name)
    | .arr _ | .obj _ => .error .compositeName
    | _ => .ok true
  | _ => .ok true

/-- The entries of a member list that stay, in order. -/
def keptEntries (hidden : List String) (children : List Field) :
    List Json → Except Failure (List Json)
  | [] => .ok []
  | entry :: rest => do
    let stays ← keeps hidden children entry
    let rest ← keptEntries hidden children rest
    return if stays then entry :: rest else rest

/-- Filters the member list that one child of a descriptor selects. -/
def filterMembers (fragments : Fragments) (hidden : List String) (descriptor : Table Json)
    (child : Field) : Except Failure (Table Json) :=
  if child.name ∈ memberLists then
    match descriptor.get? child.responseKey with
    | some (.arr entries) => do
      let kept ← keptEntries hidden (collect fragments child.selections) entries
      return descriptor.insert child.responseKey (.arr kept)
    | _ => return descriptor
  else return descriptor

/-- Filters the member lists of a descriptor. -/
def descriptor (registry : Registry) (fragments : Fragments) (children : List Field)
    (literal : Option String) (object : Table Json) : Except Failure (Table Json) := do
  let hidden ← hiddenNames registry (owner object children literal)
  if hidden.isEmpty then return object
  children.foldlM (filterMembers fragments hidden) object

/-- Goes into the member that a child selects, if its field leads on and the member is there. -/
def visit (walk : Kind → Field → Json → Except Failure Json) (kind : Kind) (object : Table Json)
    (child : Field) : Except Failure (Table Json) :=
  match kind.fields? with
  | none => .error .selectionOnLeaf
  | some fields =>
    match fields.get? child.name, object.get? child.responseKey with
    | some next, some value => do
      return object.insert child.responseKey (← walk next child value)
    | _, _ => .ok object

/-- Walks a value that a field of an introspection type selects, at most as deep as the bound. The
depth of the value is a sufficient bound. -/
def walk (registry : Registry) (fragments : Fragments) :
    Nat → Option String → Kind → Field → Json → Except Failure Json
  | n + 1, literal, kind, field, .arr items => do
    return .arr (← items.mapM (walk registry fragments n literal kind field))
  | n + 1, literal, kind, field, .obj object => do
    let children := collect fragments field.selections
    let object ←
      if kind = .type then descriptor registry fragments children literal object else pure object
    return .obj (← children.foldlM (visit (walk registry fragments n none) kind) object)
  | _, _, _, _, value => .ok value

/-- Walks the member of a result that one root field selects. -/
def root (registry : Registry) (fragments : Fragments) (depth : Nat) (data : Json)
    (field : Field) : Except Failure Json :=
  match rootKind? field with
  | none => .ok data
  | some kind =>
    match data with
    | .obj object =>
      match Table.get? object field.responseKey with
      | none => .ok data
      | some value => do
        let value ← walk registry fragments depth (literalTypeName? field) kind field value
        return .obj (Table.insert object field.responseKey value)
    | _ => .error .rootNotObject

end Redaction

/-- The result of the selected operation without private members. A result that does not count as
set, and the result of a document in which no operation is selected, stay as they are. -/
def redact (registry : Registry) (document : Document) (operationName : Option String)
    (data : Json) : Except Failure Json :=
  if data.truthy then
    match document.selectedOperation? operationName with
    | none => .ok data
    | some operation =>
      (collect document.fragmentTable operation.selections).foldlM
        (Redaction.root registry document.fragmentTable data.depth) data
  else .ok data

/-- The result of an operation text without private members; text that does not parse leaves the
result as it is. -/
def redactText (registry : Registry) (query : String) (operationName : Option String)
    (data : Json) : Except Failure Json :=
  match document? query with
  | none => .ok data
  | some document => redact registry document operationName data

end SchemaVisibility.Introspection
