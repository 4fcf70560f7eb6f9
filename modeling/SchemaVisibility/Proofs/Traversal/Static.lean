import SchemaVisibility.Traversal.Scope

/-! # Static types of selections

Which types stand around a selection depends on nothing but the type that its selection set is
answered with. `Enters` follows the selections of an operation the way they are executed, through
inline fragments and through the fragments that they spread, and tells which fields are entered, how
many fields deep and with which parent type.
-/

namespace SchemaVisibility

open GraphQL

/-- The fragment that a spread means; of several with one name the last counts. -/
def GraphQL.Document.fragment? (document : Document) (name : String) : Option Fragment :=
  document.fragments.reverse.find? fun fragment => fragment.name = name

namespace Schema

/-- The parent of the fields that are selected in a type: the type itself, if it is composite. -/
def parentOf (schema : Schema) (type : Option TypeRef) : Option TypeDefinition :=
  (type.bind fun type => schema.definition? type.core).filter TypeDefinition.isComposite

/-- The definition of a field that is selected. -/
def selectedField (schema : Schema) (parent : Option TypeDefinition) (name : String) :
    Option FieldDefinition :=
  parent.bind fun parent => schema.fieldOf? parent name

/-- The type of a field that is selected. -/
def fieldType (schema : Schema) (parent : Option TypeDefinition) (name : String) :
    Option TypeRef :=
  (schema.selectedField parent name).bind fun field => schema.asOutput field.type

/-- The type in an inline fragment: that of its condition, else the type around it. -/
def inlineType (schema : Schema) (type : Option TypeRef) : Option String → Option TypeRef
  | some condition => schema.conditionType condition
  | none => type.bind fun type => schema.asOutput (.named type.core)

/-- Selections answered with a type enter a field, `depth` fields below their own. -/
inductive Enters (schema : Schema) (document : Document) :
    Option TypeRef → List Selection → Nat → Option TypeDefinition → FieldHead → Prop
  | here {type : Option TypeRef} {selections below : List Selection} {head : FieldHead} :
      .field head below ∈ selections →
      Enters schema document type selections 0 (schema.parentOf type) head
  | deeper {type : Option TypeRef} {selections below : List Selection} {depth : Nat}
      {parent : Option TypeDefinition} {head inner : FieldHead} :
      .field head below ∈ selections →
      Enters schema document (schema.fieldType (schema.parentOf type) head.name) below depth
        parent inner →
      Enters schema document type selections (depth + 1) parent inner
  | inline {type : Option TypeRef} {selections inside : List Selection}
      {condition : Option String} {directives : List Directive} {depth : Nat}
      {parent : Option TypeDefinition} {head : FieldHead} :
      .inline condition directives inside ∈ selections →
      Enters schema document (schema.inlineType type condition) inside depth parent head →
      Enters schema document type selections depth parent head
  | spread {type : Option TypeRef} {selections : List Selection} {directives : List Directive}
      {fragment : Fragment} {name : String} {depth : Nat} {parent : Option TypeDefinition}
      {head : FieldHead} :
      .spread name directives ∈ selections → document.fragment? name = some fragment →
      Enters schema document (schema.conditionType fragment.condition) fragment.selections depth
        parent head →
      Enters schema document type selections depth parent head

end Schema

end SchemaVisibility
