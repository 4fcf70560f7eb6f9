import SchemaVisibility.GraphQL.Parser
import SchemaVisibility.Schema.Defaults

/-! # Schemas from text

A document that keeps the rules becomes a schema. Extensions are merged into the types that they
extend. The type map holds the declared types in order, each standard type right behind the first
declared type that leads to it, and at the end what only directives and introspection refer to.
-/

namespace SchemaVisibility

open GraphQL

namespace GraphQL.TypeContent

/-- What a type consists of once an extension of its kind is added. -/
def append : TypeContent → TypeContent → TypeContent
  | .object i f, .object j g => .object (i ++ j) (f ++ g)
  | .interface i f, .interface j g => .interface (i ++ j) (f ++ g)
  | .union m, .union n => .union (m ++ n)
  | .enum v, .enum w => .enum (v ++ w)
  | .input f, .input g => .input (f ++ g)
  | content, _ => content

end GraphQL.TypeContent

namespace Schema

/-- A type with all its extensions. Whether exactly one field of an input object is given says its
definition alone. -/
def extended (extensions : List TypeDefinition) (type : TypeDefinition) : TypeDefinition :=
  (extensions.filter fun extension => extension.name = type.name).foldl
    (fun type extension =>
      { type with
        directives := type.directives ++
          extension.directives.filter fun directive => directive.name ≠ "oneOf"
        content := type.content.append extension.content })
    type

/-! ## Kinds of references -/

/-- The references of a type and of directives that lead to a type of the wrong kind. -/
def wrongKinds (find : String → Option TypeDefinition) (types : List TypeDefinition)
    (directives : List DirectiveDefinition) : List SchemaError :=
  let fails (allowed : TypeDefinition → Bool) (name : String) : Bool :=
    !(find name).any allowed
  let inputs (definitions : List InputDefinition) : List String :=
    (definitions.map fun input => input.type.core).filter (fails TypeDefinition.isInput)
  let isInterface (type : TypeDefinition) : Bool := type.kindWord = "INTERFACE"
  let ofType (type : TypeDefinition) : List String :=
    match type.content with
    | .object interfaces fields | .interface interfaces fields =>
      interfaces.filter (fails isInterface) ++
      (fields.map fun field => field.type.core).filter (fails TypeDefinition.isOutput) ++
      fields.flatMap fun field => inputs field.arguments
    | .union members => members.filter (fails TypeDefinition.isObject)
    | .input fields => inputs fields
    | _ => []
  (types.flatMap ofType ++ directives.flatMap fun directive => inputs directive.arguments).map
    .wrongKind

/-! ## The type map -/

/-- The names that a type leads to, in the order in which they are visited. -/
def successors (type : TypeDefinition) : List String :=
  Rules.references type

/-- Visits a name: unless it is still to come or was met before, it is put at the end of `met`, and
then the names that its type leads to are visited. The bound is the number of types. -/
def visit (find : String → Option TypeDefinition) (pending : List String) :
    Nat → List String → String → List String
  | 0, met, _ => met
  | n + 1, met, name =>
    if pending.contains name || met.contains name then met
    else
      match find name with
      | none => met
      | some type => (successors type).foldl (visit find pending n) (met ++ [name])

/-- Visits declared types one after the other, each when it is its turn. -/
def visitDeclared (find : String → Option TypeDefinition) (bound : Nat) :
    List String → List String → List String
  | [], met => met
  | name :: pending, met => visitDeclared find bound pending (visit find pending bound met name)

/-- The names of the type map in order. -/
def typeOrder (find : String → Option TypeDefinition) (declared : List String)
    (roots : List String) (directives : List DirectiveDefinition) : List String :=
  let bound := declared.length + Standard.types.length + 1
  let arguments := directives.flatMap fun directive =>
    directive.arguments.map fun argument => argument.type.core
  (roots ++ arguments ++ ["__Schema"]).foldl (visit find [] bound)
    (visitDeclared find bound declared [])

/-! ## Building -/

/-- The root types: those that the schema definition and its extensions name. Without a schema
definition the types that bear the name of a kind of operation come before those of extensions. -/
def rootTypes (document : Document) : List (OperationKind × String) :=
  let named := document.rootDefinitions.flatMap RootDefinition.roots
  let defined := document.definitions.any fun
    | .root _ => true
    | _ => false
  let declared := document.declaredTypes.map TypeDefinition.name
  let usual : List (OperationKind × String) :=
    [(.query, "Query"), (.mutation, "Mutation"), (.subscription, "Subscription")]
  if defined then named
  else
    let found := usual.filter fun root => declared.contains root.2
    found ++ named.filter fun root => !found.any fun other => other.1 = root.1

/-- The schema of a document. -/
def ofDocument (document : Document) : Except SchemaError Schema := do
  if let violation :: _ := Rules.violations document then throw violation
  let all := document.declaredTypes.map (extended document.typeExtensions)
  let types := all.filter fun type => !Standard.isStandard type.name
  let find (name : String) : Option TypeDefinition :=
    (Standard.type? name).or (types.find? fun type => type.name = name)
  let declared := document.declaredDirectives
  let directives := declared ++ Standard.directives.filter fun standard =>
    !declared.any fun directive => directive.name = standard.name
  if let violation :: _ := wrongKinds find types declared then throw violation
  Defaults.check types declared find
  let roots := rootTypes document
  let rootNames := [OperationKind.query, .mutation, .subscription].filterMap fun kind =>
    (roots.find? fun root => root.1 = kind).map Prod.snd
  let order := typeOrder find (all.map TypeDefinition.name) rootNames directives
  return {
    types, directives, roots,
    entries := order.map fun name => (name, .known)
    extensions := [] }

/-- The schema of a text. -/
def ofText (text : String) : Except SchemaError Schema :=
  match Document.parse text with
  | .error error => .error (.unreadable error)
  | .ok document => ofDocument document

end Schema

end SchemaVisibility
