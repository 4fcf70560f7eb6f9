import SchemaVisibility.GraphQL.Token
import SchemaVisibility.Schema.Site

/-! # Rules for the text of a schema

What the definitions of a document have to keep so that a schema can be built from them: names are
declared once, references lead to declared or standard names, directives stand where they may with
the arguments that they take, and extensions extend a type of their own kind. A text may also hold
operations and fragments; of these the rules for references, arguments and directives are asked too.
Every rule lists what breaks it; `violations` is empty exactly if all of them are kept.
-/

namespace SchemaVisibility

open GraphQL

/-- Why no schema can be built. -/
inductive SchemaError where
  | unreadable (error : SyntaxError)
  /-- A name that may be declared or written once is there twice. -/
  | repeated (name : String)
  | unknownType (name : String)
  | unknownDirective (name : String)
  /-- A directive stands where it may not stand. -/
  | misplacedDirective (name : String)
  /-- A directive is given an argument that it does not take. -/
  | unknownArgument (directive name : String)
  /-- A directive lacks an argument that it needs. -/
  | missingArgument (directive name : String)
  /-- A standard directive is not given the text that it takes. -/
  | noText (directive : String)
  /-- What is extended is not declared, or is of another kind. -/
  | wrongExtension (name : String)
  /-- A reference leads to a type of a kind that may not stand there. -/
  | wrongKind (name : String)
  /-- The defaults of an input object need the defaults of the same input object. -/
  | endlessDefault (name : String)
  deriving DecidableEq, Repr

namespace GraphQL

mutual

/-- The fields of a selection, at any depth. -/
def Selection.heads : Selection → List FieldHead
  | .field head selections => head :: Selection.headsOfAll selections
  | .inline _ _ selections => Selection.headsOfAll selections
  | .spread .. => []

/-- The fields of selections, at any depth. -/
def Selection.headsOfAll : List Selection → List FieldHead
  | [] => []
  | selection :: rest => Selection.heads selection ++ Selection.headsOfAll rest

end

mutual

/-- The type conditions of a selection, at any depth. -/
def Selection.conditions : Selection → List String
  | .field _ selections => Selection.conditionsOfAll selections
  | .inline condition _ selections =>
    condition.toList ++ Selection.conditionsOfAll selections
  | .spread .. => []

/-- The type conditions of selections, at any depth. -/
def Selection.conditionsOfAll : List Selection → List String
  | [] => []
  | selection :: rest => Selection.conditions selection ++ Selection.conditionsOfAll rest

end

/-- The selection sets of the operations and fragments of a document. -/
def Document.selectionSets (document : Document) : List (List Selection) :=
  document.operations.map Operation.selections ++ document.fragments.map Fragment.selections

/-- The variables that the operations of a document declare. -/
def Document.variableDefinitions (document : Document) : List VariableDefinition :=
  document.operations.flatMap Operation.variableDefinitions

end GraphQL

namespace Rules

/-- The names that occur again after their first occurrence. -/
def repeatedNames : List String → List String
  | [] => []
  | name :: rest =>
    if rest.contains name then name :: repeatedNames rest else repeatedNames rest

/-- One violation for each repeated name. -/
def repetitions (names : List String) : List SchemaError :=
  (repeatedNames names).map .repeated

/-- The directives that a document may use: those it declares, then the standard ones. -/
def usableDirectives (document : Document) : List DirectiveDefinition :=
  document.declaredDirectives ++ Standard.directives

/-- The names of the fields or enum values of a type. -/
def memberNames (type : TypeDefinition) : List String :=
  match type.content with
  | .object _ fields | .interface _ fields => fields.map FieldDefinition.name
  | .enum values => values.map EnumValueDefinition.name
  | .input fields => fields.map InputDefinition.name
  | _ => []

/-- The argument lists of a type's fields. -/
def argumentLists (type : TypeDefinition) : List (List InputDefinition) :=
  (type.fields?.getD []).map FieldDefinition.arguments

/-- The arguments and input fields that a type declares. -/
def inputsOf (type : TypeDefinition) : List InputDefinition :=
  (argumentLists type).flatten ++ type.inputFields?.getD []

/-- The arguments and input fields that a document declares. -/
def inputs (document : Document) : List InputDefinition :=
  document.allTypes.flatMap inputsOf ++
  document.declaredDirectives.flatMap DirectiveDefinition.arguments

/-! ## Names are declared once -/

/-- Types, directives, roots, and the schema definition itself are declared once. -/
def repeatedDefinitions (document : Document) : List SchemaError :=
  let schemas := document.definitions.filterMap fun
    | .root _ => some "schema"
    | _ => none
  let roots := document.rootDefinitions.flatMap fun root =>
    root.roots.map fun (kind, _) => kind.keyword
  repetitions schemas ++ repetitions roots ++
  repetitions (document.declaredTypes.map TypeDefinition.name) ++
  repetitions (document.declaredDirectives.map DirectiveDefinition.name)

/-- The members of a type, its extensions included, have names of their own, and so have the
arguments of a field or a directive. -/
def repeatedMembers (document : Document) : List SchemaError :=
  let types := document.allTypes
  ((types.map TypeDefinition.name).eraseDups.flatMap fun name =>
    repetitions ((types.filter fun type => type.name = name).flatMap memberNames)) ++
  (types.flatMap argumentLists ++
    document.declaredDirectives.map DirectiveDefinition.arguments).flatMap fun arguments =>
      repetitions (arguments.map InputDefinition.name)

/-! ## References lead somewhere -/

/-- The names of the types that a type refers to. -/
def references (type : TypeDefinition) : List String :=
  match type.content with
  | .object interfaces fields | .interface interfaces fields =>
    interfaces ++ fields.flatMap fun field =>
      field.type.core :: field.arguments.map fun argument => argument.type.core
  | .union members => members
  | .input fields => fields.map fun field => field.type.core
  | _ => []

/-- The names of the types that operations and fragments refer to. -/
def operationReferences (document : Document) : List String :=
  (document.variableDefinitions.map fun definition => definition.type.core) ++
  document.fragments.map Fragment.condition ++
  document.selectionSets.flatMap Selection.conditionsOfAll

/-- References lead to declared types, and those of a type system also to standard ones. -/
def unknownTypes (document : Document) : List SchemaError :=
  let declared := document.declaredTypes.map TypeDefinition.name
  let referred :=
    document.allTypes.flatMap references ++
    document.rootDefinitions.flatMap (fun root => root.roots.map Prod.snd) ++
    document.declaredDirectives.flatMap fun directive =>
      directive.arguments.map fun argument => argument.type.core
  (referred.filter (fun name => !(declared.contains name || Standard.isStandard name)) ++
    (operationReferences document).filter fun name => !declared.contains name).map .unknownType

/-- An extension is of the kind of the type that it extends. -/
def wrongExtensions (document : Document) : List SchemaError :=
  (document.typeExtensions.filter fun extension =>
    !document.declaredTypes.any fun type =>
      type.name = extension.name && type.kindWord = extension.kindWord).map
    fun extension => .wrongExtension extension.name

/-! ## Arguments and literals -/

mutual

/-- The repeated names in the object literals of a value. -/
def repeatedKeys : Value → List String
  | .list items => repeatedKeysOfItems items
  | .object fields =>
    repeatedNames (fields.map fun field => field.1.text) ++ repeatedKeysOfFields fields
  | _ => []

/-- The repeated names in the object literals of items. -/
def repeatedKeysOfItems : List Value → List String
  | [] => []
  | item :: rest => repeatedKeys item ++ repeatedKeysOfItems rest

/-- The repeated names in the object literals of fields. -/
def repeatedKeysOfFields : List (Label × Value) → List String
  | [] => []
  | (_, value) :: rest => repeatedKeys value ++ repeatedKeysOfFields rest

end

/-- Arguments are given once, and their object literals name each field once. -/
def repeatedArguments (arguments : List Argument) : List SchemaError :=
  repetitions (arguments.map fun argument => argument.label.text) ++
  arguments.flatMap fun argument => (repeatedKeys argument.value).map .repeated

/-- What is wrong with the arguments of the fields of operations and fragments. -/
def repeatedFieldArguments (document : Document) : List SchemaError :=
  (document.selectionSets.flatMap Selection.headsOfAll).flatMap fun head =>
    repeatedArguments head.arguments

/-- The object literals of default values name each field once. -/
def repeatedDefaultKeys (document : Document) : List SchemaError :=
  ((inputs document).map InputDefinition.default ++
    document.variableDefinitions.map VariableDefinition.default).flatMap fun default =>
      ((default.map repeatedKeys).getD []).map .repeated

/-! ## Directives -/

/-- What is wrong with the arguments of an applied directive. -/
def argumentViolations (definition : DirectiveDefinition) (directive : Directive) :
    List SchemaError :=
  let given := directive.arguments.map fun argument => argument.label.text
  let taken := definition.arguments.map InputDefinition.name
  let needed := definition.arguments.filter fun argument =>
    match argument.type, argument.default with
    | .nonNull _, none => true
    | _, _ => false
  repeatedArguments directive.arguments ++
  (given.filter fun name => !taken.contains name).map (.unknownArgument directive.name) ++
  ((needed.map InputDefinition.name).filter fun name => !given.contains name).map
    (.missingArgument directive.name)

/-- What is wrong with a directive at a place. -/
def directiveViolations (usable : List DirectiveDefinition) (location : String)
    (directive : Directive) : List SchemaError :=
  match usable.find? fun definition => definition.name = directive.name with
  | none => [.unknownDirective directive.name]
  | some definition =>
    (if definition.locations.contains location then []
      else [.misplacedDirective directive.name]) ++
    argumentViolations definition directive

/-- Directives are known, stand where they may, take the arguments given, and stand at one place
once unless they are repeatable. -/
def misusedDirectives (document : Document) : List SchemaError :=
  let usable := usableDirectives document
  let isRepeatable (name : String) : Bool :=
    usable.find? (fun definition => definition.name = name) |>.any DirectiveDefinition.repeatable
  document.sites.flatMap fun site =>
    site.directives.flatMap (directiveViolations usable site.location) ++
    repetitions ((site.directives.map Directive.name).filter fun name => !isRepeatable name)

/-! ## The texts of standard directives -/

/-- The directives of the members of a type that can be deprecated. -/
def memberDirectives (type : TypeDefinition) : List (List Directive) :=
  (type.fields?.getD []).map FieldDefinition.directives ++
  (inputsOf type).map InputDefinition.directives ++
  match type.content with
  | .enum values => values.map EnumValueDefinition.directives
  | _ => []

/-- The value that the first directive of a name gives to an argument, if there is one. -/
def givenValue (name argument : String) (directives : List Directive) :
    Option (Option Value) :=
  (directives.find? fun directive => directive.name = name).map fun directive =>
    (directive.arguments.find? fun given => given.label.text = argument).map Argument.value

/-- Whether what is deprecated is so for a reason that is text. The reason may be left out. -/
def hasReason (directives : List Directive) : Bool :=
  match givenValue "deprecated" "reason" directives with
  | none | some none | some (some .null) | some (some (.str _)) => true
  | _ => false

/-- Whether the address of a scalar's specification, if one is given, is text. -/
def hasAddress (directives : List Directive) : Bool :=
  match givenValue "specifiedBy" "url" directives with
  | none | some (some (.str _)) => true
  | _ => false

/-- Reasons of deprecations and addresses of specifications are texts. Standard types are taken as
they are, whatever a document says of them. -/
def missingTexts (document : Document) : List SchemaError :=
  let isOwn (type : TypeDefinition) : Bool := !Standard.isStandard type.name
  let deprecable :=
    (document.allTypes.filter isOwn).flatMap memberDirectives ++
    (document.declaredDirectives.flatMap DirectiveDefinition.arguments).map
      InputDefinition.directives
  let scalars := (document.declaredTypes.filter isOwn).filter fun type =>
    type.kindWord = "SCALAR"
  ((deprecable.filter fun directives => !hasReason directives).map fun _ =>
    .noText "deprecated") ++
  (scalars.filter fun type => !hasAddress type.directives).map fun _ => .noText "specifiedBy"

/-- All that breaks a rule. -/
def violations (document : Document) : List SchemaError :=
  repeatedDefinitions document ++ repeatedMembers document ++ unknownTypes document ++
  wrongExtensions document ++ repeatedFieldArguments document ++ repeatedDefaultKeys document ++
  misusedDirectives document ++ missingTexts document

end Rules

end SchemaVisibility
