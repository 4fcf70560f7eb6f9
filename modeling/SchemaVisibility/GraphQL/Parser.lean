import SchemaVisibility.GraphQL.Token

/-! # Documents from tokens

Recursive descent over the grammar of executable documents and type systems. A parser takes tokens
off the front of the list; every loop and every nesting takes at least one, so the number of tokens
of the document bounds them. Constant positions, such as the default of a variable, take no
variables.
-/

namespace SchemaVisibility.GraphQL

/-- Takes tokens off the front of the list, or refuses the text. A bound on their number is
known. -/
abbrev Parser (α : Type) := ReaderT Nat (StateT (List Token) (Except SyntaxError)) α

namespace Parser

variable {α : Type}

/-- Refuses the token at the front. -/
def refuse : Parser α := fun _ tokens =>
  .error (.unexpected (tokens.head?.map Token.position))

/-- The token at the front, left in place. -/
def peek : Parser (Option Lexeme) := fun _ tokens =>
  .ok (tokens.head?.map Token.lexeme, tokens)

/-- Takes the token at the front. -/
def next : Parser Token := fun _ tokens =>
  match tokens with
  | [] => .error (.unexpected none)
  | token :: rest => .ok (token, rest)

/-- A bound on the tokens left. -/
def bound : Parser Nat := fun size tokens =>
  .ok (size, tokens)

/-- Takes the token at the front if it is the given one, and tells whether it was. -/
def take? (lexeme : Lexeme) : Parser Bool := fun _ tokens =>
  match tokens with
  | [] => .ok (false, [])
  | token :: rest => .ok (if token.lexeme = lexeme then (true, rest) else (false, tokens))

/-- Takes the given token. -/
def take (lexeme : Lexeme) : Parser Unit := do
  if !(← take? lexeme) then refuse

/-- Takes the given one-character token. -/
def mark (c : Char) : Parser Unit :=
  take (.mark c)

/-- Takes the given one-character token if it is there. -/
def mark? (c : Char) : Parser Bool :=
  take? (.mark c)

/-- Takes a keyword. -/
def keyword (word : String) : Parser Unit :=
  take (.name word)

/-- Takes a keyword if it is there. -/
def keyword? (word : String) : Parser Bool :=
  take? (.name word)

/-- Takes a name with its position. -/
def label : Parser Label := do
  let token ← next
  match token.lexeme with
  | .name text => return ⟨token.position, text⟩
  | _ => throw (.unexpected token.position)

/-- Takes a name. -/
def name : Parser String := do
  return (← label).text

/-- Takes items up to the closing mark, none or more, at most as many as the bound. -/
def upTo (closing : Char) (item : Parser α) : Nat → Parser (List α)
  | 0 => refuse
  | n + 1 => do
    if ← mark? closing then return []
    let first ← item
    let rest ← upTo closing item n
    return first :: rest

/-- Takes one or more items between two marks. -/
def many (opening closing : Char) (item : Parser α) : Parser (List α) := do
  mark opening
  let first ← item
  let rest ← upTo closing item (← bound)
  return first :: rest

/-- Takes one or more items between two marks, or nothing if the opening mark is not there. -/
def optionalMany (opening closing : Char) (item : Parser α) : Parser (List α) := do
  match ← peek with
  | some lexeme => if lexeme = .mark opening then many opening closing item else return []
  | none => return []

/-- Takes the items that follow, each after its separator. -/
def separated (separator : Char) (item : Parser α) : Nat → Parser (List α)
  | 0 => refuse
  | n + 1 => do
    if ← mark? separator then
      let first ← item
      let rest ← separated separator item n
      return first :: rest
    else return []

/-- Takes one or more items with separators between them and perhaps one in front. -/
def delimited (separator : Char) (item : Parser α) : Parser (List α) := do
  let _ ← mark? separator
  let first ← item
  let rest ← separated separator item (← bound)
  return first :: rest

/-! ## Values and types -/

/-- A value nested at most as deep as the bound. -/
def valueWithin (const : Bool) : Nat → Parser Value
  | 0 => refuse
  | n + 1 => do
    let token ← next
    match token.lexeme with
    | .mark '[' => return .list (← upTo ']' (valueWithin const n) (← bound))
    | .mark '{' =>
      let field : Parser (Label × Value) := do
        let key ← label
        mark ':'
        return (key, ← valueWithin const n)
      return .object (← upTo '}' field (← bound))
    | .mark '$' => if const then refuse else return .var (← name)
    | .int text => return .int text
    | .float text => return .float text
    | .str text => return .str text
    | .name "true" => return .bool true
    | .name "false" => return .bool false
    | .name "null" => return .null
    | .name text => return .enum ⟨token.position, text⟩
    | _ => throw (.unexpected token.position)

/-- A value; `const` tells that it may hold no variables. -/
def value (const : Bool) : Parser Value := do
  valueWithin const (← bound)

/-- A type reference nested at most as deep as the bound. -/
def typeWithin : Nat → Parser TypeRef
  | 0 => refuse
  | n + 1 => do
    let inner : TypeRef ←
      if ← mark? '[' then do
        let item ← typeWithin n
        mark ']'
        pure (.list item)
      else do
        pure (.named (← name))
    if ← mark? '!' then return .nonNull inner
    return inner

/-- A type reference. -/
def typeRef : Parser TypeRef := do
  typeWithin (← bound)

/-- An argument. -/
def argument (const : Bool) : Parser Argument := do
  let label ← label
  mark ':'
  return ⟨label, ← value const⟩

/-- Arguments in parentheses, or none. -/
def arguments (const : Bool) : Parser (List Argument) :=
  optionalMany '(' ')' (argument const)

/-- Directives, at most as many as the bound. -/
def directivesWithin (const : Bool) : Nat → Parser (List Directive)
  | 0 => refuse
  | n + 1 => do
    if ← mark? '@' then
      let name ← name
      let arguments ← arguments const
      let rest ← directivesWithin const n
      return ⟨name, arguments⟩ :: rest
    else return []

/-- Directives, none or more. -/
def directives (const : Bool) : Parser (List Directive) := do
  directivesWithin const (← bound)

/-- A default value after its equals sign, or none. -/
def default? : Parser (Option Value) := do
  if ← mark? '=' then return some (← value true)
  return none

/-! ## Operations and fragments -/

/-- A description, which is read and dropped; tells whether there was one. -/
def description? : Parser Bool := do
  match ← peek with
  | some (.str _) => do
    let _ ← next
    return true
  | _ => return false

/-- The condition after `on`. -/
def condition : Parser String := do
  keyword "on"
  name

/-- What follows an ellipsis: a spread, or an inline fragment with or without a condition. -/
def afterEllipsis (selections : Parser (List Selection)) : Parser Selection := do
  match ← peek with
  | some (.name "on") =>
    let condition ← condition
    let directives ← directives false
    return .inline (some condition) directives (← selections)
  | some (.name _) =>
    let fragment ← name
    return .spread fragment (← directives false)
  | _ =>
    let directives ← directives false
    return .inline none directives (← selections)

/-- A field with or without a name for the response. -/
def field (selections : Parser (List Selection)) : Parser Selection := do
  let first ← label
  let second : Option String ← if ← mark? ':' then (do return some (← name)) else pure none
  let arguments ← arguments false
  let directives ← directives false
  let selections ←
    match ← peek with
    | some (.mark '{') => selections
    | _ => pure []
  let head : FieldHead :=
    match second with
    | some own => ⟨first.position, some first.text, own, arguments, directives⟩
    | none => ⟨first.position, none, first.text, arguments, directives⟩
  return .field head selections

/-- A selection set nested at most as deep as the bound. -/
def selectionsWithin : Nat → Parser (List Selection)
  | 0 => refuse
  | n + 1 =>
    many '{' '}' do
      if ← take? .ellipsis then afterEllipsis (selectionsWithin n)
      else field (selectionsWithin n)

/-- A selection set. -/
def selections : Parser (List Selection) := do
  selectionsWithin (← bound)

/-- A kind of operation by its keyword. -/
def operationKind : Parser OperationKind := do
  let label ← label
  match label.text with
  | "query" => return .query
  | "mutation" => return .mutation
  | "subscription" => return .subscription
  | _ => throw (.unexpected label.position)

/-- The position of the token at the front. -/
def position : Parser Position := fun _ tokens =>
  match tokens with
  | [] => .error (.unexpected none)
  | token :: _ => .ok (token.position, tokens)

/-- The declaration of a variable. It starts at its `$`, or at its description if it has one. -/
def variableDefinition : Parser VariableDefinition := do
  let position ← position
  let _ ← description?
  mark '$'
  let name ← name
  mark ':'
  let type ← typeRef
  let default ← default?
  return ⟨⟨position, name⟩, type, default, ← directives true⟩

/-- An operation that starts with its keyword. -/
def operation : Parser Operation := do
  let kind ← operationKind
  let name : Option String ←
    match ← peek with
    | some (.name _) => do pure (some (← name))
    | _ => pure none
  let definitions ← optionalMany '(' ')' variableDefinition
  let directives ← directives false
  return ⟨kind, name, definitions, directives, ← selections⟩

/-- A fragment definition. Its name may not be `on`. -/
def fragment : Parser Fragment := do
  keyword "fragment"
  let label ← label
  if label.text = "on" then throw (.unexpected label.position)
  let condition ← condition
  let directives ← directives false
  return ⟨label.text, condition, directives, ← selections⟩

/-! ## Type systems -/

/-- An argument or input field definition. -/
def inputDefinition : Parser InputDefinition := do
  let _ ← description?
  let name ← name
  mark ':'
  let type ← typeRef
  let default ← default?
  return ⟨name, type, default, ← directives true⟩

/-- A field definition. -/
def fieldDefinition : Parser FieldDefinition := do
  let _ ← description?
  let name ← name
  let arguments ← optionalMany '(' ')' inputDefinition
  mark ':'
  let type ← typeRef
  return ⟨name, arguments, type, ← directives true⟩

/-- An enum value definition; the words of other literals name no enum value. -/
def enumValueDefinition : Parser EnumValueDefinition := do
  let _ ← description?
  let label ← label
  if label.text ∈ ["true", "false", "null"] then throw (.unexpected label.position)
  return ⟨label.text, ← directives true⟩

/-- The interfaces that a type declares. -/
def interfaces : Parser (List String) := do
  if ← keyword? "implements" then delimited '&' name else return []

/-- The places where a directive may stand. -/
def directiveLocations : List String :=
  ["QUERY", "MUTATION", "SUBSCRIPTION", "FIELD", "FRAGMENT_DEFINITION", "FRAGMENT_SPREAD",
    "INLINE_FRAGMENT", "VARIABLE_DEFINITION", "SCHEMA", "SCALAR", "OBJECT", "FIELD_DEFINITION",
    "ARGUMENT_DEFINITION", "INTERFACE", "UNION", "ENUM", "ENUM_VALUE", "INPUT_OBJECT",
    "INPUT_FIELD_DEFINITION", "DIRECTIVE_DEFINITION"]

/-- A place where a directive may stand. -/
def directiveLocation : Parser String := do
  let label ← label
  if label.text ∈ directiveLocations then return label.text
  throw (.unexpected label.position)

/-- A root operation type. -/
def rootType : Parser (OperationKind × String) := do
  let kind ← operationKind
  mark ':'
  return (kind, ← name)

/-- The keywords that start the definition of a type. -/
def typeKeywords : List String :=
  ["scalar", "type", "interface", "union", "enum", "input"]

/-- A type definition or extension from its keyword on. -/
def typeDefinition : Parser TypeDefinition := do
  let kind ← label
  let name ← name
  match kind.text with
  | "scalar" => return ⟨name, ← directives true, .scalar⟩
  | "type" =>
    let interfaces ← interfaces
    let directives ← directives true
    return ⟨name, directives, .object interfaces (← optionalMany '{' '}' fieldDefinition)⟩
  | "interface" =>
    let interfaces ← interfaces
    let directives ← directives true
    return ⟨name, directives, .interface interfaces (← optionalMany '{' '}' fieldDefinition)⟩
  | "union" =>
    let directives ← directives true
    let members ← if ← mark? '=' then delimited '|' Parser.name else pure []
    return ⟨name, directives, .union members⟩
  | "enum" =>
    let directives ← directives true
    return ⟨name, directives, .enum (← optionalMany '{' '}' enumValueDefinition)⟩
  | "input" =>
    let directives ← directives true
    return ⟨name, directives, .input (← optionalMany '{' '}' inputDefinition)⟩
  | _ => throw (.unexpected kind.position)

/-- The definition of a directive. -/
def directiveDefinition : Parser DirectiveDefinition := do
  keyword "directive"
  mark '@'
  let name ← name
  let arguments ← optionalMany '(' ')' inputDefinition
  let repeatable ← keyword? "repeatable"
  keyword "on"
  return ⟨name, arguments, repeatable, ← delimited '|' directiveLocation⟩

/-- Whether an extension adds nothing, which the language does not allow. -/
def addsNothing (definition : TypeDefinition) : Bool :=
  definition.directives.isEmpty &&
    match definition.content with
    | .scalar => true
    | .object interfaces fields | .interface interfaces fields =>
      interfaces.isEmpty && fields.isEmpty
    | .union members => members.isEmpty
    | .enum values => values.isEmpty
    | .input fields => fields.isEmpty

/-- An extension. -/
def extension : Parser Definition := do
  keyword "extend"
  if ← keyword? "schema" then
    let directives ← directives true
    let roots ← optionalMany '{' '}' rootType
    if directives.isEmpty && roots.isEmpty then refuse
    return .rootExtension ⟨directives, roots⟩
  else
    let definition ← typeDefinition
    if addsNothing definition then refuse
    return .typeExtension definition

/-- A definition. All but extensions and operations without a keyword take a description. -/
def definition : Parser Definition := do
  let described ← description?
  match ← peek with
  | some (.mark '{') =>
    if described then refuse
    return .operation ⟨.query, none, [], [], ← selections⟩
  | some (.name "schema") =>
    keyword "schema"
    let directives ← directives true
    return .root ⟨directives, ← many '{' '}' rootType⟩
  | some (.name "directive") => return .directive (← directiveDefinition)
  | some (.name word) =>
    if word ∈ typeKeywords then return .type (← typeDefinition)
    if word = "fragment" then return .fragment (← fragment)
    if word = "extend" then
      if described then refuse
      return ← extension
    return .operation (← operation)
  | _ => refuse

/-- Definitions up to the end of the text, at most as many as the bound. -/
def definitionsWithin : Nat → Parser (List Definition)
  | 0 => refuse
  | n + 1 => do
    match ← peek with
    | none => return []
    | some _ =>
      let first ← definition
      let rest ← definitionsWithin n
      return first :: rest

/-- A document holds at least one definition. -/
def document : Parser Document := do
  let first ← definition
  return ⟨first :: (← definitionsWithin (← bound))⟩

end Parser

/-- Reads a source text as a document. -/
def Document.parse (source : String) : Except SyntaxError Document := do
  let tokens ← Token.tokens? source
  return (← Parser.document.run (tokens.length + 1) tokens).1

end SchemaVisibility.GraphQL
