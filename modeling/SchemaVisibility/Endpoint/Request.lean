import SchemaVisibility.Endpoint.Address
import SchemaVisibility.Endpoint.ContentType
import SchemaVisibility.Endpoint.Form
import SchemaVisibility.Json.Literal
import SchemaVisibility.Json.Whole

/-! # Requests

A request carries the payload of an operation either as JSON in its body or as a form in the query
of its address. Each header stands under the upper case key with underscores by which the server
knows it.
-/

namespace SchemaVisibility.Endpoint

/-- The two ways to send an operation. -/
inductive Method where
  | get
  | post
  deriving DecidableEq, Repr

/-- The written form of a method. -/
def Method.label : Method → String
  | get => "GET"
  | post => "POST"

/-- The method that a name stands for: `GET` in any case, or else `POST`. -/
def Method.ofName (name : String) : Method :=
  if name.toUpper = "GET" then .get else .post

/-- A request. -/
structure Request where
  method : Method
  address : Address
  /-- The headers under the server's keys. -/
  headers : Table String
  content : ContentType
  /-- The charset of the content with its name, if a known one is told. -/
  charset? : Option (String × Text.Charset)
  body : String
  deriving Repr

/-- Why a payload cannot be sent. -/
inductive RequestError where
  /-- The payload is no mapping and no list of names with values. -/
  | noMapping
  /-- An entry of the payload is no pair. -/
  | noPair
  /-- A name in the payload is a list or a mapping. -/
  | compositeName
  /-- A parameter of an address has to have a value. -/
  | nullParameter (name : String)
  | hostRefused
  | header (error : HeaderError)
  | form (error : Form.Error)
  deriving DecidableEq, Repr

/-- The path of the endpoint unless another one is given. -/
def defaultPath : String := "/graphql/"

/-- The key under which the server knows the type of the content. -/
def contentTypeKey : String := "CONTENT_TYPE"

/-- The content type of JSON. -/
def jsonType : String := "application/json"

/-! ## Headers -/

/-- The server's key for a header name. All headers but the content type have a mark in front, which
is not put there twice. -/
def headerKey (name : String) : String :=
  let key := String.ofList (Text.upper (name.toList.map fun c => if c = '-' then '_' else c))
  if key = contentTypeKey || key.startsWith "HTTP_" then key else "HTTP_" ++ key

/-- Headers under their keys; of headers with one key the last counts. -/
def headerTable (headers : Table String) : Table String :=
  Table.ofList (headers.map fun (name, value) => (headerKey name, value))

/-! ## Payloads -/

/-- The payload of an operation. Variables and an operation name are there only if given. -/
def payload (query : Json) (values : Option Json) (operationName : Option Json) : Table Json :=
  [("query", query)] ++ (values.map fun value => ("variables", value)).toList ++
    (operationName.map fun name => ("operationName", name)).toList

/-- The whole number that a name is equal to, if it is a number or a truth value. -/
def wholeNumber? : Json → Option Int
  | .bool value => some (if value then 1 else 0)
  | .int value => some value
  | .decimal text => Json.wholeDecimal? text
  | _ => none

/-- Whether two names are one. Numbers and truth values are compared as numbers. -/
def isSameName (a b : Json) : Bool :=
  a = b || ((wholeNumber? a).isSome && wholeNumber? a == wholeNumber? b)

/-- Enters a name with its value: in its place if the name is known, else at the end. -/
def enterName (name value : Json) : List (Json × Json) → List (Json × Json)
  | [] => [(name, value)]
  | (other, old) :: rest =>
    if isSameName other name then (other, value) :: rest
    else (other, old) :: enterName name value rest

/-- The name and the value that an entry of a list stands for: a list, a mapping or a text of
two. -/
def pairOf : Json → Except RequestError (Json × Json)
  | .arr [name, value] => .ok (name, value)
  | .obj [(name, _), (value, _)] => .ok (.str name, .str value)
  | .str text =>
    match text.toList with
    | [name, value] => .ok (.str name.toString, .str value.toString)
    | _ => .error .noPair
  | .arr _ | .obj _ => .error .noPair
  | _ => .error .noMapping

/-- Enters the pair of an entry. A list or a mapping cannot be a name. -/
def enterPair (entered : List (Json × Json)) (entry : Json) :
    Except RequestError (List (Json × Json)) := do
  match ← pairOf entry with
  | (.arr _, _) | (.obj _, _) => throw .compositeName
  | (name, value) => return enterName name value entered

/-- The names and values of a payload: a mapping, or what can be made one. -/
def entriesOf : Json → Except RequestError (List (Json × Json))
  | .obj members => .ok (members.map fun (name, value) => (.str name, value))
  | .arr items => items.foldlM enterPair []
  | .str text => if text = "" then .ok [] else .error .noPair
  | _ => .error .noMapping

/-- The texts of an item in a list of values. -/
def itemTexts (name : String) : List Json → Except RequestError (List String)
  | [] => .ok []
  | .null :: _ => .error (.nullParameter name)
  | item :: rest => do
    return item.display :: (← itemTexts name rest)

/-- The values of a parameter. A list stands for several values, a mapping for its names; the
variables are one value as JSON text if they are a mapping. -/
def parameterTexts (name value : Json) : Except RequestError (List String) :=
  match value with
  | .null => .error (.nullParameter name.display)
  | .arr items => itemTexts name.display items
  | .obj members =>
    if name = .str "variables" then .ok [(Json.obj members).print] else .ok (Table.keys members)
  | value => .ok [value.display]

/-- The parameters of a payload. -/
def parameterTable : List (Json × Json) → Except RequestError (List (String × List String))
  | [] => .ok []
  | (name, value) :: rest => do
    let texts ← parameterTexts name value
    return (name.display, texts) :: (← parameterTable rest)

namespace Request

/-- The named values in the query of the address. -/
def parameters (request : Request) : Except Form.Error (Table (List String)) :=
  Form.read ((request.charset?.map Prod.snd).getD .utf8) (Text.Utf8.encode request.address.query)

/-- A request whose headers could be read. If a charset is told, the query has to be readable. -/
def ofParts (method : Method) (address : Address) (headers : Table String) (body : String) :
    Except RequestError Request := do
  let content ← (ContentType.parse ((headers.get? contentTypeKey).getD "")).mapError .header
  let charset? ← content.charset?.mapError .header
  let request : Request := ⟨method, address, headers, content, charset?, body⟩
  if charset?.isSome then
    let _ ← request.parameters.mapError .form
  return request

/-- The request that carries a payload to a path. The query of the path counts if the payload puts
nothing in its place. -/
def build (payload : Json) (method : Method) (path : String) (headers : Table String) :
    Except RequestError Request := do
  let headers := headerTable headers
  match method with
  | .get =>
    let entries ← entriesOf payload
    let some address := Address.parse? path | throw .hostRefused
    let query := Form.write (← parameterTable entries)
    let address := if query.isEmpty then address else { address with query }
    ofParts .get address headers ""
  | .post =>
    let headers :=
      if (headers.get? contentTypeKey).isSome then headers
      else headers.insert contentTypeKey jsonType
    let some address := Address.parse? path | throw .hostRefused
    ofParts .post address headers payload.print

end Request

end SchemaVisibility.Endpoint
