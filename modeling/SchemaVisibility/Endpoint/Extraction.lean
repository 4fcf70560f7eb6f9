import SchemaVisibility.Endpoint.Request
import SchemaVisibility.Endpoint.View
import SchemaVisibility.Json.Reader

/-! # Operations from requests

A parameter of the address counts before the field of the body with its name, unless it is empty.
Variables that are text are read as JSON. The operation name `null` means none. A body can be JSON,
a query, or a form.
-/

namespace SchemaVisibility.Endpoint

/-- Why no operation can be read from a request. -/
inductive ExtractionError where
  | variablesNoJson
  | bodyNoJson
  | bodyNoObject
  | bodyNoList (value : Json)
  | emptyBatch
  | unreadable (reason : Unreadable)
  deriving DecidableEq, Repr

/-- The fault of a request from which no operation can be read. -/
def ExtractionError.fault : ExtractionError → Fault
  | variablesNoJson => .badRequest "Variables are invalid JSON."
  | bodyNoJson => .badRequest "POST body sent invalid JSON."
  | bodyNoObject => .badRequest "The received data is not a valid JSON query."
  | bodyNoList value =>
    .badRequest ("Batch requests should receive a list, but received " ++
      String.ofList value.literal ++ ".")
  | emptyBatch => .badRequest "Received an empty list in the batch request."
  | unreadable reason => .unreadable reason

/-- The error of a form that cannot be read. -/
def ExtractionError.ofForm : Form.Error → ExtractionError
  | .tooManyFields => .unreadable .tooManyFields
  | .refused => .unreadable .refused
  | .unreadableField => .unreadable .unreadableField
  | .charsetWithoutText => .unreadable .charsetWithoutText

/-- The content type of a form. -/
def formType : String := "application/x-www-form-urlencoded"

/-- The content type of a form whose fields are parts with headers of their own. -/
def partsType : String := "multipart/form-data"

namespace Request

/-- The header by which the content is told apart, as it is written. -/
def rawType (request : Request) : String :=
  (request.headers.get? contentTypeKey).getD
    ((request.headers.get? ("HTTP_" ++ contentTypeKey)).getD "")

/-- The content type by which the body is read: up to the first semicolon, in lower case. -/
def bodyType (request : Request) : String :=
  String.ofList (Text.lower (request.rawType.toList.takeWhile (· != ';')))

/-- A part of an operation: the last value of the parameter of its name, or else the field of the
body. -/
def part (parameters : Table (List String)) (entry : Table Json) (name : String) : Json :=
  match (parameters.get? name).bind List.getLast? with
  | some text => if text = "" then (entry.get? name).getD .null else .str text
  | none => (entry.get? name).getD .null

/-- The variables of an operation: text is read as JSON unless it is empty. -/
def variableValues (value : Json) : Except ExtractionError Json :=
  match value with
  | .str text =>
    if text = "" then .ok (.str text)
    else
      match Json.parse? text with
      | some values => .ok values
      | none => .error .variablesNoJson
  | other => .ok other

/-- The operation that a request asks for with an entry of its body. -/
def params (request : Request) (entry : Table Json) : Except ExtractionError Params := do
  let parameters ← request.parameters.mapError .ofForm
  let operationName := part parameters entry "operationName"
  return {
    query := part parameters entry "query"
    variableValues := ← variableValues (part parameters entry "variables")
    operationName := if operationName = .str "null" then .null else operationName
    id := part parameters entry "id" }

/-- The fields of a body that is a form; of several values the last counts. Only a form that is
posted counts, and only in UTF-8. A content in parts has no fields here, but it has to tell the
boundary between its parts. -/
def formFields (request : Request) : Except ExtractionError (Table Json) := do
  if request.method ≠ .post then return []
  else if request.content.media = formType then
    if request.charset?.any fun (name, _) => Text.lower name.toList ≠ "utf-8".toList then
      throw (.unreadable .foreignForm)
    let fields ← (Form.read .utf8 (Text.Utf8.encode request.body.toList)).mapError .ofForm
    return fields.map fun (name, values) => (name, .str (values.getLast?.getD ""))
  else if request.content.media = partsType then
    let header := (request.headers.get? contentTypeKey).getD ""
    let boundary := (request.content.parameters.get? "boundary").getD ""
    if header.startsWith "multipart/" && header.toList.all Text.Percent.isAscii &&
        ContentType.isBoundary boundary.toList then return []
    else throw (.unreadable .noBoundary)
  else return []

/-- The body as JSON. A query that is sent as it is, and a form, are read as objects; a body of
another type holds nothing. -/
def json (request : Request) : Except ExtractionError Json :=
  if request.bodyType = "application/graphql" then .ok (.obj [("query", .str request.body)])
  else if request.bodyType = jsonType then
    match Json.parse? request.body with
    | some value => .ok value
    | none => .error .bodyNoJson
  else if request.bodyType = formType || request.bodyType = partsType then
    request.formFields.map .obj
  else .ok (.obj [])

/-- The one entry of a request with a single operation. -/
def entry (request : Request) : Except ExtractionError (Table Json) := do
  match ← request.json with
  | .obj members => return members
  | _ => throw .bodyNoObject

/-- The entries of a request with a batch of operations. -/
def entries (request : Request) : Except ExtractionError (List Json) := do
  match ← request.json with
  | .arr [] => throw .emptyBatch
  | .arr items => return items
  | other => throw (.bodyNoList other)

end Request

end SchemaVisibility.Endpoint
