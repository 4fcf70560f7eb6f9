import SchemaVisibility.Endpoint.Extraction

/-! # Responses

The response to an operation holds its data, or its errors alone if there are any. In a batch each
response also has the identifier of its operation and a status, and the batch has the largest of
them. What cannot be answered at all is answered by one error for the whole request.
-/

namespace SchemaVisibility.Endpoint

open GraphQL

/-- An error as a client sees it. -/
def encodeError (error : ResponseError) : Json :=
  let locations : Table Json :=
    match error.position with
    | some place =>
      [("locations", .arr [.obj [("line", .int place.line), ("column", .int place.column)]])]
    | none => []
  let extensions : Table Json :=
    match error.code with
    | some code => [("extensions", .obj [("code", .str code)])]
    | none => []
  .obj ([("message", .str error.message)] ++ locations ++ extensions)

/-- The response to a whole request that cannot be answered. -/
def refusal (message : String) : Json :=
  .obj [("errors", .arr [encodeError (.ofMessage message)])]

/-- The status of a result: an error that is no part of the data makes the request a bad one. -/
def statusOf (result : ExecutionResult) : Nat :=
  if result.errors.isEmpty then 200 else 400

/-- The members of a response. -/
def responseOf (result : ExecutionResult) : Table Json :=
  if result.errors.isEmpty then [("data", result.data)]
  else [("errors", .arr (result.errors.map encodeError))]

/-- What a client gets. -/
structure Reply where
  response : Json
  status : Nat
  deriving Inhabited

namespace Session

variable {σ : Type}

/-- The operation of an entry is read and answered; no page shows the answer. -/
def answer (engine : Engine σ) (catalog : Catalog) (request : Request) (session : Session σ)
    (entry : Table Json) : Except Fault (Params × Option ExecutionResult) × Session σ :=
  match request.params entry with
  | .error error => (.error error.fault, session)
  | .ok params =>
    let (outcome, session) := session.execute engine catalog ⟨request, entry, false⟩ params
    (outcome.map fun result => (params, result), session)

/-- A fault of a bad request is answered by its wording. -/
def refuse (outcome : Except Fault Reply) : Except Fault Reply :=
  match outcome with
  | .error (.badRequest message) => .ok ⟨refusal message, 400⟩
  | other => other

/-- Answers a request with one operation. -/
def serve (engine : Engine σ) (catalog : Catalog) (session : Session σ) (request : Request) :
    Except Fault Reply × Session σ :=
  match request.entry with
  | .error error => (refuse (.error error.fault), session)
  | .ok entry =>
    let (outcome, session) := session.answer engine catalog request entry
    let reply := outcome.map fun (_, result) =>
      match result with
      | some result => ⟨.obj (responseOf result), statusOf result⟩
      | none => ⟨.null, 200⟩
    (refuse reply, session)

/-- The reply to one operation of a batch. -/
def batchReply (params : Params) (result : Option ExecutionResult) : Reply :=
  match result with
  | some result =>
    let status := statusOf result
    ⟨.obj (responseOf result ++ [("id", params.id), ("status", .int status)]), status⟩
  | none => ⟨.null, 200⟩

/-- Answers the entries of a batch one after the other, up to the first fault. -/
def answerAll (engine : Engine σ) (catalog : Catalog) (request : Request) (session : Session σ) :
    List Json → Except Fault (List Reply) × Session σ
  | [] => (.ok [], session)
  | .obj entry :: rest =>
    match session.answer engine catalog request entry with
    | (.error fault, session) => (.error fault, session)
    | (.ok (params, result), session) =>
      let (outcome, session) := answerAll engine catalog request session rest
      (outcome.map fun replies => batchReply params result :: replies, session)
  | _ :: _ => (.error .malformedEntry, session)

/-- Answers a request with a batch of operations through one view. -/
def serveBatch (engine : Engine σ) (catalog : Catalog) (session : Session σ)
    (request : Request) : Except Fault Reply × Session σ :=
  match request.entries with
  | .error error => (refuse (.error error.fault), session)
  | .ok entries =>
    let (outcome, session) := session.answerAll engine catalog request entries
    let reply := outcome.map fun replies =>
      ⟨.arr (replies.map Reply.response), (replies.map Reply.status).foldl max 0⟩
    (refuse reply, session)

end Session

end SchemaVisibility.Endpoint
