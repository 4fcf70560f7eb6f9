import SchemaVisibility.Endpoint.Response
import SchemaVisibility.Proofs.Endpoint.Form
import SchemaVisibility.Proofs.Json.RoundTrip

/-! # The two ways to send an operation

The payload of an operation goes out in the address of a request or in its body. An address carries
the query and the name of the operation as they are and the variables as JSON text; a body carries
all of them in one JSON text. `build_get` and `build_post` say which requests that makes, and
`handed_getRequest` and `handed_postRequest` what is read from them: the parts that were put in,
with the variables as they come back from JSON (`Json.reread?`).

How a body is read depends on the header that tells the type of the content. That header is looked
up under two keys, and `tellsContentType` holds of the names that lead to either of them.
-/

namespace SchemaVisibility.Endpoint

/-- Whether the name of a header is that of the type of the content, in any case, with hyphens or
underscores, and with the mark of the server in front or without. -/
def tellsContentType (name : String) : Bool :=
  headerKey name = contentTypeKey || headerKey name = "HTTP_" ++ contentTypeKey

/-- What a request hands over to be executed, if an operation can be read from it. -/
def Request.handed (request : Request) : Option Params :=
  (request.entry >>= request.params).toOption

theorem get?_headerTable {headers : Table String} {key : String}
    (h : ∀ entry ∈ headers, headerKey entry.1 ≠ key) : (headerTable headers).get? key = none := by
  rw [headerTable, Table.ofList, Table.get?_insertAll, Table.get?_nil, Option.or_none,
    Option.map_eq_none_iff, List.find?_eq_none]
  intro entry hentry
  obtain ⟨header, hheader, rfl⟩ := List.mem_map.mp (List.mem_reverse.mp hentry)
  simpa using h header hheader

/-- Where no header tells the type of the content, it stands under none of its keys. -/
theorem get?_contentType {headers : Table String}
    (h : ∀ header ∈ headers, tellsContentType header.1 = false) :
    (headerTable headers).get? contentTypeKey = none ∧
      (headerTable headers).get? ("HTTP_" ++ contentTypeKey) = none := by
  have hkeys : ∀ header ∈ headers, headerKey header.1 ≠ contentTypeKey ∧
      headerKey header.1 ≠ "HTTP_" ++ contentTypeKey := by
    intro header hheader
    have htells := h header hheader
    rw [tellsContentType, Bool.or_eq_false_iff, decide_eq_false_iff_not,
      decide_eq_false_iff_not] at htells
    exact htells
  exact ⟨get?_headerTable fun header hheader => (hkeys header hheader).1,
    get?_headerTable fun header hheader => (hkeys header hheader).2⟩

theorem parse_defaultPath : Address.parse? defaultPath = some ⟨defaultPath, []⟩ := by
  decide +kernel

theorem parse_noType : ContentType.parse "" = .ok ⟨"", []⟩ := by
  decide +kernel

theorem parse_jsonType : ContentType.parse jsonType = .ok ⟨jsonType, []⟩ := by
  decide +kernel

/-! ### Building -/

/-- The payload of an operation with variables that are an object. -/
abbrev operationPayload (query : String) (values : Option (List (String × Json)))
    (name : Option String) : Table Json :=
  payload (.str query) (values.map .obj) (name.map .str)

/-- The values that the address of an operation carries. -/
def addressValues (query : String) (values : Option (List (String × Json)))
    (name : Option String) : List (String × List String) :=
  [("query", [query])] ++
    (values.map fun members => ("variables", [(Json.obj members).print])).toList ++
    (name.map fun name => ("operationName", [name])).toList

/-- The request that carries an operation in its address. -/
def getRequest (query : String) (values : Option (List (String × Json))) (name : Option String)
    (headers : Table String) : Request where
  method := .get
  address := ⟨defaultPath, Form.write (addressValues query values name)⟩
  headers := headerTable headers
  content := ⟨"", []⟩
  charset? := none
  body := ""

/-- The request that carries an operation in its body. -/
def postRequest (query : String) (values : Option (List (String × Json))) (name : Option String)
    (headers : Table String) : Request where
  method := .post
  address := ⟨defaultPath, []⟩
  headers := (headerTable headers).insert contentTypeKey jsonType
  content := ⟨jsonType, []⟩
  charset? := none
  body := (Json.obj (operationPayload query values name)).print

section

variable {query : String} {values : Option (List (String × Json))} {name : Option String}
  {headers : Table String}

theorem parameterTable_payload (query : String) (values : Option (List (String × Json)))
    (name : Option String) :
    (entriesOf (.obj (operationPayload query values name))).bind parameterTable =
      .ok (addressValues query values name) := by
  cases values <;> cases name <;> rfl

theorem build_get (hheaders : ∀ header ∈ headers, tellsContentType header.1 = false) :
    Request.build (.obj (operationPayload query values name)) .get defaultPath headers =
      .ok (getRequest query values name headers) := by
  have htype := (get?_contentType hheaders).1
  have hquery : (Form.write (addressValues query values name)).isEmpty = false := by
    rw [Bool.eq_false_iff]
    intro hempty
    exact Form.write_ne_nil (by simp [addressValues, Form.pairs]) (List.isEmpty_iff.mp hempty)
  obtain ⟨entries, hentries, htable⟩ :=
    Fallible.bind_eq_ok.mp (parameterTable_payload query values name)
  rw [Request.build, hentries, parse_defaultPath]
  simp only [Fallible.ok_bind, htable]
  rw [hquery, Request.ofParts, htype, Option.getD_none, parse_noType]
  rfl

theorem build_post (hheaders : ∀ header ∈ headers, tellsContentType header.1 = false) :
    Request.build (.obj (operationPayload query values name)) .post defaultPath headers =
      .ok (postRequest query values name headers) := by
  have htype := (get?_contentType hheaders).1
  have hjson : ((headerTable headers).insert contentTypeKey jsonType).get? contentTypeKey =
      some jsonType := by
    rw [Table.get?_insert, if_pos rfl]
  rw [Request.build, htype, parse_defaultPath]
  simp only [Option.isSome_none, Bool.false_eq_true, if_false]
  rw [Request.ofParts, hjson, Option.getD_some, parse_jsonType]
  rfl

/-! ### Reading -/

theorem part_of_text {parameters : Table (List String)} {entry : Table Json} {key text : String}
    (h : parameters.get? key = some [text]) (htext : text ≠ "") :
    Request.part parameters entry key = .str text := by
  rw [Request.part, h]
  exact if_neg htext

/-- What is handed over is made of the parts of the operation. -/
theorem toOption_params {request : Request} {parameters : Table (List String)}
    (h : request.parameters = .ok parameters) (entry : Table Json) :
    (request.params entry).toOption =
      (Request.variableValues (Request.part parameters entry "variables")).toOption.map fun value =>
        let operationName := Request.part parameters entry "operationName"
        ⟨Request.part parameters entry "query", value,
          if operationName = .str "null" then .null else operationName,
          Request.part parameters entry "id"⟩ := by
  rw [Request.params, h]
  change (Request.variableValues (Request.part parameters entry "variables") >>= fun value =>
    pure _).toOption = _
  cases Request.variableValues (Request.part parameters entry "variables") with
  | error error => rfl
  | ok value => rfl

theorem parameters_getRequest :
    (getRequest query values name headers).parameters = .ok (addressValues query values name) := by
  have hfew : (Form.pairs (addressValues query values name)).length ≤ Form.maxFields := by
    cases values <;> cases name <;> simp [addressValues, Form.pairs, Form.maxFields]
  rw [Request.parameters]
  refine (Form.read_write hfew).trans ?_
  cases values <;> cases name <;> rfl

theorem parameters_postRequest : (postRequest query values name headers).parameters = .ok [] :=
  rfl

/-- The body of a request in the address counts as an object without members. -/
theorem entry_getRequest (hheaders : ∀ header ∈ headers, tellsContentType header.1 = false) :
    (getRequest query values name headers).entry = .ok [] := by
  obtain ⟨htype, hmarked⟩ := get?_contentType hheaders
  have hraw : (getRequest query values name headers).rawType = "" := by
    change ((headerTable headers).get? contentTypeKey).getD
      (((headerTable headers).get? ("HTTP_" ++ contentTypeKey)).getD "") = ""
    rw [htype, hmarked]
    rfl
  rw [Request.entry, Request.json, Request.bodyType, hraw]
  rfl

/-- The variables of an operation after they were written and read. -/
def rereadValues? (values : Option (List (String × Json))) : Option Json :=
  match values with
  | none => some .null
  | some members => (Json.obj members).reread?

/-- The name of an operation as it is handed over. -/
def handedName (name : Option String) : Json :=
  if name = some "null" then .null else (name.map .str).getD .null

theorem handedName_eq (name : Option String) :
    (if (name.map Json.str).getD .null = .str "null" then .null
      else (name.map Json.str).getD .null) = handedName name := by
  cases name with
  | none => rfl
  | some text =>
    by_cases htext : text = "null"
    · rw [handedName, if_pos (congrArg some htext)]
      exact if_pos (congrArg Json.str htext)
    · rw [handedName, if_neg fun h => htext (Option.some.inj h)]
      exact if_neg fun h => htext (Json.str.inj h)

theorem print_ne_empty {value : Json} (h : value.everywhere Json.isExact = true) :
    value.print ≠ "" := by
  obtain ⟨c, more, hwrite, -⟩ := (Json.rereads_of_isExact value h).starts
  intro hprint
  have hnil : value.print.toList = [] := by rw [hprint]; rfl
  rw [Json.print, String.toList_ofList, hwrite] at hnil
  cases hnil

/-- What is sent in an address is handed over, with the variables as reread. -/
theorem handed_getRequest (hquery : query ≠ "")
    (hvalues : ∀ members ∈ values, (Json.obj members).everywhere Json.isExact = true)
    (hname : ∀ text ∈ name, text ≠ "")
    (hheaders : ∀ header ∈ headers, tellsContentType header.1 = false) :
    (getRequest query values name headers).handed =
      (rereadValues? values).map fun value => ⟨.str query, value, handedName name, .null⟩ := by
  have hquerypart : Request.part (addressValues query values name) [] "query" = .str query :=
    part_of_text rfl hquery
  have hid : Request.part (addressValues query values name) [] "id" = .null := by
    cases values <;> cases name <;> rfl
  have hnamepart : Request.part (addressValues query values name) [] "operationName" =
      (name.map .str).getD .null := by
    cases name with
    | none => cases values <;> rfl
    | some text => cases values <;> exact part_of_text rfl (hname text rfl)
  have hvariables : (Request.variableValues
      (Request.part (addressValues query values name) [] "variables")).toOption =
        rereadValues? values := by
    cases values with
    | none => cases name <;> rfl
    | some members =>
      have hexact := hvalues members rfl
      rw [part_of_text rfl (print_ne_empty hexact), Request.variableValues,
        if_neg (print_ne_empty hexact), Json.parse?_print hexact, rereadValues?]
      cases (Json.obj members).reread? <;> rfl
  rw [Request.handed, entry_getRequest hheaders, Fallible.ok_bind,
    toOption_params parameters_getRequest, hvariables, hquerypart, hnamepart, hid]
  simp only [handedName_eq]

theorem reread?_payload :
    (Json.obj (operationPayload query values name)).reread? =
      (rereadValues? values).map fun value =>
        .obj (payload (.str query) (values.map fun _ => value) (name.map .str)) := by
  cases values with
  | none => cases name <;> rfl
  | some members =>
    rw [rereadValues?, Json.reread?, operationPayload, payload]
    simp only [Option.map_some, Option.toList_some, List.cons_append, List.nil_append,
      Json.rereadMembers?]
    cases (Json.obj members).reread? with
    | none => rfl
    | some value => cases name <;> rfl

/-- A payload is without decimals if its variables are. -/
theorem isExact_payload
    (hvalues : ∀ members ∈ values, (Json.obj members).everywhere Json.isExact = true) :
    (Json.obj (operationPayload query values name)).everywhere Json.isExact = true := by
  cases values with
  | none => cases name <;> rfl
  | some members =>
    simp only [operationPayload, payload, Option.map_some, Option.toList_some, List.cons_append,
      List.nil_append, Json.everywhere, Json.everywhereMembers, Json.isExact, Bool.true_and]
    have hmembers := hvalues members rfl
    simp only [Json.everywhere, Json.isExact, Bool.true_and] at hmembers
    rw [hmembers]
    cases name <;> rfl

/-- The body of a posted request is read as the payload, with the variables as reread. -/
theorem entry_postRequest
    (hvalues : ∀ members ∈ values, (Json.obj members).everywhere Json.isExact = true) :
    (postRequest query values name headers).entry.toOption =
      (rereadValues? values).map fun value =>
        payload (.str query) (values.map fun _ => value) (name.map .str) := by
  have hraw : (postRequest query values name headers).rawType = jsonType := by
    change (((headerTable headers).insert contentTypeKey jsonType).get? contentTypeKey).getD _ = _
    rw [Table.get?_insert, if_pos rfl]
    rfl
  have hbody : (postRequest query values name headers).bodyType = jsonType := by
    rw [Request.bodyType, hraw]
    decide +kernel
  have htext : Json.parse? (postRequest query values name headers).body = _ :=
    Json.parse?_print (isExact_payload hvalues)
  rw [Request.entry, Request.json, hbody, if_neg (by decide), if_pos rfl, htext, reread?_payload]
  cases rereadValues? values with
  | none => rfl
  | some value => rfl

/-- What is sent in a body is handed over, with the variables as reread. -/
theorem handed_postRequest
    (hvalues : ∀ members ∈ values, (Json.obj members).everywhere Json.isExact = true) :
    (postRequest query values name headers).handed =
      (rereadValues? values).map fun value => ⟨.str query, value, handedName name, .null⟩ := by
  have hentry : (postRequest query values name headers).entry.toOption = _ :=
    entry_postRequest hvalues
  rw [Request.handed]
  cases hreread : rereadValues? values with
  | none =>
    rw [hreread, Option.map_none, Fallible.toOption_eq_none] at hentry
    obtain ⟨error, hentry⟩ := hentry
    rw [hentry]
    rfl
  | some value =>
    rw [hreread, Option.map_some, Fallible.toOption_eq_some] at hentry
    have hvariables : Request.part [] (payload (.str query) (values.map fun _ => value)
        (name.map .str)) "variables" = value ∧ Request.variableValues value = .ok value := by
      cases values with
      | none =>
        cases hreread
        cases name <;> exact ⟨rfl, rfl⟩
      | some members =>
        obtain ⟨reread, -, rfl⟩ := Option.map_eq_some_iff.mp hreread
        cases name <;> exact ⟨rfl, rfl⟩
    have hnamepart : Request.part [] (payload (.str query) (values.map fun _ => value)
        (name.map .str)) "operationName" = (name.map .str).getD .null := by
      cases values <;> cases name <;> rfl
    have hid : Request.part [] (payload (.str query) (values.map fun _ => value)
        (name.map .str)) "id" = .null := by
      cases values <;> cases name <;> rfl
    rw [hentry, Fallible.ok_bind, toOption_params (parameters_postRequest) _, hvariables.1,
      hvariables.2, hnamepart, hid]
    simp only [handedName_eq]
    rfl

end

/-! ### Serving -/

theorem exists_entry_of_handed {request : Request} {params : Params}
    (h : request.handed = some params) :
    ∃ entry, request.entry = .ok entry ∧ request.params entry = .ok params :=
  Fallible.bind_eq_ok.mp (Fallible.toOption_eq_some.mp h)

/-- An engine that looks at an operation and at the rules, and not at what the operation comes
with. -/
def Engine.ofParams {σ : Type} (run : Params → Option (List EngineRule) → σ →
    Except Fault (Option ExecutionResult) × σ) : Engine σ :=
  fun call => run call.params call.rules

/-- A session serves requests alike that hand over the same, before an engine that does not look at
the requests. -/
theorem serve_eq_of_handed {σ : Type} (run : Params → Option (List EngineRule) → σ →
      Except Fault (Option ExecutionResult) × σ) (catalog : Catalog) (session : Session σ)
    {a b : Request} {params : Params} (ha : a.handed = some params) (hb : b.handed = some params) :
    session.serve (.ofParams run) catalog a = session.serve (.ofParams run) catalog b := by
  obtain ⟨entry, hentry, hparams⟩ := exists_entry_of_handed ha
  obtain ⟨other, hother, hparams'⟩ := exists_entry_of_handed hb
  have hcontext : session.execute (.ofParams run) catalog ⟨a, entry, false⟩ params =
      session.execute (.ofParams run) catalog ⟨b, other, false⟩ params := rfl
  rw [Session.serve, Session.serve, hentry, hother]
  simp only [Session.answer, hparams, hparams', hcontext]

/-- **Both ways to send an operation hand over the same.** Whatever variables without decimals go
with it, under whatever name, and with whatever headers that do not tell the type of the content,
an operation can be sent in both ways, and query, variables and name are read alike. If no integer
is too long and no object has a name twice, they are those that were sent, where the name `null`
stands for none, and a session serves both requests alike, before every engine that does not look at
the requests themselves. -/
theorem methods_hand_over_alike (query : String) (values : Option (List (String × Json)))
    (name : Option String) (headers : Table String) (hquery : query ≠ "")
    (hvalues : ∀ members ∈ values, (Json.obj members).everywhere Json.isExact = true)
    (hname : ∀ text ∈ name, text ≠ "")
    (hheaders : ∀ header ∈ headers, tellsContentType header.1 = false) :
    ∃ get post,
      Request.build (.obj (payload (.str query) (values.map .obj) (name.map .str))) .get
        defaultPath headers = .ok get ∧
      Request.build (.obj (payload (.str query) (values.map .obj) (name.map .str))) .post
        defaultPath headers = .ok post ∧
      get.handed = post.handed ∧
      ((∀ members ∈ values, (Json.obj members).everywhere Json.readsBack = true) →
        get.handed = some ⟨.str query, (values.map .obj).getD .null,
          if name = some "null" then .null else (name.map .str).getD .null, .null⟩ ∧
        ∀ (σ : Type) (run : Params → Option (List EngineRule) → σ →
            Except Fault (Option ExecutionResult) × σ) (catalog : Catalog) (session : Session σ),
          session.serve (.ofParams run) catalog get =
            session.serve (.ofParams run) catalog post) := by
  have hget := handed_getRequest hquery hvalues hname hheaders
  have hpost : (postRequest query values name headers).handed = _ := handed_postRequest hvalues
  refine ⟨_, _, build_get hheaders, build_post hheaders, hget.trans hpost.symm, fun hback => ?_⟩
  have hreread : rereadValues? values = some ((values.map .obj).getD .null) := by
    cases values with
    | none => rfl
    | some members => exact (Json.isExact_of_readsBack _ (hback members rfl)).2
  rw [hreread] at hget hpost
  exact ⟨hget, fun σ run catalog session => serve_eq_of_handed run catalog session hget hpost⟩

/-- Nested variables with escapes, an operation with the name that stands for none, and a header. -/
theorem methods_hand_over_alike_of_nested :
    ∃ (query : String) (values : List (String × Json)) (headers : Table String)
      (get post : Request),
      (∀ header ∈ headers, tellsContentType header.1 = false) ∧
      Request.build (.obj (payload (.str query) (some (.obj values)) (some (.str "null")))) .get
        defaultPath headers = .ok get ∧
      Request.build (.obj (payload (.str query) (some (.obj values)) (some (.str "null")))) .post
        defaultPath headers = .ok post ∧
      get.handed = some ⟨.str query, .obj values, .null, .null⟩ ∧ post.handed = get.handed := by
  let query := "query ($n: String) \x7b name(n: $n) & \x7d"
  let values : List (String × Json) :=
    [("n", .str "\"é=&+%\\"), ("list", .arr [.int (-120), .null, .obj [], .obj [("", .bool true)]])]
  let headers : Table String := [("X-Request-Id", "abc")]
  have hheaders : ∀ header ∈ headers, tellsContentType header.1 = false := by decide +kernel
  have hvalues : ∀ members ∈ some values, (Json.obj members).everywhere Json.isExact = true := by
    intro members hmembers
    cases hmembers
    decide +kernel
  have hback : ∀ members ∈ some values, (Json.obj members).everywhere Json.readsBack = true := by
    intro members hmembers
    cases hmembers
    decide +kernel
  obtain ⟨get, post, hget, hpost, hsame, hexact⟩ := methods_hand_over_alike query (some values)
    (some "null") headers (by decide) hvalues (by simp) hheaders
  exact ⟨query, values, headers, get, post, hheaders, hget, hpost, (hexact hback).1, hsame.symm⟩

end SchemaVisibility.Endpoint
