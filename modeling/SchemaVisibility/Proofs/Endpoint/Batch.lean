import SchemaVisibility.Endpoint.Canned
import SchemaVisibility.Endpoint.Response
import SchemaVisibility.Proofs.Access.Visit
import SchemaVisibility.Proofs.Endpoint.Operation

/-! # The operations of a batch

A view that answers a batch keeps the rules that it has installed, and puts its access rule behind
them for each operation anew. So the operations of a batch are not checked alike: the engine gets
one copy of the access rule for the operation itself and one for each operation before it that had a
query (`Layered.execute`, `Layered.answers`). All copies read the same registry, and nothing else is
carried over. `answerAll_entry` compares an operation of a batch with the same operation on a view
of its own; where the engine makes no difference between one copy and many, there is none.

The engine does make a difference: copies of a rule repeat its denials, and `denied_twice_in_batch`
is a batch in which that happens.
-/

namespace SchemaVisibility.Endpoint

open GraphQL Fallible

/-! ### Layers of a rule -/

/-- The rules after a rule was put so many times behind the base; at first there are those that the
endpoint has. -/
def layers {α : Type} (first : Option (List α)) (base : List α) (added : α) : ℕ → Option (List α)
  | 0 => first
  | n + 1 => some (base ++ List.replicate (n + 1) added)

/-- The rules of a view that has installed an access rule so many times. -/
abbrev viewLayers (own : Option (List String)) (rule : RuleRef) (n : ℕ) :
    Option (List ViewRule) :=
  layers (ownRules own) (baseRules (ownRules own)) (.access rule) n

/-- The rules with which an engine is asked. -/
abbrev accessLayers (own : Option (List String)) (registry : Registry) (n : ℕ) :
    Option (List EngineRule) :=
  layers (engineOwn own) (engineBase own) (.access registry) n

theorem baseRules_of_ne_nil {rules : List ViewRule} (h : rules ≠ []) :
    baseRules (some rules) = rules := by
  cases rules with
  | nil => exact absurd rfl h
  | cons rule rules => rfl

theorem viewLayers_succ (own : Option (List String)) (rule : RuleRef) (n : ℕ) :
    some (baseRules (viewLayers own rule n) ++ [.access rule]) = viewLayers own rule (n + 1) := by
  cases n with
  | zero => rfl
  | succ n =>
    have hbase : baseRules (viewLayers own rule (n + 1)) = _ := baseRules_of_ne_nil (by simp)
    rw [hbase, List.append_assoc, ← List.replicate_succ']
    rfl

theorem map_viewLayers (plugin : Plugin) (own : Option (List String)) (rule : RuleRef) (n : ℕ) :
    (viewLayers own rule n).map (List.map (ViewRule.inForce plugin)) =
      accessLayers own (plugin.readBy rule) n := by
  cases n with
  | zero => exact map_ownRules plugin own
  | succ n =>
    rw [viewLayers, layers, Option.map_some, List.map_append, map_baseRules, List.map_replicate]
    rfl

/-- What the layers add to the rules of the endpoint. -/
theorem added_accessLayers (context : Context) (params : Params) (own : Option (List String))
    (registry : Registry) (n : ℕ) :
    (Call.mk context params (accessLayers own registry n)).added = List.replicate n registry := by
  have hown (names : List String) :
      (names.map EngineRule.own).filterMap EngineRule.registry? = [] := by
    rw [List.filterMap_map]
    exact List.filterMap_eq_nil_iff.mpr fun _ _ => rfl
  have hbase : (engineBase own).filterMap EngineRule.registry? = [] := by
    rcases own with _ | _ | ⟨name, names⟩
    · rfl
    · rfl
    · exact hown (name :: names)
  cases n with
  | zero =>
    cases own with
    | none => rfl
    | some names => exact hown names
  | succ n =>
    have hlayers : (List.replicate (n + 1) (EngineRule.access registry)).filterMap
        EngineRule.registry? = List.replicate (n + 1) registry :=
      List.filterMap_replicate_of_some rfl
    rw [Call.added, accessLayers, layers.eq_2, Option.getD_some, List.filterMap_append, hbase,
      hlayers, List.nil_append]

namespace Session

variable {σ : Type} {engine : Engine σ} {catalog : Catalog} {registry : Registry}
  {request : Request} {own : Option (List String)} {n : ℕ} {session : Session σ}

/-- A session whose view has installed the access rule so many times, with a registry for its
schema. -/
structure Layered (catalog : Catalog) (registry : Registry) (own : Option (List String)) (n : ℕ)
    (session : Session σ) : Prop where
  enabled : session.plugin.enabled = true
  registryFor : session.plugin.registryFor catalog session.view.schema = .ok registry
  /-- A view that has installed the rule is served by its binding. -/
  rules : ∃ binding : Binding, session.view.rules = viewLayers own binding.rule n ∧
    (0 < n → session.plugin.Serves session.view.schema.key binding registry)

namespace Layered

/-- A view that has answered nothing yet. -/
theorem fresh {schema : Handle} (henabled : session.plugin.enabled = true)
    (hregistry : session.plugin.registryFor catalog schema = .ok registry) :
    Layered catalog registry own 0 { session with view := .fresh schema own } :=
  ⟨henabled, hregistry, session.plugin.current, rfl, nofun⟩

theorem rulesInForce (h : Layered catalog registry own n session) :
    session.rulesInForce = accessLayers own registry n := by
  obtain ⟨binding, hrules, hserves⟩ := h.rules
  rw [Session.rulesInForce, hrules, map_viewLayers]
  cases n with
  | zero => rfl
  | succ n => rw [(hserves n.succ_pos).readBy]

/-- **One operation adds one layer if it has a query, and none if it has not.** The engine is asked
once, with all layers, and its result is concealed. -/
theorem execute (h : Layered catalog registry own n session) (engine : Engine σ)
    (context : Context) (params : Params) :
    ∃ next, session.execute engine catalog context params =
        ((engine ⟨context, params, accessLayers own registry (n + params.query.truthy.toNat)⟩
          session.engine).1 >>= params.conceal registry, next) ∧
      Layered catalog registry own (n + params.query.truthy.toNat) next ∧
      next.view.schema = session.view.schema := by
  cases hquery : params.query.truthy with
  | false =>
    have hasks := Plugin.asksIntrospection_of_not_truthy hquery
    have hexecute : session.execute engine catalog context params =
        session.run engine context params := by
      rw [Session.execute, hquery]
      rfl
    rw [hexecute, run, h.rulesInForce, Params.conceal_of_not_asks hasks, bind_pure]
    exact ⟨_, rfl, ⟨h.enabled, h.registryFor, h.rules⟩, rfl⟩
  | true =>
    obtain ⟨ready, binding, hready, hexecute⟩ :=
      execute_eq engine context h.enabled hquery h.registryFor
    have hserves : ready.plugin.Serves ready.view.schema.key binding registry :=
      hready.schema_eq ▸ hready.serves
    have hrules : ready.view.rules = viewLayers own binding.rule (n + 1) := by
      obtain ⟨installed, hinstalled, hbefore⟩ := h.rules
      rw [hready.rules_eq, hinstalled, ← viewLayers_succ]
      rcases Nat.eq_zero_or_pos n with hzero | hpos
      · rw [hzero]
        rfl
      · -- the binding that was installed before is the one that serves now
        have hkept := hready.extends_store.binding (hbefore hpos).bound
        rw [Option.some.inj (hkept.symm.trans hready.serves.bound)]
    have hlayered : Layered catalog registry own (n + 1) ready :=
      ⟨hserves.enabled, hserves.registryFor, binding, hrules, fun _ => hserves⟩
    rw [hexecute, run, hlayered.rulesInForce, hready.engine_eq]
    exact ⟨_, rfl, ⟨hlayered.enabled, hlayered.registryFor, hlayered.rules⟩, hready.schema_eq⟩

end Layered

/-! ### Batches -/

/-- The answers that a session gives to the entries of a batch, one after the other. -/
inductive Answers (engine : Engine σ) (catalog : Catalog) (request : Request) :
    Session σ → List Json → List Reply → Session σ → Prop
  | done (session : Session σ) : Answers engine catalog request session [] [] session
  | next {session next final : Session σ} {entry : Table Json} {rest : List Json}
      {params : Params} {result : Option ExecutionResult} {replies : List Reply}
      (first : session.answer engine catalog request entry = (.ok (params, result), next))
      (later : Answers engine catalog request next rest replies final) :
      Answers engine catalog request session (.obj entry :: rest)
        (batchReply params result :: replies) final

theorem Answers.answerAll_eq {entries : List Json} {replies : List Reply} {final : Session σ}
    (h : Answers engine catalog request session entries replies final) :
    session.answerAll engine catalog request entries = (.ok replies, final) := by
  induction h with
  | done => rfl
  | next hfirst _ ih =>
    rw [answerAll, hfirst]
    simp only [ih]
    rfl

theorem answers_of_answerAll {entries : List Json} :
    ∀ {session final : Session σ} {replies : List Reply},
      session.answerAll engine catalog request entries = (.ok replies, final) →
        Answers engine catalog request session entries replies final := by
  induction entries with
  | nil =>
    intro session final replies h
    cases h
    exact .done session
  | cons entry rest ih =>
    intro session final replies h
    cases entry with
    | obj entry =>
      rw [answerAll] at h
      rcases hfirst : session.answer engine catalog request entry with
        ⟨fault | ⟨params, result⟩, next⟩
      · rw [hfirst] at h
        cases h
      · rw [hfirst] at h
        rcases hlater : next.answerAll engine catalog request rest with ⟨fault | replies, last⟩
        · simp only [hlater] at h
          cases h
        · simp only [hlater] at h
          cases h
          exact .next hfirst (ih hlater)
    | _ => cases h

namespace Answers

variable {final : Session σ} {replies : List Reply}

theorem length_eq {entries : List Json}
    (h : Answers engine catalog request session entries replies final) :
    replies.length = entries.length := by
  induction h with
  | done => rfl
  | next _ _ ih => rw [List.length_cons, List.length_cons, ih]

/-- A batch is answered in two parts, the second where the first ends. -/
theorem of_append {before after : List Json} :
    ∀ {session : Session σ} {replies : List Reply},
      Answers engine catalog request session (before ++ after) replies final →
        ∃ first middle later, Answers engine catalog request session before first middle ∧
          Answers engine catalog request middle after later final ∧ replies = first ++ later := by
  induction before with
  | nil =>
    intro session replies h
    exact ⟨[], session, replies, .done session, h, rfl⟩
  | cons entry rest ih =>
    intro session replies h
    cases h with
    | next hfirst hlater =>
      obtain ⟨first, middle, later, hbefore, hafter, rfl⟩ := ih hlater
      exact ⟨_ :: first, middle, later, .next hfirst hbefore, hafter, rfl⟩

end Answers

/-- Whether an entry of a batch has a query. -/
def hasQuery (request : Request) : Json → Bool
  | .obj entry => (request.params entry).toOption.any fun params => params.query.truthy
  | _ => false

/-- The number of the entries that have a query. -/
def asked (request : Request) (entries : List Json) : ℕ :=
  entries.countP (hasQuery request)

theorem asked_singleton {entry : Table Json} {params : Params}
    (hparams : request.params entry = .ok params) :
    asked request [.obj entry] = params.query.truthy.toNat := by
  rw [asked, List.countP_singleton, hasQuery, hparams]
  cases hquery : params.query.truthy <;> simp [Except.toOption, hquery]

theorem asked_append (before after : List Json) :
    asked request (before ++ after) = asked request before + asked request after :=
  List.countP_append

/-- An entry that is answered has an operation. -/
theorem answer_eq_ok {entry : Table Json} {params : Params} {result : Option ExecutionResult}
    {next : Session σ}
    (h : session.answer engine catalog request entry = (.ok (params, result), next)) :
    request.params entry = .ok params ∧
      session.execute engine catalog ⟨request, entry, false⟩ params = (.ok result, next) := by
  rw [answer] at h
  split at h
  · cases h
  · next read hparams =>
    rcases hexecute : session.execute engine catalog ⟨request, entry, false⟩ read with
      ⟨fault | found, last⟩
    · rw [hexecute] at h
      cases h
    · rw [hexecute] at h
      cases h
      exact ⟨hparams, hexecute⟩

/-- **A batch adds a layer for each entry with a query.** -/
theorem Layered.answers {entries : List Json} {replies : List Reply} {final : Session σ}
    (h : Answers engine catalog request session entries replies final) :
    ∀ {n : ℕ}, Layered catalog registry own n session →
      Layered catalog registry own (n + asked request entries) final ∧
        final.view.schema = session.view.schema := by
  induction h with
  | done session => exact fun h => ⟨h, rfl⟩
  | next hfirst _ ih =>
    intro n hlayered
    obtain ⟨hparams, hexecute⟩ := answer_eq_ok hfirst
    obtain ⟨next, hnext, hlayers, hschema⟩ := hlayered.execute engine _ _
    obtain rfl : next = _ := congrArg Prod.snd (hnext.symm.trans hexecute)
    obtain ⟨hfinal, hsame⟩ := ih hlayers
    rw [← List.singleton_append, asked_append, asked_singleton hparams, ← Nat.add_assoc]
    exact ⟨hfinal, hsame.trans hschema⟩

/-- **What an operation of a batch has of the operations before it.** The view has answered nothing
before the batch, its plugin is switched on, and the schema is bound or can be scanned.

An entry at any place of a batch that is answered has an operation, and its reply is that of a
result. For this result the engine was asked in the state in which the entries before it left it,
and under as many copies of the access rule as there are queries up to this one. A view of its own
with the same plugin, whatever request the operation comes with, asks the same engine under one
copy, the one of this query, and conceals in the same way; so its result is the same if the engine
gives the same. The copies together deny what the rule denies alone, as many times over. -/
theorem answerAll_entry (engine : Engine σ) (request : Request) {schema : Handle}
    {before after : List Json} {item : Json} {replies : List Reply} {final : Session σ}
    (henabled : session.plugin.enabled = true) (hview : session.view = .fresh schema own)
    (hscans : session.plugin.isBound schema.key = true ∨
      ∃ records, catalog.scan schema.key = .ok records)
    (hbatch : session.answerAll engine catalog request (before ++ item :: after) =
      (.ok replies, final)) :
    ∃ registry entry params result earlier single copies,
      session.plugin.registryFor catalog schema = .ok registry ∧
      item = .obj entry ∧ request.params entry = .ok params ∧
      (session.answerAll engine catalog request before).2 = earlier ∧
      single = params.query.truthy.toNat ∧ copies = asked request before + single ∧
      replies[before.length]? = some (batchReply params result) ∧
      (engine ⟨⟨request, entry, false⟩, params, accessLayers own registry copies⟩
        earlier.engine).1 >>= params.conceal registry = .ok result ∧
      (∀ context : Context,
        (Session.execute engine catalog { earlier with view := .fresh schema own } context
            params).1 =
          (engine ⟨context, params, accessLayers own registry single⟩ earlier.engine).1 >>=
            params.conceal registry ∧
        ((engine ⟨⟨request, entry, false⟩, params, accessLayers own registry copies⟩
              earlier.engine).1 =
            (engine ⟨context, params, accessLayers own registry single⟩ earlier.engine).1 →
          (Session.execute engine catalog { earlier with view := .fresh schema own } context
            params).1 = .ok result)) ∧
      ∀ (context : Context) (types : Schema) (document : Document),
        (Access.denials types (Call.mk context params (accessLayers own registry copies)).added
            document).Perm
          (List.replicate copies (Access.denials types [registry] document)).flatten := by
  obtain ⟨registry, hregistry⟩ := Plugin.exists_registryFor henabled hscans
  have hstart : Layered catalog registry own 0 session := by
    have hfresh : Layered catalog registry own 0 { session with view := .fresh schema own } :=
      Layered.fresh henabled hregistry
    rwa [← hview] at hfresh
  obtain ⟨first, earlier, later, hbefore, hafter, rfl⟩ := (answers_of_answerAll hbatch).of_append
  cases hafter with
  | @next _ next _ entry _ params result replies hentry _ =>
    obtain ⟨hparams, hexecute⟩ := answer_eq_ok hentry
    obtain ⟨hlayered, hschema⟩ := hstart.answers hbefore
    rw [Nat.zero_add] at hlayered
    obtain ⟨_, hbatched, -, -⟩ := hlayered.execute engine ⟨request, entry, false⟩ params
    have hown : earlier.plugin.registryFor catalog schema = .ok registry := by
      have h := hlayered.registryFor
      rwa [hschema, hview] at h
    have hresult := congrArg Prod.fst (hbatched.symm.trans hexecute)
    have halone (context : Context) :
        (Session.execute engine catalog { earlier with view := .fresh schema own } context
            params).1 =
          (engine ⟨context, params, accessLayers own registry params.query.truthy.toNat⟩
            earlier.engine).1 >>= params.conceal registry := by
      obtain ⟨_, hexecute, -, -⟩ :=
        (Layered.fresh hlayered.enabled hown).execute engine context params
      rw [Nat.zero_add] at hexecute
      rw [hexecute]
    refine ⟨registry, entry, params, result, earlier, _, _, hregistry, rfl, hparams,
      congrArg Prod.snd hbefore.answerAll_eq, rfl, rfl, ?_, hresult,
      fun context => ⟨halone context, fun hsame => ?_⟩, fun context types document => ?_⟩
    · rw [← hbefore.length_eq, List.getElem?_append_right (Nat.le_refl _), Nat.sub_self]
      rfl
    · rw [halone, ← hsame]
      exact hresult
    · rw [added_accessLayers]
      exact Access.denials_replicate_perm types registry document _

/-- An entry of a batch that asks for one field of a user. -/
def userEntry (field : String) : Table Json :=
  [("query", .str ("\x7b user \x7b " ++ field ++ " \x7d \x7d"))]

/-- A batch of two operations, the second on a private field, before an engine that makes no
difference between rules. -/
theorem answerAll_entry_of_two :
    ∃ (engine : Engine ℕ) (catalog : Catalog) (request : Request) (session final : Session ℕ)
      (schema : Handle) (own : Option (List String)) (first second : Table Json)
      (replies : List Reply) (params : Params) (result : Option ExecutionResult),
      session.plugin.enabled = true ∧ session.view = .fresh schema own ∧
      (∃ records, catalog.scan schema.key = .ok records) ∧
      request.entries = .ok [.obj first, .obj second] ∧
      session.answerAll engine catalog request ([.obj first] ++ .obj second :: []) =
        (.ok replies, final) ∧
      replies[1]? = some (batchReply params result) ∧
      asked request [.obj first] + params.query.truthy.toNat = 2 := by
  let entries : List Json := [.obj (userEntry "id"), .obj (userEntry "ssn")]
  let schema : Handle := ⟨"a", none⟩
  let catalog : Catalog :=
    ⟨[("a", (Schema.ofDocument userTypes).toOption.getD ⟨[], [], [], [], []⟩)], [], []⟩
  let engine : Engine ℕ := fun _ count => (.ok (some ⟨.null, []⟩), count + 1)
  let session : Session ℕ :=
    ⟨.fresh schema (some ["depth"]), (Plugin.create [] [("enabled", .bool true)]).1, 0, []⟩
  have henabled : session.plugin.enabled = true := by decide
  have htest : ((catalog.scan schema.key).toOption.isSome &&
      (Request.build (.arr entries) .post defaultPath []).toOption.any fun request =>
        decide (request.entries.toOption = some entries) &&
        decide (asked request entries = 2) &&
        (session.answerAll engine catalog request entries).1.toOption.isSome) = true := by
    decide +kernel
  simp only [Option.any_eq_true, Bool.and_eq_true, decide_eq_true_eq, Option.isSome_iff_exists,
    Fallible.toOption_eq_some] at htest
  obtain ⟨hscan, request, -, ⟨hentries, hasked⟩, replies, hreplies⟩ := htest
  have hbatch : session.answerAll engine catalog request
      ([.obj (userEntry "id")] ++ .obj (userEntry "ssn") :: []) = (.ok replies, _) :=
    Prod.ext hreplies rfl
  obtain ⟨_, _, params, result, _, _, _, -, hitem, hparams, -, -, -, hreply, -⟩ :=
    answerAll_entry engine request henabled rfl (.inr hscan) hbatch
  rw [← Json.obj.inj hitem] at hparams
  refine ⟨engine, catalog, request, session, _, schema, _, _, _, replies, params, result, henabled,
    rfl, hscan, hentries, hbatch, hreply, ?_⟩
  rw [← asked_singleton hparams, ← asked_append]
  exact hasked

/-- Under the canned engine the second operation is checked twice and denied twice; a view of its
own denies it once. -/
theorem denied_twice_in_batch :
    ∃ (schema : Schema) (catalog : Catalog) (session final : Session Canned) (handle : Handle)
      (request : Request) (first second : Table Json) (replies : List Reply) (params : Params)
      (alone : ExecutionResult), schema.IsBuilt ∧ schema.isValid = true ∧
      catalog.schema handle.key = schema ∧ (∃ records, catalog.scan handle.key = .ok records) ∧
      session.plugin.enabled = true ∧ session.view = .fresh handle none ∧
      request.entries = .ok [.obj first, .obj second] ∧ request.params second = .ok params ∧
      session.answerAll (Canned.run schema) catalog request [.obj first, .obj second] =
        (.ok replies, final) ∧
      (final.engine.seen.map fun call => call.added.length) = [2, 1] ∧
      (Session.execute (Canned.run schema) catalog
        { (session.answerAll (Canned.run schema) catalog request [.obj first]).2 with
          view := .fresh handle none } ⟨request, second, false⟩ params).1 = .ok (some alone) ∧
      replies[1]?.map Reply.response ≠ some (batchReply params (some alone)).response := by
  let entries : List Json := [.obj (userEntry "id"), .obj (userEntry "ssn")]
  let handle : Handle := ⟨"a", none⟩
  let catalog (schema : Schema) : Catalog := ⟨[("a", schema)], [], []⟩
  let session : Session Canned :=
    ⟨.fresh handle none, (Plugin.create [] [("enabled", .bool true)]).1,
      .start [.obj [("user", .null)]], []⟩
  have henabled : session.plugin.enabled = true := by decide
  have htest : ((Schema.ofDocument userTypes).toOption.any fun schema =>
      schema.isValid && ((catalog schema).scan handle.key).toOption.isSome &&
      (Request.build (.arr entries) .post defaultPath []).toOption.any fun request =>
        decide (request.entries.toOption = some entries) &&
        let batch := session.answerAll (Canned.run schema) (catalog schema) request entries
        let before := session.answerAll (Canned.run schema) (catalog schema) request
          [.obj (userEntry "id")]
        decide ((batch.2.engine.seen.map fun call => call.added.length) = [2, 1]) &&
        batch.1.toOption.any fun replies =>
          (request.params (userEntry "ssn")).toOption.any fun params =>
            (Session.execute (Canned.run schema) (catalog schema)
              { before.2 with view := .fresh handle none }
              ⟨request, userEntry "ssn", false⟩ params).1.toOption.any fun result =>
              result.any fun alone =>
                decide (replies[1]?.map Reply.response ≠
                  some (batchReply params (some alone)).response)) = true := by
    decide +kernel
  simp only [Option.any_eq_true, Bool.and_eq_true, decide_eq_true_eq, Option.isSome_iff_exists,
    Fallible.toOption_eq_some] at htest
  obtain ⟨schema, hschema, ⟨hvalid, hscan⟩, request, -, hentries, hseen, replies, hreplies, params,
    hparams, result, halone, alone, rfl, hdiffer⟩ := htest
  exact ⟨schema, catalog schema, session, _, handle, request, _, _, replies, params, alone,
    ⟨userTypes, schema, hschema, rfl⟩, hvalid, rfl, hscan, henabled, rfl, hentries,
    hparams, Prod.ext hreplies rfl, hseen, halone, hdiffer⟩

end Session

end SchemaVisibility.Endpoint
