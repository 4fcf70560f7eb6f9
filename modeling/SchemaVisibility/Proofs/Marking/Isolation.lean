import SchemaVisibility.Access.Validation
import SchemaVisibility.Endpoint.View
import SchemaVisibility.Proofs.Marking.Exactness

/-! # Marking one of several schemas

An application marks declarations of one of its schemas, by any number of calls. Marks on types that
the schema declares are its own; marks on standard types are put where all schemas read them. So a
mark reaches another schema exactly through the standard types that both show
(`isPrivate_markAll_iff`).

A scan records nothing of the standard types but the scalars (`scan_congr`), and these it records
whenever they are flagged (`flagged_of_scan_eq`). Hence the other schema is scanned as before
exactly if the marks reach no scalar that was unmarked so far, and then it is rebuilt and served as
before, too (`scan_markAll`). A mark on a scalar changes what is scanned and denied everywhere
(`scan_changed_by_scalar`).
-/

namespace SchemaVisibility

open GraphQL

/-! ### What marking flags -/

namespace Schema

variable {schema : Schema} {shared : Extensions}

/-- The declarations that a call flags: those of its coordinates, up to the first one that names no
declaration. -/
def flaggedBy (schema : Schema) : List String → List Declaration
  | [] => []
  | text :: rest =>
    match schema.resolve text with
    | .error _ => []
    | .ok declaration => declaration :: schema.flaggedBy rest

/-- A coordinate that names no declaration ends the call. -/
theorem mark_of_resolve_error {text : String} {error : CoordinateError}
    (h : schema.resolve text = .error error) (rest : List String) :
    schema.mark shared (text :: rest) = ((schema, shared), some error) := by
  rw [mark, markOne, h]
  rfl

/-- A coordinate that names a declaration has it flagged, and the call goes on. -/
theorem mark_of_resolve {text : String} {declaration : Declaration}
    (h : schema.resolve text = .ok declaration) (rest : List String) :
    let data := Marking.withFlag (schema.extensionData shared declaration.coordinate)
    schema.mark shared (text :: rest) =
      if schema.isShared declaration.coordinate.typeName then
        schema.mark (shared.assign declaration.coordinate data) rest
      else { schema with
        extensions := schema.extensions.assign declaration.coordinate data }.mark shared rest := by
  intro data
  have hone : schema.markOne shared text =
      .ok (schema.assign shared declaration.coordinate data) := by
    rw [markOne, h]
    rfl
  rw [mark, hone]
  by_cases hshared : schema.isShared declaration.coordinate.typeName = true
  · simp only [assign, if_pos hshared]
  · simp only [assign, if_neg hshared]

/-- Marking changes nothing of a schema but its extension data. -/
theorem mark_eq (schema : Schema) (shared : Extensions) (texts : List String) :
    ∃ extensions, (schema.mark shared texts).1.1 = { schema with extensions } := by
  induction texts generalizing schema shared with
  | nil => exact ⟨schema.extensions, rfl⟩
  | cons text rest ih =>
    cases h : schema.resolve text with
    | error error => exact ⟨schema.extensions, by rw [mark_of_resolve_error h]⟩
    | ok declaration =>
      rw [mark_of_resolve h]
      split
      · exact ih schema _
      · exact ih _ shared

/-- What is flagged does not depend on what was flagged before. -/
theorem flaggedBy_with_extensions (extensions : Extensions) (texts : List String) :
    ({ schema with extensions } : Schema).flaggedBy texts = schema.flaggedBy texts := by
  induction texts with
  | nil => rfl
  | cons text rest ih =>
    have hresolve : ({ schema with extensions } : Schema).resolve text = schema.resolve text := rfl
    rw [flaggedBy, flaggedBy, hresolve, ih]

/-- **Which shared data a call flags**: those of the standard types that its coordinates name. -/
theorem flagged_mark_iff (texts : List String) (c : Coordinate) :
    Marking.flagged ((schema.mark shared texts).1.2.data c) = true ↔
      Marking.flagged (shared.data c) = true ∨
        schema.isShared c.typeName = true ∧
          ∃ declaration ∈ schema.flaggedBy texts, declaration.coordinate = c := by
  induction texts generalizing schema shared with
  | nil => simp [mark, flaggedBy]
  | cons text rest ih =>
    rw [flaggedBy]
    cases h : schema.resolve text with
    | error error => simp [mark_of_resolve_error h]
    | ok declaration =>
      rw [mark_of_resolve h]
      simp only [List.exists_mem_cons_iff]
      split
      · next hshared =>
        rw [ih, Extensions.data_assign]
        by_cases hc : declaration.coordinate = c
        · subst hc
          simp [Marking.flagged_withFlag, hshared]
        · simp [hc]
      · next hown =>
        rw [ih, flaggedBy_with_extensions]
        refine or_congr_right (and_congr_right fun hc => (or_iff_right ?_).symm)
        rintro rfl
        exact hown hc

end Schema

/-! ### What a scan looks at -/

theorem flatMap_sublist {α β : Type} {f g : α → List β} {l : List α}
    (hsub : ∀ x ∈ l, (f x).Sublist (g x)) : (l.flatMap f).Sublist (l.flatMap g) := by
  induction l with
  | nil => exact List.Sublist.slnil
  | cons a l ih =>
    obtain ⟨hhead, htail⟩ := List.forall_mem_cons.mp hsub
    rw [List.flatMap_cons, List.flatMap_cons]
    exact hhead.append (ih htail)

/-- If pieces grow and their concatenation is the same, then the pieces are the same. -/
theorem eq_of_flatMap_eq {α β : Type} {f g : α → List β} {l : List α}
    (hsub : ∀ x ∈ l, (f x).Sublist (g x)) (h : l.flatMap f = l.flatMap g) :
    ∀ x ∈ l, f x = g x := by
  induction l with
  | nil => exact fun x hx => absurd hx List.not_mem_nil
  | cons a l ih =>
    obtain ⟨hhead, htail⟩ := List.forall_mem_cons.mp hsub
    rw [List.flatMap_cons, List.flatMap_cons] at h
    have hlength : (f a).length = (g a).length := by
      have hsum := congrArg List.length h
      rw [List.length_append, List.length_append] at hsum
      have hle := hhead.length_le
      have hrest := (flatMap_sublist htail).length_le
      omega
    obtain ⟨ha, hl⟩ := List.append_inj h hlength
    exact List.forall_mem_cons.mpr ⟨ha, ih htail hl⟩

namespace GraphQL.TypeDefinition

theorem typeName_of_mem_declarations {type : TypeDefinition} {declaration : Declaration}
    (h : declaration ∈ type.declarations) : declaration.coordinate.typeName = type.name := by
  rcases mem_declarations_iff.mp h with
    rfl | ⟨member, -, rfl⟩ | ⟨field, -, argument, -, rfl⟩ <;> rfl

end GraphQL.TypeDefinition

/-- A standard type outside of introspection is a scalar. -/
theorem Standard.eq_scalar {type : TypeDefinition} (h : type ∈ Standard.types)
    (hname : Schema.isReserved type.name = false) :
    ∃ name ∈ Standard.scalarNames, type = ⟨name, [], .scalar⟩ := by
  rcases List.mem_append.mp h with hscalar | hintrospection
  · obtain ⟨name, hmem, rfl⟩ := List.mem_map.mp hscalar
    exact ⟨name, hmem, rfl⟩
  · have hall : ∀ type ∈ introspectionTypes, Schema.isReserved type.name = true := by
      decide +kernel
    rw [hall type hintrospection] at hname
    cases hname

/-- The standard scalars are found under their names. -/
theorem Standard.type?_of_mem_scalarNames {name : String} (h : name ∈ Standard.scalarNames) :
    Standard.type? name = some ⟨name, [], .scalar⟩ := by
  simp only [Standard.scalarNames, List.mem_cons, List.not_mem_nil, or_false] at h
  rcases h with rfl | rfl | rfl | rfl | rfl <;> rfl

namespace Schema

variable {schema : Schema} {shared shared' : Extensions}

/-- Whether a declaration is marked depends on the shared data only for a standard type. -/
theorem isPrivate_congr {declaration : Declaration}
    (h : schema.isShared declaration.coordinate.typeName = true →
      (Marking.flagged (shared'.data declaration.coordinate) = true ↔
        Marking.flagged (shared.data declaration.coordinate) = true)) :
    schema.isPrivate shared' declaration = schema.isPrivate shared declaration := by
  rw [isPrivate, isPrivate, extensionData, extensionData]
  split
  · next hshared => rw [Bool.eq_iff_iff.mpr (h hshared)]
  · rfl

/-- **A scan depends on the shared data only for the standard scalars** that the schema shows. -/
theorem scan_congr (h : ∀ name ∈ Standard.scalarNames, schema.isShared name = true →
      (Marking.flagged (shared'.data (.type name)) = true ↔
        Marking.flagged (shared.data (.type name)) = true)) :
    schema.scan shared' = schema.scan shared := by
  have hdeclared : ∀ name type, isReserved name = false → schema.definition? name = some type →
      ∀ declaration ∈ type.declarations,
        schema.isPrivate shared' declaration = schema.isPrivate shared declaration := by
    intro name type hname hdefined declaration hd
    refine isPrivate_congr fun hshared => ?_
    obtain rfl := name_of_definition? hdefined
    rw [TypeDefinition.typeName_of_mem_declarations hd] at hshared
    -- what is shared is standard, so the type is the standard one of its name
    have hstandard : type ∈ Standard.types := by
      rw [isShared, Bool.and_eq_true, Standard.isStandard] at hshared
      obtain ⟨found, hfound⟩ := Option.isSome_iff_exists.mp hshared.1
      rw [definition?, hfound, Option.some_or, Option.some.injEq] at hdefined
      exact hdefined ▸ List.mem_of_find?_eq_some hfound
    obtain ⟨scalar, hscalar, rfl⟩ := Standard.eq_scalar hstandard hname
    -- and a scalar declares nothing but itself
    obtain rfl := List.mem_singleton.mp hd
    exact h scalar hscalar hshared
  have hentry : ∀ entry, schema.scanEntry shared' entry = schema.scanEntry shared entry := by
    rintro ⟨name, entry⟩
    by_cases hname : isReserved name = true
    · simp only [scanEntry, hname, if_true]
    · cases entry with
      | unknownKind => rfl
      | known =>
        cases hdefined : schema.definition? name with
        | none =>
          simp only [scanEntry, hdefined, Option.map_none, Option.getD_none, List.filter_nil]
        | some type =>
          have hfilter : type.declarations.filter (schema.isPrivate shared') =
              type.declarations.filter (schema.isPrivate shared) :=
            List.filter_congr (hdeclared name type (Bool.eq_false_iff.mpr hname) hdefined)
          simp only [scanEntry, hdefined, Option.map_some, Option.getD_some, hfilter]
  have hentries : ∀ entries,
      schema.scanEntries shared' entries = schema.scanEntries shared entries := by
    intro entries
    induction entries with
    | nil => rfl
    | cons entry rest ih => rw [scanEntries, scanEntries, hentry, ih]
  exact hentries schema.entries

/-- A scan that succeeds has met no type of unknown kind. -/
theorem known_of_scanEntries {entries : Table Entry} {records : List Record}
    (h : schema.scanEntries shared entries = .ok records) :
    ∀ entry ∈ entries, isReserved entry.1 = false → entry.2 = .known := by
  induction entries generalizing records with
  | nil => exact fun entry hentry => absurd hentry List.not_mem_nil
  | cons entry rest ih =>
    obtain ⟨name, kind⟩ := entry
    obtain ⟨first, hfirst, h⟩ := Fallible.bind_eq_ok.mp h
    obtain ⟨others, hothers, -⟩ := Fallible.bind_eq_ok.mp h
    refine List.forall_mem_cons.mpr ⟨fun hname => ?_, ih hothers⟩
    cases kind with
    | known => rfl
    | unknownKind =>
      rw [scanEntry, hname] at hfirst
      cases hfirst

/-- What is recorded of a standard scalar that the schema shows. -/
theorem recordsOf_scalar {name : String} (hname : name ∈ Standard.scalarNames)
    (hshown : schema.isShared name = true) :
    schema.recordsOf shared name =
      if Marking.flagged (shared.data (.type name)) then [⟨Record.topLevel, name⟩] else [] := by
  have hreserved : ∀ name ∈ Standard.scalarNames, isReserved name = false := by decide +kernel
  have hdefined : schema.definition? name = some ⟨name, [], .scalar⟩ := by
    rw [definition?, Standard.type?_of_mem_scalarNames hname, Option.some_or]
  have hprivate : schema.isPrivate shared (.ofType ⟨name, [], .scalar⟩) =
      Marking.flagged (shared.data (.type name)) := by
    change (Marking.flagged (if schema.isShared name then _ else _) || false) = _
    rw [if_pos hshown, Bool.or_false]
    rfl
  rw [recordsOf, hreserved name hname, hdefined]
  change ([Declaration.ofType ⟨name, [], .scalar⟩].filter (schema.isPrivate shared)).map _ = _
  rw [List.filter_singleton, hprivate, Bool.cond_eq_ite]
  split <;> rfl

/-- With more data flagged, at least the same is recorded of each type. -/
theorem recordsOf_sublist (h : ∀ c, Marking.flagged (shared.data c) = true →
      Marking.flagged (shared'.data c) = true) (name : String) :
    (schema.recordsOf shared name).Sublist (schema.recordsOf shared' name) := by
  rw [recordsOf, recordsOf]
  split
  · exact List.Sublist.slnil
  · refine (List.monotone_filter_right _ fun declaration hprivate => ?_).map _
    simp only [isPrivate, extensionData, Bool.or_eq_true] at hprivate ⊢
    refine hprivate.imp_left fun hflagged => ?_
    split at hflagged
    · next hshown => rw [if_pos hshown]; exact h _ hflagged
    · next hown => rw [if_neg hown]; exact hflagged

/-- **A scan that succeeds shows every flag on a standard scalar.** If more data are flagged and the
records are the same, then no scalar that the schema shows is among the newly flagged. -/
theorem flagged_of_scan_eq {records : List Record} (hscan : schema.scan shared = .ok records)
    (hscan' : schema.scan shared' = .ok records)
    (h : ∀ c, Marking.flagged (shared.data c) = true → Marking.flagged (shared'.data c) = true)
    {name : String} (hname : name ∈ Standard.scalarNames) (hshown : schema.isShared name = true)
    (hflagged : Marking.flagged (shared'.data (.type name)) = true) :
    Marking.flagged (shared.data (.type name)) = true := by
  have hknown := known_of_scanEntries hscan
  rw [scan_eq hknown, Except.ok.injEq] at hscan hscan'
  obtain ⟨entry, hentry, rfl⟩ : ∃ entry ∈ schema.entries, entry.1 = name := by
    rw [isShared, Bool.and_eq_true, decide_eq_true_eq] at hshown
    exact ⟨_, Table.mem_of_get? hshown.2, rfl⟩
  have hgrows : ∀ entry ∈ schema.entries,
      (schema.recordsOf shared entry.1).Sublist (schema.recordsOf shared' entry.1) :=
    fun entry _ => recordsOf_sublist h entry.1
  have heq := eq_of_flatMap_eq hgrows (hscan.trans hscan'.symm) entry hentry
  rw [recordsOf_scalar hname hshown, recordsOf_scalar hname hshown, if_pos hflagged] at heq
  by_contra hunflagged
  rw [if_neg hunflagged] at heq
  cases heq

end Schema

/-! ### What is served depends on the scan -/

section Serving

variable {catalog catalog' : Catalog} {schema : Handle}

namespace Plugin

variable {plugin : Plugin}

theorem change_congr (h : catalog'.scan schema.key = catalog.scan schema.key) :
    plugin.change catalog' schema = plugin.change catalog schema := by
  rw [change, change, rebuild, rebuild, h]

theorem sync_congr (h : catalog'.scan schema.key = catalog.scan schema.key) :
    plugin.sync catalog' schema = plugin.sync catalog schema := by
  rw [sync, sync, rebuild, rebuild, h]

theorem bindingFor_congr (h : catalog'.scan schema.key = catalog.scan schema.key) :
    plugin.bindingFor catalog' (some schema) = plugin.bindingFor catalog (some schema) := by
  simp only [bindingFor, sync_congr h]

theorem rules_congr (h : catalog'.scan schema.key = catalog.scan schema.key) :
    plugin.rules catalog' (some schema) = plugin.rules catalog (some schema) := by
  simp only [rules, bindingFor_congr h]

theorem execute_congr {σ : Type} (h : catalog'.scan schema.key = catalog.scan schema.key)
    (run : σ → Except Fault (Option ExecutionResult) × σ) (state : σ) (query : Json)
    (operationName : Option String) :
    plugin.execute catalog' run state query operationName (some schema) =
      plugin.execute catalog run state query operationName (some schema) := by
  simp only [execute, intercept, bindingFor_congr h]

end Plugin

/-- **A view answers by the scan of its schema**, and by nothing else of the catalog. -/
theorem Endpoint.Session.execute_congr {σ : Type} {session : Endpoint.Session σ}
    (h : catalog'.scan session.view.schema.key = catalog.scan session.view.schema.key)
    (engine : Endpoint.Engine σ) (context : Endpoint.Context) (params : Endpoint.Params) :
    session.execute engine catalog' context params =
      session.execute engine catalog context params := by
  have hguarded : ∀ ready : Endpoint.Session σ, ready.view.schema = session.view.schema →
      ready.guarded engine catalog' context params =
        ready.guarded engine catalog context params := by
    intro ready hready
    rw [← hready] at h
    simp only [guarded, Plugin.execute_congr h]
  rw [execute, execute, Plugin.sync_congr h]
  split
  · rfl
  · split
    · rfl
    · next synced _ =>
      let after := session.advance synced
      have hrules : after.plugin.rules catalog' (some after.view.schema) =
          after.plugin.rules catalog (some after.view.schema) := Plugin.rules_congr h
      dsimp only
      rw [hrules]
      cases after.plugin.rules catalog (some after.view.schema) with
      | error error => rfl
      | ok rules => exact hguarded _ rfl

end Serving

/-! ### Calls on one schema and another one -/

namespace Catalog

variable {catalog : Catalog} {key other : String}

/-- Marks declarations of a schema by any number of calls. Calls go on after one that failed. -/
def markAll (catalog : Catalog) (key : String) (calls : List (List String)) : Catalog :=
  calls.foldl (fun catalog texts => (catalog.mark key texts).1) catalog

/-- Whether calls on one schema flag a declaration that another schema reads as well: one of a
standard type that both show. -/
structure Reaches (catalog : Catalog) (key other : String) (calls : List (List String))
    (c : Coordinate) : Prop where
  flagged : ∃ texts ∈ calls, ∃ declaration ∈ (catalog.schema key).flaggedBy texts,
    declaration.coordinate = c
  shown : (catalog.schema key).isShared c.typeName = true
  read : (catalog.schema other).isShared c.typeName = true

theorem schema_mark (texts : List String) :
    (catalog.mark key texts).1.schema other =
      if key = other then ((catalog.schema key).mark catalog.shared texts).1.1
      else catalog.schema other := by
  change ((catalog.schemas.insert key _).get? other).getD _ = _
  rw [Table.get?_insert]
  split <;> rfl

theorem schema_markAll (hne : key ≠ other) (calls : List (List String)) :
    (catalog.markAll key calls).schema other = catalog.schema other := by
  induction calls generalizing catalog with
  | nil => rfl
  | cons texts rest ih =>
    rw [markAll, List.foldl_cons, ← markAll, ih, schema_mark, if_neg hne]

theorem flagged_markAll_iff (calls : List (List String)) (c : Coordinate) :
    Marking.flagged ((catalog.markAll key calls).shared.data c) = true ↔
      Marking.flagged (catalog.shared.data c) = true ∨
        (catalog.schema key).isShared c.typeName = true ∧
          ∃ texts ∈ calls, ∃ declaration ∈ (catalog.schema key).flaggedBy texts,
            declaration.coordinate = c := by
  induction calls generalizing catalog with
  | nil => simp [markAll]
  | cons texts rest ih =>
    obtain ⟨extensions, hschema⟩ := (catalog.schema key).mark_eq catalog.shared texts
    have hafter : (catalog.mark key texts).1.schema key =
        { catalog.schema key with extensions } := by
      rw [schema_mark, if_pos rfl, hschema]
    have hshared : (catalog.mark key texts).1.shared =
        ((catalog.schema key).mark catalog.shared texts).1.2 := rfl
    rw [markAll, List.foldl_cons, ← markAll, ih, hafter, hshared, Schema.flagged_mark_iff]
    simp only [Schema.flaggedBy_with_extensions, List.exists_mem_cons_iff]
    rw [or_assoc, and_or_left]
    exact Iff.rfl

/-- **How far marks reach**: what another schema has marked is what it had marked before and what
the calls flag of the standard types that both show. -/
theorem isPrivate_markAll_iff (calls : List (List String)) (declaration : Declaration) :
    (catalog.schema other).isPrivate (catalog.markAll key calls).shared declaration = true ↔
      (catalog.schema other).isPrivate catalog.shared declaration = true ∨
        catalog.Reaches key other calls declaration.coordinate := by
  simp only [Schema.isPrivate, Schema.extensionData, Bool.or_eq_true]
  split
  · next hread =>
    rw [flagged_markAll_iff, or_right_comm]
    exact or_congr_right ⟨fun ⟨hshown, hflagged⟩ => ⟨hflagged, hshown, hread⟩,
      fun h => ⟨h.shown, h.flagged⟩⟩
  · next hown => exact (or_iff_left fun h => hown h.read).symm

/-- **What marks of one schema do to another one.** Its declarations stay. If its scan succeeds,
then it gives the same afterwards exactly if each standard scalar that the marks reach was flagged
before. Under this condition it is scanned and rebuilt with the same outcome in any case, and each
view of it answers the same. -/
theorem scan_markAll (catalog : Catalog) {key other : String} (hne : key ≠ other)
    (calls : List (List String)) :
    let after := catalog.markAll key calls
    let unreached := ∀ name ∈ Standard.scalarNames, catalog.Reaches key other calls (.type name) →
      Marking.flagged (catalog.shared.data (.type name)) = true
    after.schema other = catalog.schema other ∧
    (∀ records, catalog.scan other = .ok records →
      (after.scan other = .ok records ↔ unreached)) ∧
    (unreached → after.scan other = catalog.scan other ∧
      (∀ (plugin : Plugin) (schema : Handle), schema.key = other →
        plugin.change after schema = plugin.change catalog schema) ∧
      ∀ {σ : Type} (engine : Endpoint.Engine σ) (session : Endpoint.Session σ)
        (context : Endpoint.Context) (params : Endpoint.Params),
          session.view.schema.key = other →
            session.execute engine after context params =
              session.execute engine catalog context params) := by
  intro after unreached
  have hschema : after.schema other = catalog.schema other := schema_markAll hne calls
  have hscan : unreached → after.scan other = catalog.scan other := by
    intro hunreached
    rw [scan, scan, hschema]
    refine Schema.scan_congr fun name hname hread => ?_
    rw [flagged_markAll_iff]
    exact ⟨fun h => h.elim id fun ⟨hshown, hflagged⟩ =>
      hunreached name hname ⟨hflagged, hshown, hread⟩, Or.inl⟩
  refine ⟨hschema, fun records hrecords => ⟨fun hafter name hname hreaches => ?_, fun h => ?_⟩,
    fun h => ⟨hscan h, fun plugin schema hkey => ?_,
      fun engine session context params hkey => ?_⟩⟩
  · rw [scan, hschema] at hafter
    refine Schema.flagged_of_scan_eq hrecords hafter (fun c hc => ?_) hname hreaches.read ?_
    · exact (flagged_markAll_iff calls c).mpr (Or.inl hc)
    · exact (flagged_markAll_iff calls _).mpr (Or.inr ⟨hreaches.shown, hreaches.flagged⟩)
  · rw [hscan h, hrecords]
  · exact Plugin.change_congr (hkey ▸ hscan h)
  · exact Endpoint.Session.execute_congr (hkey ▸ hscan h) engine context params

/-- The document `type Query { field: String }`, for any name of the field. -/
def queryTypes (field : String) : GraphQL.Document :=
  ⟨[.type ⟨"Query", [], .object [] [⟨field, [], .named "String", []⟩]⟩]⟩

/-- The schema of such a document. -/
def queryOf (field : String) : Schema :=
  (Schema.ofDocument (queryTypes field)).toOption.getD ⟨[], [], [], [], []⟩

/-- Two schemas that share nothing but the standard types. -/
def nameAndTitle : Catalog :=
  ⟨[("a", queryOf "name"), ("b", queryOf "title")], [], []⟩

/-- Marks on declarations of the one schema and on a type of introspection, by two calls of which
one fails, leave the records of the other one as they are. -/
theorem scan_markAll_of_own_declarations :
    "a" ≠ "b" ∧ nameAndTitle.scan "b" = .ok [] ∧
      let calls := [["Query.name", "__Type.name", "Query.title"], ["Query"]]
      (nameAndTitle.markAll "a" calls).scan "a" =
        .ok [⟨Record.topLevel, "Query"⟩, ⟨"Query", "name"⟩] ∧
      (nameAndTitle.markAll "a" calls).scan "b" = .ok [] := by
  have hscan : (nameAndTitle.scan "b").toOption = some [] := by decide +kernel
  rw [Fallible.toOption_eq_some] at hscan
  have hmarked : ((nameAndTitle.markAll "a"
      [["Query.name", "__Type.name", "Query.title"], ["Query"]]).scan "a").toOption =
        some [⟨Record.topLevel, "Query"⟩, ⟨"Query", "name"⟩] := by
    decide +kernel
  have hflags : ∀ texts ∈ [["Query.name", "__Type.name", "Query.title"], ["Query"]],
      ∀ declaration ∈ (nameAndTitle.schema "a").flaggedBy texts,
        declaration.coordinate.typeName ∉ Standard.scalarNames := by
    decide +kernel
  have hne : "a" ≠ "b" := by decide
  obtain ⟨-, hiff, -⟩ := scan_markAll nameAndTitle hne
    [["Query.name", "__Type.name", "Query.title"], ["Query"]]
  refine ⟨hne, hscan, Fallible.toOption_eq_some.mp hmarked, (hiff [] hscan).mpr ?_⟩
  rintro name hname ⟨⟨texts, htexts, declaration, hd, hcoordinate⟩, -, -⟩
  refine absurd ?_ (hflags texts htexts declaration hd)
  rwa [hcoordinate]

/-- **A mark on a standard scalar reaches every schema that shows it**: the other schema is scanned
with a record more, and its fields of this type are denied. -/
theorem scan_changed_by_scalar :
    ∃ (catalog : Catalog) (document : GraphQL.Document),
      (catalog.schema "a").IsBuilt ∧ (catalog.schema "b").IsBuilt ∧ catalog.scan "b" = .ok [] ∧
      (catalog.markAll "a" [["String"]]).scan "b" = .ok [⟨Record.topLevel, "String"⟩] ∧
      Access.denials (catalog.schema "b") [.ofRecords []] document = [] ∧
      Access.denials (catalog.schema "b") [.ofRecords [⟨Record.topLevel, "String"⟩]] document =
        [⟨⟨1, 3⟩, .type "String" (.field "title")⟩] := by
  let document : GraphQL.Document :=
    ⟨[.operation ⟨.query, none, [], [], [.field ⟨⟨1, 3⟩, none, "title", [], []⟩ []]⟩]⟩
  have hscan : (nameAndTitle.scan "b").toOption = some [] := by decide +kernel
  have hafter : ((nameAndTitle.markAll "a" [["String"]]).scan "b").toOption =
      some [⟨Record.topLevel, "String"⟩] := by
    decide +kernel
  have hbuilt : ∀ field, (Schema.ofDocument (queryTypes field)).toOption.isSome = true →
      (queryOf field).IsBuilt := by
    intro field hsome
    obtain ⟨schema, hschema⟩ := Option.isSome_iff_exists.mp hsome
    rw [queryOf, hschema]
    exact ⟨queryTypes field, schema, Fallible.toOption_eq_some.mp hschema, rfl⟩
  have hname : nameAndTitle.schema "a" = queryOf "name" := rfl
  have htitle : nameAndTitle.schema "b" = queryOf "title" := rfl
  exact ⟨nameAndTitle, document, hname ▸ hbuilt "name" (by decide +kernel),
    htitle ▸ hbuilt "title" (by decide +kernel), Fallible.toOption_eq_some.mp hscan,
    Fallible.toOption_eq_some.mp hafter, by decide +kernel, by decide +kernel⟩

end Catalog

end SchemaVisibility
