import Mathlib.Tactic.FinCases
import SchemaVisibility.Proofs.Introspection.Noninterference
import SchemaVisibility.Proofs.Introspection.Parallel
import SchemaVisibility.Proofs.Introspection.Splitting

/-! # Redaction and merged fields

A result does not show whether one field was selected or several with its key, among which its
selections are split. Redaction does: it visits each of them with its own selections only, so a part
that does not select the name takes descriptors and members for nameless
(`redact_split_without_names`). Where every part that lists members finds the names that the whole
finds (`KeepsNames`), the routes of the split operation are parallel to those of the whole one
(`Splitting.parallel`), and redaction leaves the same (`redact_eq_of_splits`). For selections that
are cut in two this asks for the names in both halves (`CutDocument.exists_redact_eq`).
-/

namespace SchemaVisibility.Introspection

open GraphQL Redaction Fallible

variable {registry : Registry} {fragments others : Fragments}
  {splits : List Field → Field → Prop}

/-- Whether each part that lists members of a type, or is such a list itself, finds the name that
the whole field finds. -/
def KeepsNames (fragments others : Fragments) (group : List Field) (whole : Field) : Prop :=
  ∀ part ∈ group, (part.name ∈ memberLists ∨
      ∃ child ∈ collect others part.selections, child.name ∈ memberLists) →
    ∀ object, selected object (collect others part.selections) "name" =
      selected object (collect fragments whole.selections) "name"

/-! ### Parallel routes -/

/-- The fields of the routes that lead to a kind with a literal. -/
def fieldsAt (kind : Kind) (literal : Option String) (routes : List Route) : List Field :=
  (routes.filter fun route => route.kind = kind ∧ route.literal = literal).map Route.field

theorem mem_fieldsAt {kind : Kind} {literal : Option String} {routes : List Route} {field : Field} :
    field ∈ fieldsAt kind literal routes ↔ (⟨kind, field, literal⟩ : Route) ∈ routes := by
  rw [fieldsAt, List.mem_map]
  constructor
  · rintro ⟨⟨kind', field', literal'⟩, hroute, rfl⟩
    obtain ⟨hroute, hsame⟩ := List.mem_filter.mp hroute
    obtain ⟨hkind, hliteral⟩ : kind' = kind ∧ literal' = literal := by simpa using hsame
    rwa [hkind, hliteral] at hroute
  · intro hroute
    exact ⟨_, List.mem_filter.mpr ⟨hroute, by simp⟩, rfl⟩

/-- Whether the routes `against` are those of the parts of fields, and `routes` those of the whole
fields. -/
def Alongside (splits : List Field → Field → Prop) (routes against : List Route) : Prop :=
  ∀ kind literal, Covers splits (fieldsAt kind literal against) (fieldsAt kind literal routes)

/-- What is selected below routes leads on from there. -/
theorem mem_fieldsAt_below {kind next : Kind} {literal : Option String} {routes : List Route}
    {fields : List Field} {child : Field} (hsub : fields ⊆ fieldsAt kind literal routes)
    (hc : child ∈ childrenOf fragments fields) (hnext : kind.next? child.name = some next) :
    child ∈ fieldsAt next none (routesBelow fragments routes child.responseKey) := by
  obtain ⟨field, hf, hc⟩ := List.mem_flatMap.mp hc
  exact mem_fieldsAt.mpr (mem_routesBelow (mem_fieldsAt.mp (hsub hf)) hc hnext)

theorem Alongside.below (hsplitting : Splitting fragments others splits)
    {routes against : List Route} (h : Alongside splits routes against) (key : String) :
    Alongside splits (routesBelow fragments routes key) (routesBelow others against key) := by
  intro next literal
  constructor
  · intro part hp
    obtain ⟨route, hroute, child, hc, kind, hnext, heq⟩ :=
      mem_routesBelow_iff.mp (mem_fieldsAt.mp hp)
    obtain ⟨rfl, rfl, rfl⟩ : kind = next ∧ child = part ∧ none = literal := by simpa using heq
    obtain ⟨hchild, rfl⟩ := mem_under.mp hc
    obtain ⟨whole, hw, group, hsub, hg, hsplits⟩ :=
      (h route.kind route.literal).joined route.field (mem_fieldsAt.mpr hroute)
    obtain ⟨field, hf, inner, hinner, hi, hinto⟩ :=
      (hsplitting.children hsplits).joined child (mem_childrenOf hg hchild)
    have hsame := hsplitting.same hinto child hi
    -- all that gives what the child gives leads on from the same kind, to the same key
    refine ⟨field, ?_, inner, fun other ho => ?_, hi, hinto⟩
    · have hhere : [whole] ⊆ fieldsAt route.kind route.literal routes := by simpa using hw
      rw [hsame.responseKey]
      exact mem_fieldsAt_below hhere (mem_childrenOf List.mem_cons_self hf) (hsame.name ▸ hnext)
    · have hother := hsplitting.same hinto other ho
      rw [hsame.responseKey, ← hother.responseKey]
      exact mem_fieldsAt_below hsub (hinner ho) (by rwa [hother.name, ← hsame.name])
  · intro field hf
    obtain ⟨route, hroute, child, hc, kind, hnext, heq⟩ :=
      mem_routesBelow_iff.mp (mem_fieldsAt.mp hf)
    obtain ⟨rfl, rfl, rfl⟩ : kind = next ∧ child = field ∧ none = literal := by simpa using heq
    obtain ⟨hchild, rfl⟩ := mem_under.mp hc
    obtain ⟨group, hsub, hsplits⟩ :=
      (h route.kind route.literal).divided route.field (mem_fieldsAt.mpr hroute)
    obtain ⟨inner, hinner, hinto⟩ := (hsplitting.children hsplits).divided child hchild
    refine ⟨inner, fun other ho => ?_, hinto⟩
    have hother := hsplitting.same hinto other ho
    rw [← hother.responseKey]
    exact mem_fieldsAt_below hsub (hinner ho) (by rwa [hother.name])

theorem Alongside.roots (hsplitting : Splitting fragments others splits)
    {parts wholes : List Field} (h : Covers splits parts wholes) (key : String) :
    Alongside splits (rootRoutes wholes key) (rootRoutes parts key) := by
  intro kind literal
  have hroots : ∀ fields field, field ∈ fieldsAt kind literal (rootRoutes fields key) ↔
      field ∈ under key fields ∧ rootKind? field = some kind ∧
        literalTypeName? field = literal := by
    intro fields field
    simp only [mem_fieldsAt, rootRoutes, List.mem_filterMap, Option.map_eq_some_iff, Route.mk.injEq]
    constructor
    · rintro ⟨_, hf, _, hkind, rfl, rfl, rfl⟩
      exact ⟨hf, hkind, rfl⟩
    · rintro ⟨hf, hkind, rfl⟩
      exact ⟨field, hf, kind, hkind, rfl, rfl, rfl⟩
  refine (h.under hsplitting key).filter (fun group whole hsplits part hp => ?_) (hroots parts)
    (hroots wholes)
  have hsame := hsplitting.same hsplits part hp
  rw [hsame.rootKind?_eq, hsame.literal]

section Echoes

variable {routes against : List Route}

/-- The owner that a part finds is the one that the whole finds, where the part lists members. -/
theorem KeepsNames.owner_eq {group : List Field} {part whole child : Field}
    (hnames : KeepsNames fragments others group whole) (hp : part ∈ group)
    (hc : child ∈ collect others part.selections) (hlist : child.name ∈ memberLists)
    (object : Table Json) (literal : Option String) :
    Redaction.owner object (collect others part.selections) literal =
      Redaction.owner object (collect fragments whole.selections) literal := by
  rw [Redaction.owner, Redaction.owner,
    hnames part hp (Or.inr ⟨child, hc, hlist⟩)]

theorem Alongside.echoes (hsplitting : Splitting fragments others splits)
    (hnames : ∀ group whole, splits group whole → KeepsNames fragments others group whole)
    (h : Alongside splits routes against) :
    Echoes fragments others routes against := by
  intro route hroute hkind child hc hlist
  obtain ⟨group, hsub, hsplits⟩ :=
    (h route.kind route.literal).divided route.field (mem_fieldsAt.mpr hroute)
  obtain ⟨inner, hinner, hinto⟩ := (hsplitting.children hsplits).divided child hc
  -- any part of the list will do, and then the part of the type that selects it
  obtain ⟨again, ha⟩ := List.exists_mem_of_ne_nil inner (hsplitting.ne_nil hinto)
  obtain ⟨part, hp, hmem⟩ := List.mem_flatMap.mp (hinner ha)
  have hsame := hsplitting.same hinto again ha
  have hagain : again.name ∈ memberLists := hsame.name ▸ hlist
  exact ⟨⟨route.kind, part, route.literal⟩, mem_fieldsAt.mp (hsub hp), hkind,
    fun object => (hnames group route.field hsplits).owner_eq hp hmem hagain object route.literal,
    again, mem_under.mpr ⟨hmem, hsame.responseKey⟩, hagain,
    hnames inner child hinto again ha (Or.inl hagain)⟩

theorem Alongside.echoed (hsplitting : Splitting fragments others splits)
    (hnames : ∀ group whole, splits group whole → KeepsNames fragments others group whole)
    (h : Alongside splits routes against) :
    Echoes others fragments against routes := by
  intro route hroute hkind child hc hlist
  obtain ⟨whole, hw, group, -, hg, hsplits⟩ :=
    (h route.kind route.literal).joined route.field (mem_fieldsAt.mpr hroute)
  obtain ⟨field, hf, inner, -, hi, hinto⟩ :=
    (hsplitting.children hsplits).joined child (mem_childrenOf hg hc)
  have hsame := hsplitting.same hinto child hi
  exact ⟨⟨route.kind, whole, route.literal⟩, mem_fieldsAt.mp hw, hkind,
    fun object => ((hnames group whole hsplits).owner_eq hg hc hlist object route.literal).symm,
    field, mem_under.mpr ⟨hf, hsame.responseKey.symm⟩, hsame.name ▸ hlist,
    fun object => (hnames inner field hinto child hi (Or.inl hlist) object).symm⟩

end Echoes

/-- **Parts that keep the names go side by side with their wholes.** -/
theorem Splitting.parallel (hsplitting : Splitting fragments others splits)
    (hnames : ∀ group whole, splits group whole → KeepsNames fragments others group whole) :
    Parallel fragments others (Alongside splits) where
  below key h := h.below hsplitting key
  echoes h := h.echoes hsplitting hnames
  echoed h := h.echoed hsplitting hnames

/-! ### Faithful responses -/

theorem Role.Suits.mono {role : Role} {kind : Kind} {literals fewer : List String}
    (h : role.Suits kind literals) (hsub : fewer ⊆ literals) : role.Suits kind fewer := by
  cases role with
  | type name => exact ⟨h.1, h.2.1, fun literal hl => h.2.2 literal (hsub hl)⟩
  | _ => exact h

mutual

/-- What fits fields fits their parts. -/
theorem fits_of_covers (hsplitting : Splitting fragments others splits) {kind : Kind}
    {literals fewer : List String} {parts wholes : List Field}
    (hcovers : Covers splits parts wholes) (hsub : fewer ⊆ literals) :
    ∀ response : Response, Fits fragments literals wholes kind response →
      Fits others fewer parts kind response
  | .plain value, h => h
  | .list items, h => ⟨h.1, fitsItems_of_covers hsplitting hcovers hsub items h.2⟩
  | .object role members, ⟨hkind, hsuits, hcoherent, hnodup, hnamed, hlists, hmembers⟩ => by
    have hchildren := hcovers.childrenOf hsplitting
    refine ⟨hkind, hsuits.mono hsub, hchildren.coherent hsplitting hcoherent, hnodup, ?_, ?_,
      fitsMembers_of_covers hsplitting hchildren (fun h => congrArg kind.next? h.name)
        (fun _ => List.Subset.refl _) members hmembers⟩
    · intro child hc hname value hv
      obtain ⟨whole, hw, hsame⟩ := hchildren.exists_same hsplitting hc
      exact hnamed whole hw (hsame.name ▸ hname) value (hsame.responseKey ▸ hv)
    · intro htype child hc hlist value hv
      obtain ⟨whole, hw, hsame⟩ := hchildren.exists_same hsplitting hc
      exact hlists htype whole hw (hsame.name ▸ hlist) value (hsame.responseKey ▸ hv)

theorem fitsItems_of_covers (hsplitting : Splitting fragments others splits) {kind : Kind}
    {literals fewer : List String} {parts wholes : List Field}
    (hcovers : Covers splits parts wholes) (hsub : fewer ⊆ literals) :
    ∀ items : List Response, FitsItems fragments literals wholes kind items →
      FitsItems others fewer parts kind items
  | [], _ => trivial
  | item :: rest, h =>
    ⟨fits_of_covers hsplitting hcovers hsub item h.1,
      fitsItems_of_covers hsplitting hcovers hsub rest h.2⟩

theorem fitsMembers_of_covers (hsplitting : Splitting fragments others splits)
    {lead : Field → Option Kind} {literals fewer : String → List String}
    {parts wholes : List Field} (hcovers : Covers splits parts wholes)
    (hlead : ∀ {part whole}, SameField part whole → lead part = lead whole)
    (hsub : ∀ key, fewer key ⊆ literals key) :
    ∀ members : List (String × Response), FitsMembers fragments wholes lead literals members →
      FitsMembers others parts lead fewer members
  | [], _ => trivial
  | (key, value) :: rest, ⟨hplain, hfits, hrest⟩ => by
    have hunder := hcovers.under hsplitting key
    refine ⟨fun hnone => hplain fun whole hw => ?_, fun part hp next hnext => ?_,
      fitsMembers_of_covers hsplitting hcovers hlead hsub rest hrest⟩
    · obtain ⟨part, hp, hsame⟩ := hunder.exists_part hsplitting hw
      rw [← hlead hsame]
      exact hnone part hp
    · obtain ⟨whole, hw, hsame⟩ := hunder.exists_same hsplitting hp
      exact fits_of_covers hsplitting hunder (hsub key) value
        (hfits whole hw next (hlead hsame ▸ hnext))

end

/-- A response that is faithful to an operation is faithful to it once its fields are split. -/
theorem SplitsInto.faithful {document split : Document} {operationName : Option String}
    (h : SplitsInto document split operationName splits) {response : Response}
    (hfaithful : Faithful document operationName response) :
    Faithful split operationName response := by
  cases response with
  | plain value => exact hfaithful
  | list items => exact hfaithful.elim
  | object role members =>
    cases role with
    | other =>
      obtain ⟨hcoherent, hnodup, hmembers⟩ := hfaithful
      refine ⟨h.roots.coherent h.fields hcoherent, hnodup, fitsMembers_of_covers h.fields h.roots
        SameField.rootKind?_eq (fun key literal hl => ?_) members hmembers⟩
      obtain ⟨part, hp, hliteral⟩ := List.mem_filterMap.mp hl
      obtain ⟨whole, hw, hsame⟩ := (h.roots.under h.fields key).exists_same h.fields hp
      exact List.mem_filterMap.mpr ⟨whole, hw, hsame.literal ▸ hliteral⟩
    | _ => exact hfaithful.elim

/-! ### The law -/

namespace SplitsInto

variable {document split : Document} {operationName : Option String}

/-- Where both redactions give a result, they give the same. -/
theorem redact_eq (h : SplitsInto document split operationName splits)
    (hnames : ∀ group whole, splits group whole →
      KeepsNames document.fragmentTable split.fragmentTable group whole)
    {data result redacted : Json} (hdata : data.Distinct)
    (hresult : redact registry document operationName data = .ok result)
    (hredacted : redact registry split operationName data = .ok redacted) : redacted = result :=
  (redact_eq_of_parallel (h.fields.parallel hnames) (Alongside.roots h.fields h.roots) hdata
    hresult hredacted).symm

/-- Both redactions of a faithful response give a result. -/
theorem exists_redact_eq (h : SplitsInto document split operationName splits)
    (hnames : ∀ group whole, splits group whole →
      KeepsNames document.fragmentTable split.fragmentTable group whole)
    {response : Response} (hdistinct : response.json.Distinct)
    (hfaithful : Faithful document operationName response) :
    ∃ result, redact registry document operationName response.json = .ok result ∧
      redact registry split operationName response.json = .ok result := by
  obtain ⟨result, hresult, -⟩ := redact_withoutPrivate registry hfaithful
  obtain ⟨redacted, hredacted, -⟩ := redact_withoutPrivate registry (h.faithful hfaithful)
  obtain rfl := h.redact_eq hnames hdistinct hresult hredacted
  exact ⟨redacted, hresult, hredacted⟩

end SplitsInto

/-- Cutting selections in two changes nothing if both halves keep the names at every cut. -/
theorem CutDocument.exists_redact_eq {document split : Document}
    (h : CutDocument (KeepsNames document.fragmentTable split.fragmentTable) split document)
    (operationName : Option String) {response : Response} (hdistinct : response.json.Distinct)
    (hfaithful : Faithful document operationName response) :
    ∃ result, redact registry document operationName response.json = .ok result ∧
      redact registry split operationName response.json = .ok result :=
  (h.splitsInto operationName).exists_redact_eq (fun _ _ => CutField.asked) hdistinct hfaithful

/-- **Redaction respects the merging of fields where the parts keep the names.** Splitting the
selections of an operation, at any depth and into whatever fragments, does not change what redaction
leaves of a result, and every faithful response has a redaction either way. -/
theorem redact_eq_of_splits (registry : Registry) {document split : Document}
    {operationName : Option String} {splits : List Field → Field → Prop}
    (hsplits : SplitsInto document split operationName splits)
    (hnames : ∀ group whole, splits group whole →
      KeepsNames document.fragmentTable split.fragmentTable group whole)
    (data : Json) (hdata : data.Distinct) :
    (∀ result redacted, redact registry document operationName data = .ok result →
      redact registry split operationName data = .ok redacted → redacted = result) ∧
    ∀ response : Response, response.json = data → Faithful document operationName response →
      ∃ result, redact registry document operationName data = .ok result ∧
        redact registry split operationName data = .ok result := by
  refine ⟨fun _ _ => hsplits.redact_eq hnames hdata, ?_⟩
  rintro response rfl hfaithful
  exact hsplits.exists_redact_eq hnames hdata hfaithful

/-- The fields of a type, asked for in two fragments that both select their names. -/
theorem redact_eq_of_two_fragments : ∃ (registry : Registry) (document split : Document)
    (splits : List Field → Field → Prop) (response : Response),
    SplitsInto document split none splits ∧
      (∀ group whole, splits group whole →
        KeepsNames document.fragmentTable split.fragmentTable group whole) ∧
      response.json.Distinct ∧ Faithful document none response ∧
      ∃ result, redact registry document none response.json = .ok result ∧
        redact registry split none response.json = .ok result ∧ result ≠ response.json := by
  let field (name : String) (arguments : List Argument) (selections : List Selection) : Field :=
    ⟨⟨⟨1, 1⟩, none, name, arguments, []⟩, selections⟩
  let select (field : Field) : Selection := .field field.head field.selections
  let name := field "name" [] []
  let text := field "description" [] []
  let fields (inside : List Field) := field "fields" [] (inside.map select)
  let type (inside : List Field) :=
    field "__type" [⟨⟨⟨1, 1⟩, "name"⟩, .str "A"⟩] [select (fields inside)]
  let query (selections : List Selection) : Definition :=
    .operation ⟨.query, none, [], [], selections⟩
  let registry := Registry.ofRecords [⟨"A", "secret"⟩]
  let document : Document := ⟨[query [select (type [name, text])]]⟩
  let split : Document := ⟨[query [.spread "Names" [], .spread "Texts" []],
    .fragment ⟨"Names", "Query", [], [select (type [name])]⟩,
    .fragment ⟨"Texts", "Query", [], [select (type [name, text])]⟩]⟩
  let splits (group : List Field) (whole : Field) : Prop :=
    group = [type [name], type [name, text]] ∧ whole = type [name, text] ∨
      group = [fields [name], fields [name, text]] ∧ whole = fields [name, text] ∨
      group = [name, name] ∧ whole = name ∨ group = [text] ∧ whole = text
  let member (name : String) : Response :=
    .object (.member name) [("name", .plain (.str name)), ("description", .plain .null)]
  let response : Response := .object .other [("__type", .object (.type (some "A"))
    [("fields", .list [member "open", member "secret"])])]
  have hsplits : SplitsInto document split none splits := by
    refine ⟨⟨?_, ?_, ?_⟩, ?_⟩
    · rintro _ _ (⟨rfl, rfl⟩ | ⟨rfl, rfl⟩ | ⟨rfl, rfl⟩ | ⟨rfl, rfl⟩) <;> exact List.cons_ne_nil _ _
    · rintro _ _ (⟨rfl, rfl⟩ | ⟨rfl, rfl⟩ | ⟨rfl, rfl⟩ | ⟨rfl, rfl⟩) part hp <;> fin_cases hp <;>
        exact ⟨rfl, rfl, rfl⟩
    · rintro _ _ (⟨rfl, rfl⟩ | ⟨rfl, rfl⟩ | ⟨rfl, rfl⟩ | ⟨rfl, rfl⟩)
      · exact .single (Or.inr (Or.inl ⟨rfl, rfl⟩))
      · have hcovers : Covers splits ([name, name] ++ [text]) ([name] ++ [text]) :=
          (Covers.single (Or.inr (Or.inr (Or.inl ⟨rfl, rfl⟩)))).append
            (.single (Or.inr (Or.inr (Or.inr ⟨rfl, rfl⟩))))
        exact hcovers
      · exact .nil
      · exact .nil
    · exact .single (Or.inl ⟨rfl, rfl⟩)
  have hnames : ∀ group whole, splits group whole →
      KeepsNames document.fragmentTable split.fragmentTable group whole := by
    rintro _ _ (⟨rfl, rfl⟩ | ⟨rfl, rfl⟩ | ⟨rfl, rfl⟩ | ⟨rfl, rfl⟩) part hp - object <;>
      fin_cases hp <;> rfl
  have hdistinct : response.json.Distinct := by
    have hnull : Json.null.Distinct := .scalar trivial
    have htext : ∀ text, (Json.str text).Distinct := fun _ => .scalar trivial
    simp [response, member, Response.json, Response.jsonMembers, Response.jsonItems,
      Json.distinct_arr, Json.distinct_obj, Table.keys, hnull, htext]
  have hroot : rootSelection document none = [type [name, text]] := rfl
  have hfragments : document.fragmentTable = [] := rfl
  have hfaithful : Faithful document none response := by
    simp [response, member, type, fields, select, name, text, field, hroot, hfragments, Faithful,
      FitsMembers, Fits, fitsItems_iff, Coherent, Named, ListsMembers, under, childrenOf,
      literalsUnder, literalTypeName?, rootKind?, rootFields, memberLists, Kind.next?,
      Kind.fields?, Role.Suits, Role.Admits, IsLeaf, Response.IsMemberList, Response.IsMember,
      Record.topLevel, Field.responseKey, Field.name, Table.get?, collect, collectWithin,
      Selection.flattenAll, Selection.flatten]
  obtain ⟨result, hresult, hredacted⟩ :=
    (redact_eq_of_splits registry hsplits hnames response.json hdistinct).2 response rfl hfaithful
  refine ⟨registry, document, split, splits, response, hsplits, hnames, hdistinct, hfaithful,
    result, hresult, hredacted, ?_⟩
  rintro rfl
  exact absurd (toOption_eq_some.mpr hresult) (by decide +kernel)

/-- Where only one of two parts selects the names, the other takes every member for nameless, and
none is left. -/
theorem redact_split_without_names : ∃ (registry : Registry) (document split : Document)
    (data result redacted : Json), CutDocument (fun _ _ => True) split document ∧ data.Distinct ∧
      redact registry document none data = .ok result ∧
      redact registry split none data = .ok redacted ∧ result ≠ redacted := by
  let field (name : String) (arguments : List Argument) (selections : List Selection) :
    Selection := .field ⟨⟨1, 1⟩, none, name, arguments, []⟩ selections
  let name := field "name" [] []
  let text := field "description" [] []
  let query (inside : List Selection) : Document := ⟨[.operation ⟨.query, none, [], [],
    [field "__type" [⟨⟨⟨1, 1⟩, "name"⟩, .str "A"⟩] inside]⟩]⟩
  let member (name : String) : Json := .obj [("name", .str name), ("description", .null)]
  let data (names : List String) : Json :=
    .obj [("__type", .obj [("fields", .arr (names.map member))])]
  have hcut : CutDocument (fun _ _ => True)
      (query [field "fields" [] [name], field "fields" [] [text]])
      (query [field "fields" [] ([name] ++ [text])]) := by
    have hleaf : ∀ leaf, Cut (fun _ _ => True) [field leaf [] []] [field leaf [] []] :=
      fun _ => .field .nil trivial .nil
    exact ⟨.cons ⟨rfl, .field (.cut ⟨rfl, rfl, rfl⟩ ⟨rfl, rfl, rfl⟩ (hleaf _) (hleaf _) trivial
      .nil) trivial .nil⟩ .nil, .nil⟩
  have hdata : (data ["open", "secret"]).Distinct := by
    have hnull : Json.null.Distinct := .scalar trivial
    have htext : ∀ text, (Json.str text).Distinct := fun _ => .scalar trivial
    simp [data, member, Json.distinct_arr, Json.distinct_obj, Table.keys, hnull, htext]
  exact ⟨Registry.ofRecords [⟨"A", "secret"⟩], _, _, data ["open", "secret"], data ["open"],
    data [], hcut, hdata, toOption_eq_some.mp (by decide +kernel),
    toOption_eq_some.mp (by decide +kernel), by decide⟩

end SchemaVisibility.Introspection
