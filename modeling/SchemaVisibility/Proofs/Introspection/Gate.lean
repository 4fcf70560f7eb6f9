import SchemaVisibility.Introspection.Redaction
import SchemaVisibility.Proofs.Fallible
import SchemaVisibility.Proofs.GraphQL.Collection
import SchemaVisibility.Proofs.Traversal.Static
import SchemaVisibility.Schema.Validity

/-! # Which operations count as introspection

`selectsIntrospection` looks at the fields that are collected at the root of every operation: those
that the search of its selection set reaches (`selectsIntrospection_iff_reaches`).
`selectsIntrospection_iff` states what that comes to in terms of the fields that are entered: some
operation enters `__schema` or `__type` with no field around it. The query root has these fields
wherever an operation reaches it again, so an operation may well introspect a schema and not count
(`nested_introspection_not_selected`).

Redaction asks the same question of one operation, field by field. What does not count it therefore
leaves as it is, whatever the data are (`redactText_of_not_selectsIntrospection`).
-/

namespace SchemaVisibility.Introspection

open GraphQL

variable {schema : Schema} {document : Document} {depth : Nat} {head : FieldHead}

/-- The table of fragments holds what the fragments of the document select. -/
theorem get?_fragmentTable (document : Document) (name : String) :
    Table.get? document.fragmentTable name =
      (document.fragment? name).map Fragment.selections := by
  rw [Document.fragmentTable, Table.ofList, Table.get?_insertAll, Table.get?_nil, Option.or_none,
    ← List.map_reverse, List.find?_map, Option.map_map]
  rfl

/-! ### From what is collected to what is entered -/

mutual

/-- What a leaf enters in every set in which it stands is entered through inline fragments too. -/
theorem enters_of_leaves {leaf : Selection}
    (h : ∀ type selections, leaf ∈ selections →
      ∃ parent, schema.Enters document type selections depth parent head) :
    ∀ selection : Selection, leaf ∈ selection.leaves → ∀ type selections, selection ∈ selections →
      ∃ parent, schema.Enters document type selections depth parent head
  | .field _ _, hleaf, type, selections, hmem =>
    h type selections (List.mem_singleton.mp hleaf ▸ hmem)
  | .spread _ _, hleaf, type, selections, hmem =>
    h type selections (List.mem_singleton.mp hleaf ▸ hmem)
  | .inline condition _ inside, hleaf, type, _, hmem => by
    obtain ⟨parent, hinside⟩ := enters_of_leavesOfAll h inside hleaf
      (schema.inlineType type condition) inside (List.Subset.refl inside)
    exact ⟨parent, .inline hmem hinside⟩

theorem enters_of_leavesOfAll {leaf : Selection}
    (h : ∀ type selections, leaf ∈ selections →
      ∃ parent, schema.Enters document type selections depth parent head) :
    ∀ part : List Selection, leaf ∈ Selection.leavesOfAll part → ∀ type selections,
      part ⊆ selections → ∃ parent, schema.Enters document type selections depth parent head
  | [], hleaf, _, _, _ => nomatch hleaf
  | selection :: rest, hleaf, type, selections, hsub => by
    rcases List.mem_append.mp hleaf with hleaf | hleaf
    · exact enters_of_leaves h selection hleaf type selections (hsub List.mem_cons_self)
    · exact enters_of_leavesOfAll h rest hleaf type selections
        (List.Subset.trans (List.subset_cons_self selection rest) hsub)

end

/-- A selection set enters its own fields. -/
theorem enters_of_ownFields {field : Field} {selections : List Selection}
    (h : field ∈ ownFields selections) (type : Option TypeRef) :
    ∃ parent, schema.Enters document type selections 0 parent field.head := by
  obtain ⟨leaf, hleaf, hfield⟩ := List.mem_filterMap.mp h
  cases leaf with
  | field head below =>
    cases hfield
    exact enters_of_leavesOfAll (fun _ _ hmem => ⟨_, .here hmem⟩) selections hleaf type selections
      (List.Subset.refl selections)
  | _ => cases hfield

/-- A selection set enters what the fragments that it spreads enter. -/
theorem enters_of_ownSpreads {name : String} {fragment : Fragment} {selections : List Selection}
    (h : name ∈ ownSpreads selections) (hfragment : document.fragment? name = some fragment)
    (hinside : ∃ parent, schema.Enters document (schema.conditionType fragment.condition)
      fragment.selections depth parent head) (type : Option TypeRef) :
    ∃ parent, schema.Enters document type selections depth parent head := by
  obtain ⟨leaf, hleaf, hspread⟩ := List.mem_filterMap.mp h
  obtain ⟨parent, hinside⟩ := hinside
  cases leaf with
  | spread name directives =>
    cases hspread
    exact enters_of_leavesOfAll (fun _ _ hmem => ⟨parent, .spread hmem hfragment hinside⟩)
      selections hleaf type selections (List.Subset.refl selections)
  | _ => cases hspread

/-- A selection set enters what the fragments that it leads to enter. -/
theorem enters_of_leads {name : String} {fragment : Fragment} {selections : List Selection}
    (h : document.fragmentTable.Leads (ownSpreads selections) name)
    (hfragment : document.fragment? name = some fragment)
    (hinside : ∃ parent, schema.Enters document (schema.conditionType fragment.condition)
      fragment.selections depth parent head) (type : Option TypeRef) :
    ∃ parent, schema.Enters document type selections depth parent head := by
  induction h generalizing fragment with
  | own hmem => exact enters_of_ownSpreads hmem hfragment hinside type
  | @through outer next _ hnext ih =>
    rw [Fragments.body, get?_fragmentTable] at hnext
    cases houter : document.fragment? outer with
    | none =>
      rw [houter] at hnext
      cases hnext
    | some around =>
      rw [houter] at hnext
      exact ih houter (enters_of_ownSpreads hnext hfragment hinside _)

/-! ### From what is entered to what is collected -/

/-- A field that is entered with no field around it is collected. -/
theorem exists_mem_collect_of_enters {type : Option TypeRef} {selections : List Selection}
    {parent : Option TypeDefinition}
    (h : schema.Enters document type selections 0 parent head) :
    ∃ field ∈ collect document.fragmentTable selections, field.head = head := by
  generalize hdepth : 0 = depth at h
  induction h with
  | @here type selections below head hmem =>
    refine ⟨⟨head, below⟩, mem_collect_iff.mpr (Or.inl ?_), rfl⟩
    exact List.mem_filterMap.mpr ⟨_, leaves_subset hmem List.mem_cons_self, rfl⟩
  | deeper => cases hdepth
  | inline hmem _ ih =>
    obtain ⟨field, hf, hhead⟩ := ih hdepth
    exact ⟨field, collect_subset (leaves_subset hmem) hf, hhead⟩
  | spread hmem hfragment _ ih =>
    obtain ⟨field, hf, hhead⟩ := ih hdepth
    refine ⟨field, collect_body_subset (List.mem_filterMap.mpr
      ⟨_, leaves_subset hmem List.mem_cons_self, rfl⟩) ?_, hhead⟩
    rwa [Fragments.body, get?_fragmentTable, hfragment]

/-! ### The gate -/

theorem isSome_rootKind?_iff (field : Field) :
    (rootKind? field).isSome = true ↔
      field.head.name = "__schema" ∨ field.head.name = "__type" := by
  rw [rootKind?, rootFields, Field.name]
  by_cases hs : "__schema" = field.head.name <;> by_cases ht : "__type" = field.head.name <;>
    simp [Table.get?, hs, ht, eq_comm]

/-- **An operation counts as introspection exactly if it enters a root field of introspection with
no field around it**, whatever its parent type is. -/
theorem selectsIntrospection_iff (schema : Schema) (document : Document) :
    selectsIntrospection document = true ↔
      ∃ operation ∈ document.operations, ∃ parent head,
        schema.Enters document (schema.rootType operation.kind) operation.selections 0 parent
          head ∧ (head.name = "__schema" ∨ head.name = "__type") := by
  rw [selectsIntrospection, List.any_eq_true]
  refine exists_congr fun operation => and_congr_right fun _ => ?_
  rw [List.any_eq_true]
  constructor
  · rintro ⟨field, hf, hname⟩
    rw [isSome_rootKind?_iff] at hname
    suffices h : ∃ parent, schema.Enters document (schema.rootType operation.kind)
        operation.selections 0 parent field.head by
      obtain ⟨parent, h⟩ := h
      exact ⟨parent, field.head, h, hname⟩
    rcases mem_collect_iff.mp hf with hf | ⟨name, hled, hf⟩
    · exact enters_of_ownFields hf _
    · rw [Fragments.body, get?_fragmentTable] at hf
      cases hfragment : document.fragment? name with
      | none =>
        rw [hfragment] at hf
        cases hf
      | some fragment =>
        rw [hfragment] at hf
        exact enters_of_leads hled hfragment (enters_of_ownFields hf _) _
  · rintro ⟨parent, head, h, hname⟩
    obtain ⟨field, hf, rfl⟩ := exists_mem_collect_of_enters h
    exact ⟨field, hf, (isSome_rootKind?_iff field).mpr hname⟩

/-- A query root with a field that answers it again, and an operation that introspects below it:
with that field around it `__schema` is entered, and the operation does not count. -/
theorem nested_introspection_not_selected :
    ∃ (types document : Document) (schema : Schema) (operation : Operation)
      (parent : TypeDefinition) (head : FieldHead),
      Schema.ofDocument types = .ok schema ∧ schema.isValid = true ∧
        operation ∈ document.operations ∧
        schema.Enters document (schema.rootType operation.kind) operation.selections 1
          (some parent) head ∧
        schema.root? .query = some parent.name ∧ head.name = "__schema" ∧
        selectsIntrospection document = false := by
  let field (name : String) (selections : List Selection) : Selection :=
    .field ⟨⟨1, 1⟩, none, name, [], []⟩ selections
  let query : TypeDefinition := ⟨"Query", [], .object [] [⟨"self", [], .named "Query", []⟩]⟩
  let types : Document := ⟨[.type query]⟩
  let operation : Operation := ⟨.query, none, [], [], [field "self" [field "__schema"
    [field "types" [field "name" []]]]]⟩
  have htest : ((Schema.ofDocument types).toOption.any fun schema =>
      schema.isValid && decide (schema.root? .query = some "Query") &&
        (schema.parentOf (schema.fieldType (schema.parentOf (schema.rootType .query))
          "self")).any fun parent => parent.name = "Query") = true := by
    decide +kernel
  simp only [Option.any_eq_true, Bool.and_eq_true, decide_eq_true_eq,
    Fallible.toOption_eq_some] at htest
  obtain ⟨schema, hschema, ⟨hvalid, hroot⟩, parent, hparent, hname⟩ := htest
  refine ⟨types, ⟨[.operation operation]⟩, schema, operation, parent,
    ⟨⟨1, 1⟩, none, "__schema", [], []⟩, hschema, hvalid, List.mem_singleton.mpr rfl,
    .deeper List.mem_cons_self ?_, ?_, rfl, rfl⟩
  · rw [← hparent]
    exact .here List.mem_cons_self
  · rw [hroot, hname]

/-! ### What is reached -/

/-- The document of an operation text is what it parses to. -/
theorem document?_eq_some {text : String} {document : Document} :
    document? text = some document ↔ Document.parse text = .ok document := by
  rw [document?]
  split
  · next hempty =>
    -- no text at all is not parsed, and would not parse
    have hfails : (Document.parse "").toOption.isSome = false := by decide +kernel
    rw [hempty]
    constructor
    · nofun
    · intro hparse
      rw [hparse] at hfails
      cases hfails
  · cases Document.parse text with
    | ok parsed => simp
    | error error => simp

/-- An operation counts as introspection if a root field of introspection is among the fields that
are collected from it. -/
theorem selectsIntrospection_iff_reaches (document : Document) :
    selectsIntrospection document = true ↔
      ∃ operation ∈ document.operations, ∃ field : Field,
        (field.name = "__schema" ∨ field.name = "__type") ∧
          (field ∈ ownFields operation.selections ∨
            ∃ name, document.fragmentTable.Leads (ownSpreads operation.selections) name ∧
              field ∈ ownFields (document.fragmentTable.body name)) := by
  rw [selectsIntrospection, List.any_eq_true]
  refine exists_congr fun operation => and_congr_right fun _ => ?_
  rw [List.any_eq_true]
  refine exists_congr fun field => ?_
  rw [isSome_rootKind?_iff, and_comm]
  exact and_congr_right fun _ => mem_collect_iff

/-- **What is collected, and what counts as introspection.** Whatever fragments there are and
however they spread each other, the search of a selection set comes to an end, and to one result.
The fragments that it meets are the defined ones that the selection set leads to, each once. What is
collected are the fields that stand in the selection set itself and those that stand in these
fragments, each as often as it stands there.

So a text counts as introspection exactly if it parses and a root field of introspection is reached
in this way from one of its operations. -/
theorem collects_reachable_fields :
    (∀ (fragments : Fragments) (selections : List Selection), ∃ names : List String,
      Search fragments [] selections (collect fragments selections) names ∧
      (∀ fields last, Search fragments [] selections fields last →
        fields = collect fragments selections ∧ last = names) ∧
      names.Nodup ∧
      (∀ name, name ∈ names ↔ Table.get? fragments name ≠ none ∧
        fragments.Leads (ownSpreads selections) name) ∧
      (collect fragments selections).Perm (ownFields selections ++
        names.flatMap fun name => ownFields (fragments.body name))) ∧
    ∀ text : String, (document? text).any selectsIntrospection = true ↔
      ∃ document, Document.parse text = .ok document ∧
        ∃ operation ∈ document.operations, ∃ field : Field,
          (field.name = "__schema" ∨ field.name = "__type") ∧
            (field ∈ ownFields operation.selections ∨
              ∃ name, document.fragmentTable.Leads (ownSpreads operation.selections) name ∧
                field ∈ ownFields (document.fragmentTable.body name)) := by
  constructor
  · intro fragments selections
    obtain ⟨names, hsearch⟩ := search_collect fragments selections
    exact ⟨names, hsearch, fun _ _ => hsearch.unique, hsearch.reaches⟩
  · intro text
    rw [Option.any_eq_true]
    refine exists_congr fun document => ?_
    rw [document?_eq_some, selectsIntrospection_iff_reaches]

/-- Two fragments that spread each other, one that is spread twice, and one that is not defined. -/
theorem collects_reachable_fields_of_cycle :
    ∃ (text : String) (document : Document) (operation : Operation) (names : List String),
      Document.parse text = .ok document ∧ operation ∈ document.operations ∧
      Search document.fragmentTable [] operation.selections
        (collect document.fragmentTable operation.selections) names ∧
      names.Nodup ∧ "A" ∈ names ∧ "B" ∈ names ∧ "Missing" ∉ names ∧
      (collect document.fragmentTable operation.selections).map Field.name =
        ["a", "__schema", "own"] ∧
      (document? text).any selectsIntrospection = true := by
  let text := "\x7b ...A ...Missing own ...A \x7d fragment A on Query \x7b a ... \x7b ...B \x7d \x7d
    fragment B on Query \x7b __schema \x7b types \x7b name \x7d \x7d ...A \x7d"
  let isCase (table : Fragments) (selections : List Selection) : Bool :=
    (collect table selections).map Field.name = ["a", "__schema", "own"] &&
      (Table.get? table "A").isSome && (Table.get? table "B").isSome &&
      (Table.get? table "Missing").isNone && "A" ∈ ownSpreads selections &&
      "B" ∈ ownSpreads (table.body "A")
  have htest : ((Document.parse text).toOption.any fun document =>
      document.operations.any fun operation =>
        isCase document.fragmentTable operation.selections) = true := by
    decide +kernel
  simp only [Option.any_eq_true, List.any_eq_true, Fallible.toOption_eq_some, isCase,
    Bool.and_eq_true, decide_eq_true_eq] at htest
  obtain ⟨document, hparse, operation, hoperation,
    ⟨⟨⟨⟨hfields, hA⟩, hB⟩, hmissing⟩, hspread⟩, hnext⟩ := htest
  obtain ⟨hcollects, -⟩ := collects_reachable_fields
  obtain ⟨names, hsearch, -, hnodup, hnames, -⟩ :=
    hcollects document.fragmentTable operation.selections
  refine ⟨text, document, operation, names, hparse, hoperation, hsearch, hnodup,
    (hnames "A").mpr ⟨Option.isSome_iff_ne_none.mp hA, .own hspread⟩,
    (hnames "B").mpr ⟨Option.isSome_iff_ne_none.mp hB, .through (.own hspread) hnext⟩,
    fun hmem => ((hnames "Missing").mp hmem).1 (Option.isNone_iff_eq_none.mp hmissing), hfields, ?_⟩
  decide +kernel

/-! ### Selected operations -/

theorem mem_operations_of_selectedOperation? {operationName : Option String}
    {operation : Operation} (h : document.selectedOperation? operationName = some operation) :
    operation ∈ document.operations := by
  cases operationName with
  | none =>
    rw [Document.selectedOperation?] at h
    split at h
    · next only hoperations =>
      cases h
      rw [hoperations]
      exact List.mem_singleton_self operation
    · cases h
  | some name => exact List.mem_of_find?_eq_some h

/-- Lists side by side whose items are looked for alike have related first finds, if any. -/
theorem find?_cases_of_forall₂ {α β : Type} {R : α → β → Prop} {p : α → Bool} {q : β → Bool}
    {as : List α} {bs : List β} (h : List.Forall₂ R as bs) (hpq : ∀ a b, R a b → p a = q b) :
    (as.find? p = none ∧ bs.find? q = none) ∨
      ∃ a b, as.find? p = some a ∧ bs.find? q = some b ∧ R a b := by
  induction h with
  | nil => exact Or.inl ⟨rfl, rfl⟩
  | @cons a b _ _ hab _ ih =>
    rw [List.find?_cons, List.find?_cons, hpq a b hab]
    cases q b with
    | true => exact Or.inr ⟨a, b, rfl, rfl, hab⟩
    | false => exact ih

/-- Of documents with operations side by side the same operation is selected, if any is. -/
theorem selectedOperation?_cases {other : Document} {R : Operation → Operation → Prop}
    (h : List.Forall₂ (fun a b => a.name = b.name ∧ R a b) document.operations other.operations)
    (operationName : Option String) :
    (document.selectedOperation? operationName = none ∧
        other.selectedOperation? operationName = none) ∨
      ∃ a b, document.selectedOperation? operationName = some a ∧
        other.selectedOperation? operationName = some b ∧ R a b := by
  cases operationName with
  | none =>
    rw [Document.selectedOperation?, Document.selectedOperation?]
    generalize document.operations = few at h ⊢
    generalize other.operations = many at h ⊢
    cases h with
    | nil => exact Or.inl ⟨rfl, rfl⟩
    | cons hab hrest =>
      cases hrest with
      | nil => exact Or.inr ⟨_, _, rfl, rfl, hab.2⟩
      | cons _ _ => exact Or.inl ⟨rfl, rfl⟩
  | some name =>
    have hnamed := fun (a b : Operation) (hab : a.name = b.name ∧ R a b) =>
      congrArg (fun other => decide (other = some name)) hab.1
    rcases find?_cases_of_forall₂ h hnamed with hnone | ⟨a, b, ha, hb, hab⟩
    · exact Or.inl hnone
    · exact Or.inr ⟨a, b, ha, hb, hab.2⟩

/-! ### What does not count -/

theorem redact_of_not_selectsIntrospection (h : selectsIntrospection document = false)
    (registry : Registry) (operationName : Option String) (data : Json) :
    redact registry document operationName data = .ok data := by
  rw [redact]
  split
  · split
    · rfl
    · next operation hselected =>
      rw [selectsIntrospection, List.any_eq_false] at h
      have hfields := h operation (mem_operations_of_selectedOperation? hselected)
      refine Fallible.foldlM_still fun field hf => ?_
      have hkind : rootKind? field = none := by simp_all
      rw [Redaction.root, hkind]
  · rfl

/-- Where no operation counts as introspection, redaction leaves any data as they are. -/
theorem redactText_of_not_selectsIntrospection {text : String}
    (h : (document? text).any selectsIntrospection = false) (registry : Registry)
    (operationName : Option String) (data : Json) :
    redactText registry text operationName data = .ok data := by
  rw [redactText]
  cases hdocument : document? text with
  | none => rfl
  | some document =>
    rw [hdocument] at h
    exact redact_of_not_selectsIntrospection h registry operationName data

end SchemaVisibility.Introspection
