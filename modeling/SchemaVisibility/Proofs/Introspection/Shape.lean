import SchemaVisibility.Proofs.Introspection.Idempotence

/-! # Data of the right shape

A redaction can fail over an object where a leaf belongs, over a list or an object that stands for a
name, and over a whole result that is no object. `WellShaped` excludes these along every way that
the selected operation goes, and nothing else: what stands elsewhere is free, fields may be unknown,
several fields may share a response key, and spreads may lead nowhere or in circles.

Trimming keeps the shape (`WellShaped.of_trimmed`). So the filter of a member list, which needs
names, and the visit of a child, which needs fields, find the shape that they need at whatever time
their turn comes, and no step of a walk fails (`WellShaped.exists_walk`). Hence every result of the
right shape has a redaction (`exists_redact`).
-/

namespace SchemaVisibility.Introspection

open GraphQL Redaction Fallible Table

/-- A text or `null`. -/
def IsName : Json → Prop
  | .null | .str _ => True
  | _ => False

theorem IsName.isScalar {v : Json} (h : IsName v) : IsScalar v := by
  cases v with
  | arr items => exact h.elim
  | obj members => exact h.elim
  | _ => trivial

/-- **A value of the right shape** for a field that leads to it. Where the field leads to a leaf
there are only scalars, perhaps in lists, and every `name` that is selected in an object is a text
or `null`. -/
inductive WellShaped (fragments : Fragments) : Kind → Field → Json → Prop
  | scalar {kind : Kind} {field : Field} {v : Json} : IsScalar v → WellShaped fragments kind field v
  | list {kind : Kind} {field : Field} {items : List Json} :
      (∀ item ∈ items, WellShaped fragments kind field item) →
      WellShaped fragments kind field (.arr items)
  | object {kind : Kind} {field : Field} {members : Table Json} : kind ≠ .leaf →
      (∀ child ∈ collect fragments field.selections, child.name = "name" →
        ∀ v, members.get? child.responseKey = some v → IsName v) →
      (∀ child ∈ collect fragments field.selections, ∀ next, kind.next? child.name = some next →
        ∀ v, members.get? child.responseKey = some v → WellShaped fragments next child v) →
      WellShaped fragments kind field (.obj members)

/-- **A whole result of the right shape** for an operation: `null`, or an object whose members have
the right shape for the root fields of introspection. -/
def WellShapedResult (document : Document) (operationName : Option String) : Json → Prop
  | .null => True
  | .obj members => ∀ field ∈ rootSelection document operationName,
      ∀ kind, rootKind? field = some kind → ∀ v, Table.get? members field.responseKey = some v →
        WellShaped document.fragmentTable kind field v
  | _ => False

variable {registry : Registry} {fragments : Fragments} {kind : Kind} {field : Field}

/-! ### Telling the shape -/

instance : DecidablePred IsScalar
  | .arr _ | .obj _ => isFalse id
  | .null | .bool _ | .int _ | .decimal _ | .str _ => isTrue trivial

instance : DecidablePred IsName
  | .null | .str _ => isTrue trivial
  | .bool _ | .int _ | .decimal _ | .arr _ | .obj _ => isFalse id

/-- Whether a value that is no deeper than the bound has the right shape. -/
def hasShape (fragments : Fragments) : Nat → Kind → Field → Json → Bool
  | n + 1, kind, field, .arr items => items.all (hasShape fragments n kind field)
  | n + 1, kind, field, .obj members =>
    kind != .leaf && (collect fragments field.selections).all fun child =>
      (Table.get? members child.responseKey).all fun v =>
        (child.name != "name" || decide (IsName v)) &&
          (kind.next? child.name).all fun next => hasShape fragments n next child v
  | _, _, _, v => decide (IsScalar v)

theorem wellShaped_scalar_iff {v : Json} (h : ∀ items, v ≠ .arr items)
    (h' : ∀ members, v ≠ .obj members) :
    IsScalar v ↔ WellShaped fragments kind field v := by
  refine ⟨.scalar, fun hv => ?_⟩
  cases hv with
  | scalar hscalar => exact hscalar
  | list _ => exact absurd rfl (h _)
  | object _ _ _ => exact absurd rfl (h' _)

theorem wellShaped_arr_iff {items : List Json} :
    WellShaped fragments kind field (.arr items) ↔
      ∀ item ∈ items, WellShaped fragments kind field item := by
  refine ⟨fun h => ?_, .list⟩
  cases h with
  | scalar hscalar => exact hscalar.elim
  | list hitems => exact hitems

theorem wellShaped_obj_iff {members : Table Json} :
    WellShaped fragments kind field (.obj members) ↔ kind ≠ .leaf ∧
      ∀ child ∈ collect fragments field.selections, ∀ v,
        members.get? child.responseKey = some v → (child.name = "name" → IsName v) ∧
          ∀ next, kind.next? child.name = some next → WellShaped fragments next child v := by
  constructor
  · intro h
    cases h with
    | scalar hscalar => exact hscalar.elim
    | object hkind hnames hmembers =>
      exact ⟨hkind, fun child hc v hv => ⟨fun hname => hnames child hc hname v hv,
        fun next hnext => hmembers child hc next hnext v hv⟩⟩
  · rintro ⟨hkind, h⟩
    exact .object hkind (fun child hc hname v hv => (h child hc v hv).1 hname)
      fun child hc next hnext v hv => (h child hc v hv).2 next hnext

theorem hasShape_iff : ∀ {n : Nat} {kind : Kind} {field : Field} {v : Json}, v.depth ≤ n →
    (hasShape fragments n kind field v = true ↔ WellShaped fragments kind field v) := by
  intro n
  induction n with
  | zero =>
    intro kind field v hv
    cases v with
    | arr items => simp [Json.depth] at hv
    | obj members => simp [Json.depth] at hv
    | _ => exact decide_eq_true_iff.trans (wellShaped_scalar_iff (by simp) (by simp))
  | succ n ih =>
    intro kind field v hv
    cases v with
    | arr items =>
      rw [Json.depth, Nat.succ_le_succ_iff, Json.depthItems_le_iff] at hv
      rw [hasShape, List.all_eq_true, wellShaped_arr_iff]
      exact forall₂_congr fun item hitem => ih (hv item hitem)
    | obj members =>
      rw [Json.depth, Nat.succ_le_succ_iff] at hv
      rw [hasShape, wellShaped_obj_iff]
      simp only [Bool.and_eq_true, bne_iff_ne, List.all_eq_true, Option.all_eq_true,
        Bool.or_eq_true, decide_eq_true_eq, ← imp_iff_not_or, ne_eq]
      refine and_congr_right fun _ => forall₂_congr fun child _ => forall₂_congr fun v hmember => ?_
      refine and_congr_right fun _ => forall₂_congr fun next _ => ih ?_
      exact Json.depth_le_of_get? hv hmember
    | _ => exact decide_eq_true_iff.trans (wellShaped_scalar_iff (by simp) (by simp))

instance (v : Json) : Decidable (WellShaped fragments kind field v) :=
  decidable_of_iff _ (hasShape_iff (Nat.le_refl v.depth))

instance (document : Document) (operationName : Option String) :
    DecidablePred (WellShapedResult document operationName)
  | .null => isTrue trivial
  | .obj members => inferInstanceAs (Decidable (∀ field ∈ rootSelection document operationName,
      ∀ kind, rootKind? field = some kind → ∀ v, Table.get? members field.responseKey = some v →
        WellShaped document.fragmentTable kind field v))
  | .bool _ | .int _ | .decimal _ | .str _ | .arr _ => isFalse id

/-! ### Trimmed data -/

/-- What stands under a key of a trimmed object stood there before, if less trimmed. -/
theorem TrimmedMembers.exists_get? {before after : Table Json} (h : TrimmedMembers before after)
    {key : String} {w : Json} (hw : after.get? key = some w) :
    ∃ v, before.get? key = some v ∧ Trimmed v w := by
  rcases h.get?_cases key with ⟨-, hno⟩ | ⟨v, w', hv, hw', hvw⟩
  · rw [hw] at hno
    cases hno
  · rw [hw, Option.some.injEq] at hw'
    exact ⟨v, hv, hw' ▸ hvw⟩

/-- **What is left of a value by trimming has its shape.** -/
theorem WellShaped.of_trimmed {v w : Json} (h : WellShaped fragments kind field v)
    (hvw : Trimmed v w) : WellShaped fragments kind field w := by
  induction h generalizing w with
  | @scalar kind field v hscalar =>
    rw [hvw.alike.eq_of_isScalar hscalar]
    exact .scalar hscalar
  | list _ ih =>
    cases hvw with
    | scalar hscalar => exact hscalar.elim
    | list hkept =>
      refine .list fun item hitem => ?_
      obtain ⟨v, hv, hvitem⟩ := hkept.exists_mem hitem
      exact ih v hv hvitem
  | object hkind hnames _ ih =>
    cases hvw with
    | scalar hscalar => exact hscalar.elim
    | object hmembers =>
      refine .object hkind (fun child hc hname w hw => ?_) (fun child hc next hnext w hw => ?_)
      · obtain ⟨v, hv, hvw⟩ := hmembers.exists_get? hw
        have hisName := hnames child hc hname v hv
        rwa [hvw.alike.eq_of_isScalar hisName.isScalar]
      · obtain ⟨v, hv, hvw⟩ := hmembers.exists_get? hw
        exact ih child hc next hnext v hv hvw

/-! ### Opening an object -/

namespace WellShaped

variable {object : Table Json} {child : Field} {hidden : List String}

/-- The name that is found in an object is a text or `null`. -/
theorem isName_selected (h : WellShaped fragments kind field (.obj object)) :
    IsName (selected object (collect fragments field.selections) "name") :=
  selected_of trivial fun child hc hname v hv => ((wellShaped_obj_iff.mp h).2 child hc v hv).1 hname

/-- The owner of a descriptor is known from its name, from the literal or not at all, so there are
names to hide in each case. -/
theorem exists_hiddenNames (registry : Registry)
    (h : WellShaped fragments kind field (.obj object)) (literal : Option String) :
    ∃ hidden, hiddenNames registry
      (Redaction.owner object (collect fragments field.selections) literal) = .ok hidden := by
  refine Introspection.exists_hiddenNames ?_
  rw [Redaction.owner]
  split
  · exact h.isName_selected.isScalar
  · cases literal <;> trivial

theorem exists_keeps {entry : Json} (hidden : List String)
    (h : WellShaped fragments kind field entry) :
    ∃ stays, keeps hidden (collect fragments field.selections) entry = .ok stays := by
  cases entry with
  | obj members =>
    have hname := h.isName_selected
    rw [keeps]
    cases hselected : selected members (collect fragments field.selections) "name" with
    | arr items => exact (hselected ▸ hname : IsName (.arr items)).elim
    | obj inner => exact (hselected ▸ hname : IsName (.obj inner)).elim
    | _ => exact ⟨_, rfl⟩
  | _ => exact ⟨true, rfl⟩

theorem exists_keptEntries {entries : List Json} (hidden : List String)
    (h : ∀ entry ∈ entries, WellShaped fragments kind field entry) :
    ∃ kept, keptEntries hidden (collect fragments field.selections) entries = .ok kept := by
  induction entries with
  | nil => exact ⟨[], rfl⟩
  | cons entry rest ih =>
    obtain ⟨stays, hstays⟩ := (h entry List.mem_cons_self).exists_keeps hidden
    obtain ⟨kept, hkept⟩ := ih fun other ho => h other (List.mem_cons_of_mem _ ho)
    exact ⟨_, keptEntries_cons hstays hkept⟩

/-- What a member of an object is for a child that leads on. -/
theorem member {next : Kind} {v : Json} (h : WellShaped fragments kind field (.obj object))
    (hc : child ∈ collect fragments field.selections) (hnext : kind.next? child.name = some next)
    (hv : object.get? child.responseKey = some v) : WellShaped fragments next child v :=
  ((wellShaped_obj_iff.mp h).2 child hc v hv).2 next hnext

theorem exists_filterMembers (h : WellShaped fragments .type field (.obj object))
    (hc : child ∈ collect fragments field.selections) (hidden : List String) :
    ∃ result, filterMembers fragments hidden object child = .ok result := by
  by_cases hlist : child.name ∈ memberLists
  · by_cases hentries : ∃ entries, object.get? child.responseKey = some (.arr entries)
    · obtain ⟨entries, hentries⟩ := hentries
      obtain ⟨next, hnext⟩ := next?_memberList hlist
      obtain ⟨kept, hkept⟩ := exists_keptEntries hidden fun entry he =>
        wellShaped_arr_iff.mp (h.member hc hnext hentries) entry he
      exact ⟨_, filterMembers_of_arr hlist hentries hkept⟩
    · exact ⟨object, filterMembers_of_ne_arr fun entries hno => hentries ⟨entries, hno⟩⟩
  · exact ⟨object, filterMembers_of_not_mem hlist⟩

/-- Opening an object succeeds. -/
theorem exists_opened (registry : Registry) (h : WellShaped fragments kind field (.obj object))
    (literal : Option String) :
    ∃ result, opened registry fragments literal kind field object = .ok result := by
  by_cases hkind : kind = .type
  · subst hkind
    obtain ⟨hidden, hhidden⟩ := h.exists_hiddenNames registry literal
    rw [opened_eq hhidden]
    by_cases hempty : hidden.isEmpty = true
    · exact ⟨object, if_pos hempty⟩
    · rw [if_neg hempty]
      -- each filter trims, so the next one finds the same shape
      have hfilter : ∀ child ∈ collect fragments field.selections, ∀ object,
          WellShaped fragments .type field (.obj object) →
            ∃ result, filterMembers fragments hidden object child = .ok result ∧
              WellShaped fragments .type field (.obj result) := by
        intro child hc object hobject
        obtain ⟨result, hresult⟩ := hobject.exists_filterMembers hc hidden
        exact ⟨result, hresult, hobject.of_trimmed (.object (filterMembers_trimmed hresult))⟩
      obtain ⟨result, hresult, -⟩ := exists_foldlM hfilter h
      exact ⟨result, hresult⟩
  · exact ⟨object, by rw [opened, if_neg hkind]⟩

/-! ### Walking -/

/-- Going into a child succeeds if the walk of what it leads to does. -/
theorem exists_stepInto {lead : Field → Option Kind}
    {go : Field → Kind → Json → Except Failure Json}
    (hgo : ∀ next v, lead child = some next → object.get? child.responseKey = some v →
      ∃ w, go child next v = .ok w) :
    ∃ result, stepInto lead go object child = .ok result := by
  cases hl : lead child with
  | none => exact ⟨object, stepInto_of_lead_none hl⟩
  | some next =>
    cases hv : object.get? child.responseKey with
    | none => exact ⟨object, stepInto_of_absent hl hv⟩
    | some v =>
      obtain ⟨w, hw⟩ := hgo next v hl hv
      exact ⟨_, stepInto_of_present hl hv hw⟩

/-- Visiting the children of an object one after the other succeeds if their walks do. -/
theorem exists_visited {n : Nat} (h : WellShaped fragments kind field (.obj object))
    (hwalk : ∀ next child v, WellShaped fragments next child v →
      ∃ w, walk registry fragments n none next child v = .ok w) :
    ∃ result, visited registry fragments n kind field object = .ok result := by
  have hvisit : ∀ child ∈ collect fragments field.selections, ∀ object,
      WellShaped fragments kind field (.obj object) →
        ∃ result, visit (walk registry fragments n none) kind object child = .ok result ∧
          WellShaped fragments kind field (.obj result) := by
    intro child hc object hobject
    obtain ⟨result, hresult⟩ : ∃ result,
        visit (walk registry fragments n none) kind object child = .ok result := by
      rw [visit_eq_stepInto _ (wellShaped_obj_iff.mp hobject).1]
      exact exists_stepInto fun next v hnext hv => hwalk next child v (hobject.member hc hnext hv)
    exact ⟨result, hresult, hobject.of_trimmed (.object (visit_trimmed hresult))⟩
  obtain ⟨result, hresult, -⟩ := exists_foldlM hvisit h
  exact ⟨result, hresult⟩

/-- **A walk over a value of the right shape succeeds**, however deep it goes. -/
theorem exists_walk : ∀ (n : Nat) {literal : Option String} {kind : Kind} {field : Field}
    {v : Json}, WellShaped fragments kind field v →
    ∃ w, walk registry fragments n literal kind field v = .ok w := by
  intro n
  induction n with
  | zero => intro literal kind field v _; exact ⟨v, rfl⟩
  | succ n ih =>
    intro literal kind field v h
    cases v with
    | arr items =>
      obtain ⟨results, hresults⟩ : ∃ results,
          items.mapM (walk registry fragments n literal kind field) = .ok results :=
        exists_mapM fun item hitem => ih (wellShaped_arr_iff.mp h item hitem)
      exact ⟨.arr results, by rw [walk_arr, hresults]; rfl⟩
    | obj object =>
      obtain ⟨first, hfirst⟩ := h.exists_opened registry literal
      have hopened : WellShaped fragments kind field (.obj first) :=
        h.of_trimmed (.object (opened_trimmed hfirst))
      obtain ⟨second, hsecond⟩ : ∃ second,
          visited registry fragments n kind field first = .ok second :=
        hopened.exists_visited fun _ _ _ => ih
      exact ⟨.obj second, by rw [walk_obj, hfirst, ok_bind, hsecond]; rfl⟩
    | _ => exact ⟨_, rfl⟩

end WellShaped

/-! ### Whole results -/

theorem WellShapedResult.of_trimmed {document : Document} {operationName : Option String}
    {before after : Table Json} (h : WellShapedResult document operationName (.obj before))
    (htrimmed : TrimmedMembers before after) :
    WellShapedResult document operationName (.obj after) := by
  intro field hf kind hkind w hw
  obtain ⟨v, hv, hvw⟩ := htrimmed.exists_get? hw
  exact (h field hf kind hkind v hv).of_trimmed hvw

theorem WellShapedResult.redacts {document : Document} {operationName : Option String}
    {data : Json} (h : WellShapedResult document operationName data) :
    ∃ result, redact registry document operationName data = .ok result := by
  cases data with
  | null => exact ⟨.null, rfl⟩
  | obj members =>
    let go (field : Field) (kind : Kind) : Json → Except Failure Json :=
      walk registry document.fragmentTable (Json.obj members).depth (literalTypeName? field) kind
        field
    have hroot : ∀ field ∈ rootSelection document operationName, ∀ object,
        WellShapedResult document operationName (.obj object) →
          ∃ result, stepInto rootKind? go object field = .ok result ∧
            WellShapedResult document operationName (.obj result) := by
      intro field hf object hobject
      obtain ⟨result, hresult⟩ : ∃ result, stepInto rootKind? go object field = .ok result :=
        WellShaped.exists_stepInto fun kind v hkind hv =>
          (hobject field hf kind hkind v hv).exists_walk _
      exact ⟨result, hresult, hobject.of_trimmed (rootStep_trimmed hresult)⟩
    obtain ⟨rest, hrest, -⟩ := exists_foldlM hroot h
    exact ⟨.obj rest, (redact_obj (Nat.le_refl _)).mpr ⟨rest, rfl, hrest⟩⟩
  | _ => exact h.elim

/-- **Redaction never fails on data of the right shape**, whatever the registry, the document and
the operation are. A text that does not parse needs no shape at all. -/
theorem exists_redact (registry : Registry) (operationName : Option String) (data : Json) :
    (∀ document, WellShapedResult document operationName data →
      ∃ result, redact registry document operationName data = .ok result) ∧
    ∀ query, (∀ document, document? query = some document →
        WellShapedResult document operationName data) →
      ∃ result, redactText registry query operationName data = .ok result := by
  refine ⟨fun document h => h.redacts, fun query h => ?_⟩
  rw [redactText]
  cases hdocument : document? query with
  | none => exact ⟨data, rfl⟩
  | some document => exact (h document hdocument).redacts

/-- Two fields of a type share the key `x`, so that its name stands where a list of fields may
stand, too; a leaf has selections, a fragment spreads itself and another one is not defined. -/
theorem exists_redact_of_shared_key :
    ∃ (registry : Registry) (document : Document) (query : String) (data : Json),
      document? query = some document ∧ WellShapedResult document none data ∧
        (∃ result, redact registry document none data = .ok result) ∧
        (∀ document, document? query = some document → WellShapedResult document none data) ∧
        (∃ result, redactText registry query none data = .ok result) ∧
        redactText registry query none data ≠ .ok data := by
  let registry := Registry.ofRecords [⟨"A", "secret"⟩]
  let select (inside : String) : String := "\x7b " ++ inside ++ " \x7d "
  let query := select ("__type(name: \"A\")" ++ select ("x: name x: fields" ++ select "name" ++
      "kind" ++ select "name" ++ "unknown" ++ select "name" ++ "...Members ...Missing")) ++
    "fragment Members on __Type" ++ select ("fields" ++ select "y: name" ++ "...Members")
  let member (name : Json) : Json := .obj [("y", name)]
  let data : Json := .obj [("__type", .obj [("x", .str "A"), ("kind", .str "OBJECT"),
    ("unknown", .arr [.obj [("name", .arr [])]]),
    ("fields", .arr [member (.str "open"), member (.str "secret"), member .null, .int 1])])]
  have htest : ((document? query).any fun document =>
      decide (WellShapedResult document none data)) = true := by
    decide +kernel
  obtain ⟨document, hdocument, hshape⟩ := (Option.any_eq_true _ _).mp htest
  have hquery : ∀ document, document? query = some document →
      WellShapedResult document none data := by
    intro other hother
    rw [hdocument, Option.some.injEq] at hother
    exact hother ▸ of_decide_eq_true hshape
  have hresult : (redactText registry query none data).toOption ≠ some data := by decide +kernel
  exact ⟨registry, document, query, data, hdocument, of_decide_eq_true hshape,
    (exists_redact registry none data).1 document (of_decide_eq_true hshape), hquery,
    (exists_redact registry none data).2 query hquery, fun h => hresult (toOption_eq_some.mpr h)⟩

end SchemaVisibility.Introspection
