import SchemaVisibility.Proofs.Introspection.Pruning

/-! # What redaction leaves alone

Redaction takes entries out of lists of members and does nothing else. One filter of a member list
prunes its descriptor (`filterMembers_pruned`), so does the visit of a child (`visit_pruned`), and
so a walk prunes the value that it walks (`walk_pruned`). A whole result is pruned along its root
fields (`redact_prunedResult`); what stands under other keys is not touched, and no list of types
loses a type.
-/

namespace SchemaVisibility.Introspection

open GraphQL Redaction Fallible Table

variable {registry : Registry} {fragments : Fragments} {routes : List Route}

/-! ### Filtering -/

/-- The hidden names of a descriptor are those that its owner conceals. -/
theorem mem_hiddenNames {owner : Json} {hidden : List String}
    (h : hiddenNames registry owner = .ok hidden) (name : String) :
    name ∈ hidden ↔ Conceals registry owner name := by
  cases owner with
  | null =>
    cases h
    rw [registry.mem_memberNames]
    simp only [Conceals, registry.isPrivate_iff]
  | str text =>
    cases h
    exact List.contains_iff_mem.symm
  | arr items => cases h
  | obj members => cases h
  | _ =>
    cases h
    exact iff_of_false List.not_mem_nil id

theorem isScalar_of_hiddenNames {owner : Json} {hidden : List String}
    (h : hiddenNames registry owner = .ok hidden) : IsScalar owner := by
  cases owner with
  | arr items => cases h
  | obj members => cases h
  | _ => trivial

theorem exists_hiddenNames {owner : Json} (h : IsScalar owner) :
    ∃ hidden, hiddenNames registry owner = .ok hidden := by
  cases owner with
  | arr items => exact h.elim
  | obj members => exact h.elim
  | _ => exact ⟨_, rfl⟩

/-- What does not stay is an object whose name is concealed. -/
theorem concealsEntry_of_keeps {owner entry : Json} {hidden : List String} {children : List Field}
    (hhidden : hiddenNames registry owner = .ok hidden) (hne : hidden ≠ [])
    (h : keeps hidden children entry = .ok false) :
    ∃ members, entry = .obj members ∧
      ConcealsEntry registry owner (selected members children "name") := by
  cases entry with
  | obj members =>
    refine ⟨members, rfl, ?_⟩
    rw [keeps] at h
    cases hname : selected members children "name" with
    | null =>
      obtain ⟨name, hmem⟩ := List.exists_mem_of_ne_nil hidden hne
      exact ⟨name, (mem_hiddenNames hhidden name).mp hmem⟩
    | str text =>
      rw [hname] at h
      have hmem : text ∈ hidden := by simpa using h
      exact (mem_hiddenNames hhidden text).mp hmem
    | _ => rw [hname] at h; cases h
  | _ => cases h

theorem prunedItems_of_keptEntries {out : Json → Prop} {hidden : List String}
    {children : List Field} {entries kept : List Json}
    (h : keptEntries hidden children entries = .ok kept)
    (hout : ∀ entry, keeps hidden children entry = .ok false → out entry) :
    PrunedItems registry fragments routes out entries kept := by
  induction entries generalizing kept with
  | nil => cases h; exact .nil
  | cons entry rest ih =>
    rw [keptEntries, bind_eq_ok] at h
    obtain ⟨stays, hstays, h⟩ := h
    obtain ⟨more, hmore, h⟩ := bind_eq_ok.mp h
    rw [pure_eq_ok] at h
    subst h
    cases stays with
    | true => exact .keep (Pruned.refl routes Spared entry) (ih hmore)
    | false => exact .drop (hout entry hstays) (ih hmore)

/-- An object is pruned if one of its members is. -/
theorem prunedObject_insert {object : Table Json} {key : String} {v w : Json}
    (hv : object.get? key = some v)
    (h : Pruned registry fragments (routesBelow fragments routes key)
      (LeftOut registry fragments routes object (object.insert key w) key) v w) :
    PrunedObject registry fragments routes object (object.insert key w) :=
  prunedMembers_iff.mpr (.of_insert (fun _ v => Pruned.refl _ _ v) hv h)

/-- Filtering one member list prunes the descriptor. -/
theorem filterMembers_pruned {route : Route} {child : Field} {owner : Json} {hidden : List String}
    {object result : Table Json} (hroute : route ∈ routes) (hkind : route.kind = .type)
    (hc : child ∈ route.children fragments) (hhidden : hiddenNames registry owner = .ok hidden)
    (hne : hidden ≠ [])
    (howner : Redaction.owner object (route.children fragments) route.literal = owner)
    (h : filterMembers fragments hidden object child = .ok result) :
    PrunedObject registry fragments routes object result := by
  rw [filterMembers] at h
  split at h
  · next hlist =>
    split at h
    · next entries hentries =>
      obtain ⟨kept, hkept, h⟩ := bind_eq_ok.mp h
      rw [pure_eq_ok] at h
      subst h
      have halike : AlikeMembers object (object.insert child.responseKey (.arr kept)) := by
        refine .of_insert (fun _ v => Alike.refl v) hentries fun hnil => ?_
        rw [hnil] at hkept
        cases hkept
        rfl
      refine prunedObject_insert hentries (.list (prunedItems_of_keptEntries hkept ?_))
      intro entry hgoes
      refine ⟨route, hroute, hkind, child, mem_under.mpr ⟨hc, rfl⟩, hlist, owner, ⟨?_, ?_⟩,
        concealsEntry_of_keeps hhidden hne hgoes⟩
      · rw [← howner]
        exact owner_eq_of_alike halike (howner ▸ isScalar_of_hiddenNames hhidden)
      · exact fun _ => howner
    · rw [pure_eq_ok] at h; exact h ▸ PrunedObject.refl object
  · rw [pure_eq_ok] at h; exact h ▸ PrunedObject.refl object

/-- Opening an object prunes it. -/
theorem opened_pruned {route : Route} {object result : Table Json} (hroute : route ∈ routes)
    (h : opened registry fragments route.literal route.kind route.field object = .ok result) :
    PrunedObject registry fragments routes object result := by
  by_cases hkind : route.kind = .type
  · rw [opened, if_pos hkind, descriptor, bind_eq_ok] at h
    obtain ⟨hidden, hhidden, h⟩ := h
    split at h
    · rw [pure_eq_ok] at h; exact h ▸ PrunedObject.refl object
    · next hne =>
      -- the owner is read once, before the first list is filtered, and would be read the same later
      refine foldlM_keeps (P := fun s => PrunedObject registry fragments routes object s)
        (fun child hc s s' hs hstep => hs.trans ?_) (PrunedObject.refl object) h
      exact filterMembers_pruned hroute hkind hc hhidden (by simpa using hne)
        (owner_eq_of_alike hs.alike (isScalar_of_hiddenNames hhidden)) hstep
  · rw [opened, if_neg hkind] at h
    cases h
    exact PrunedObject.refl object

/-! ### Walking -/

/-- A child's own route goes on from a route to its object. -/
theorem mem_routesBelow {route : Route} {child : Field} {next : Kind} (hroute : route ∈ routes)
    (hc : child ∈ route.children fragments) (hnext : route.kind.next? child.name = some next) :
    (⟨next, child, none⟩ : Route) ∈ routesBelow fragments routes child.responseKey :=
  List.mem_flatMap.mpr ⟨route, hroute, List.mem_filterMap.mpr
    ⟨child, mem_under.mpr ⟨hc, rfl⟩, by rw [hnext, Option.map_some]⟩⟩

theorem mem_rootRoutes {fields : List Field} {field : Field} {kind : Kind} (hf : field ∈ fields)
    (hkind : rootKind? field = some kind) :
    (⟨kind, field, literalTypeName? field⟩ : Route) ∈ rootRoutes fields field.responseKey :=
  List.mem_filterMap.mpr ⟨field, mem_under.mpr ⟨hf, rfl⟩, by rw [hkind, Option.map_some]⟩

/-- A visit succeeds only where fields lead on. -/
theorem ne_leaf_of_visit {go : Kind → Field → Json → Except Failure Json} {kind : Kind}
    {object result : Table Json} {child : Field} (h : visit go kind object child = .ok result) :
    kind ≠ .leaf := by
  rintro rfl
  cases h

/-- Members pruned in place make a pruned object. -/
theorem prunedObject_of_aligned {before after : Table Json}
    (h : Aligned (fun key => Pruned registry fragments (routesBelow fragments routes key) Spared)
      before after) : PrunedObject registry fragments routes before after :=
  prunedMembers_iff.mpr (h.imp fun _ _ _ _ hv => hv.mono (List.Subset.refl _) fun _ => False.elim)

/-- Visiting a child prunes the object if the walk of the child prunes what it walks. -/
theorem visit_pruned {go : Kind → Field → Json → Except Failure Json} {route : Route}
    {child : Field} {object result : Table Json} (hroute : route ∈ routes)
    (hc : child ∈ route.children fragments)
    (hgo : ∀ next routes v w, (⟨next, child, none⟩ : Route) ∈ routes → go next child v = .ok w →
      Pruned registry fragments routes Spared v w)
    (h : visit go route.kind object child = .ok result) :
    PrunedObject registry fragments routes object result := by
  rw [visit_eq_stepInto go (ne_leaf_of_visit h)] at h
  exact prunedObject_of_aligned (stepInto_aligned (fun _ v => Pruned.refl _ _ v)
    (fun next v w hnext hw => hgo next _ v w (mem_routesBelow hroute hc hnext) hw) h)

/-- Visiting the children one after the other prunes the object. -/
theorem visited_pruned {n : Nat} {route : Route} {object result : Table Json}
    (hroute : route ∈ routes)
    (hwalk : ∀ child next routes v w, (⟨next, child, none⟩ : Route) ∈ routes →
      walk registry fragments n none next child v = .ok w →
      Pruned registry fragments routes Spared v w)
    (h : visited registry fragments n route.kind route.field object = .ok result) :
    PrunedObject registry fragments routes object result :=
  foldlM_keeps (P := PrunedObject registry fragments routes object)
    (fun child hc _ _ hs hstep => hs.trans (visit_pruned hroute hc
      (fun next => hwalk child next) hstep)) (PrunedObject.refl object) h

/-- **A walk prunes the value that it walks.** -/
theorem walk_pruned : ∀ (n : Nat) {literal : Option String} {kind : Kind} {field : Field}
    {routes : List Route} {v w : Json}, (⟨kind, field, literal⟩ : Route) ∈ routes →
    walk registry fragments n literal kind field v = .ok w →
    Pruned registry fragments routes Spared v w := by
  intro n
  induction n with
  | zero => intro literal kind field routes v w _ h; cases h; exact Pruned.refl _ _ v
  | succ n ih =>
    intro literal kind field routes v w hroute h
    cases v with
    | arr items =>
      rw [walk_arr] at h
      obtain ⟨results, hr, h⟩ := bind_eq_ok.mp h
      cases h
      exact .list (prunedItems_spared_iff.mpr
        ((mapM_eq_ok_iff.mp hr).imp fun _ _ => ih hroute))
    | obj object =>
      rw [walk_obj] at h
      obtain ⟨opened, ho, h⟩ := bind_eq_ok.mp h
      obtain ⟨result, hr, h⟩ := bind_eq_ok.mp h
      cases h
      have hopened : PrunedObject registry fragments routes object opened :=
        opened_pruned hroute ho
      have hvisited : PrunedObject registry fragments routes opened result :=
        visited_pruned hroute (fun _ _ _ _ _ hmem => ih hmem) hr
      exact .object (hopened.trans hvisited)
    | _ => cases h; exact Pruned.refl _ _ _

/-! ### Whole results -/

/-- The members of a whole result, each pruned along the root fields of introspection that its key
belongs to. -/
abbrev PrunedRoots (registry : Registry) (fragments : Fragments) (fields : List Field)
    (before after : Table Json) : Prop :=
  Aligned (fun key => Pruned registry fragments (rootRoutes fields key) Spared) before after

/-- A pruned result. What is no object is not touched at all. -/
def PrunedResult (registry : Registry) (fragments : Fragments) (fields : List Field) :
    Json → Json → Prop
  | .obj before, .obj after => PrunedRoots registry fragments fields before after
  | before, after => before = after

theorem PrunedRoots.refl (fields : List Field) (members : Table Json) :
    PrunedRoots registry fragments fields members members :=
  Aligned.refl (fun _ v => Pruned.refl _ _ v) members

theorem PrunedRoots.trans {fields : List Field} {a b c : Table Json}
    (h : PrunedRoots registry fragments fields a b)
    (g : PrunedRoots registry fragments fields b c) : PrunedRoots registry fragments fields a c :=
  Aligned.trans (fun _ _ _ _ hv hw => hv.trans_spared hw) h g

theorem PrunedResult.refl (fields : List Field) (data : Json) :
    PrunedResult registry fragments fields data data := by
  cases data with
  | obj members => exact PrunedRoots.refl fields members
  | _ => rfl

/-- Walking one root field prunes a result. -/
theorem rootStep_pruned {n : Nat} {fields : List Field} {field : Field} {object result : Table Json}
    (hf : field ∈ fields)
    (h : stepInto rootKind? (fun c next => walk registry fragments n (literalTypeName? c) next c)
      object field = .ok result) : PrunedRoots registry fragments fields object result :=
  stepInto_aligned (fun _ v => Pruned.refl _ _ v)
    (fun _ _ _ hkind hw => walk_pruned n (mem_rootRoutes hf hkind) hw) h

/-- The redaction of an object goes into its root fields in turn. -/
theorem redact_obj {document : Document} {operationName : Option String} {members : Table Json}
    {result : Json} {n : Nat} (hn : (Json.obj members).depth ≤ n) :
    redact registry document operationName (.obj members) = .ok result ↔
      ∃ rest, result = .obj rest ∧
        (rootSelection document operationName).foldlM (stepInto rootKind? fun c next =>
          walk registry document.fragmentTable n (literalTypeName? c) next c) members =
          .ok rest := by
  rw [redact_obj_eq hn, foldlM_root_obj, bind_eq_ok]
  exact exists_congr fun rest => by rw [pure_eq_ok, and_comm, eq_comm]

/-- What counts as set and is no object cannot have a root field of introspection. -/
theorem redact_of_not_obj_eq {document : Document} {operationName : Option String} {data : Json}
    (hdata : ∀ members, data ≠ .obj members) :
    redact registry document operationName data =
      if data.truthy = true ∧ ∃ field ∈ rootSelection document operationName,
        (rootKind? field).isSome = true
      then .error .rootNotObject else .ok data := by
  have hfold : ∀ fields : List Field,
      fields.foldlM (root registry document.fragmentTable data.depth) data =
        if ∃ field ∈ fields, (rootKind? field).isSome = true then .error .rootNotObject
        else .ok data := by
    intro fields
    induction fields with
    | nil => simp [pure, Except.pure]
    | cons field rest ih =>
      rw [List.foldlM_cons, root]
      cases hkind : rootKind? field with
      | none => simp [ih, hkind]
      | some kind =>
        cases data with
        | obj members => exact absurd rfl (hdata members)
        | _ => simp [hkind, bind, Except.bind]
  rw [redact, rootSelection]
  by_cases htruthy : data.truthy = true
  · cases document.selectedOperation? operationName with
    | none => simp [htruthy]
    | some operation => simp [htruthy, hfold]
  · simp [htruthy]

/-- What is no object is not changed. -/
theorem redact_of_not_obj {document : Document} {operationName : Option String} {data result : Json}
    (hdata : ∀ members, data ≠ .obj members)
    (h : redact registry document operationName data = .ok result) : result = data := by
  rw [redact_of_not_obj_eq hdata] at h
  split at h
  · cases h
  · exact (Except.ok.inj h).symm

theorem redact_prunedResult {document : Document} {operationName : Option String}
    {data result : Json} (h : redact registry document operationName data = .ok result) :
    PrunedResult registry document.fragmentTable (rootSelection document operationName)
      data result := by
  by_cases hdata : ∃ members, data = .obj members
  · obtain ⟨members, rfl⟩ := hdata
    obtain ⟨rest, rfl, hrest⟩ := (redact_obj (Nat.le_refl _)).mp h
    exact foldlM_keeps (P := PrunedRoots registry document.fragmentTable _ members)
      (fun field hf s t hs hstep => hs.trans (rootStep_pruned hf hstep))
      (PrunedRoots.refl _ members) hrest
  · rw [redact_of_not_obj (fun members hmembers => hdata ⟨members, hmembers⟩) h]
    exact PrunedResult.refl _ data

/-! ### The frame -/

/-- What a result keeps when it is redacted. -/
structure Frame (registry : Registry) (document : Document) (operationName : Option String)
    (data result : Json) : Prop where
  /-- Entries are left out of lists of members for a reason, and that is all. -/
  pruned : PrunedResult registry document.fragmentTable (rootSelection document operationName)
    data result
  /-- A key to which no root field of introspection belongs keeps its member. -/
  untouched : ∀ key, (∀ field ∈ under key (rootSelection document operationName),
    rootKind? field = none) → result.member key = data.member key
  /-- Where no root key means two fields, the types of a schema stay, in their order. -/
  types : Coherent (rootSelection document operationName) →
    ∀ field ∈ rootSelection document operationName, field.name = "__schema" →
      ∀ before, data.member field.responseKey = .obj before →
        ∃ after, result.member field.responseKey = .obj after ∧
          ∀ child ∈ collect document.fragmentTable field.selections, child.name = "types" →
            ∀ types, Table.get? before child.responseKey = some (.arr types) →
              ∃ kept, Table.get? after child.responseKey = some (.arr kept) ∧
                List.Forall₂ (Pruned registry document.fragmentTable
                  (routesBelow document.fragmentTable (rootRoutes
                    (rootSelection document operationName) field.responseKey) child.responseKey)
                  Spared) types kept

/-- An object that no route describes as a type keeps its lists as long as they are. -/
theorem PrunedObject.spared {before after : Table Json}
    (h : PrunedObject registry fragments routes before after)
    (hkind : ∀ route ∈ routes, route.kind ≠ .type) :
    Aligned (fun key => Pruned registry fragments (routesBelow fragments routes key) Spared)
      before after :=
  (prunedMembers_iff.mp h).imp fun _ _ _ _ hv =>
    hv.mono (List.Subset.refl _) fun _ ⟨route, hroute, htype, _⟩ => hkind route hroute htype

theorem rootRoutes_eq_nil {fields : List Field} {key : String}
    (h : ∀ field ∈ under key fields, rootKind? field = none) : rootRoutes fields key = [] := by
  rw [rootRoutes, List.filterMap_eq_nil_iff]
  intro field hf
  rw [h field hf, Option.map_none]

theorem PrunedResult.member_eq {fields : List Field} {data result : Json} {key : String}
    (h : PrunedResult registry fragments fields data result)
    (hkey : ∀ field ∈ under key fields, rootKind? field = none) :
    result.member key = data.member key := by
  cases data with
  | obj before =>
    cases result with
    | obj after =>
      have hroots : PrunedRoots registry fragments fields before after := h
      rw [Json.member, Json.member]
      rcases hroots.get?_cases key with ⟨hv, hw⟩ | ⟨v, w, hv, hw, hvw⟩
      · rw [hv, hw]
      · rw [hv, hw, hvw.eq_of_nil (rootRoutes_eq_nil hkey) fun _ => id]
    | _ => cases h
  | _ => cases h; rfl

/-- Where a result has an object, the redacted one has a pruned object. -/
theorem PrunedResult.member_obj {fields : List Field} {data result : Json} {key : String}
    {before : Table Json} (h : PrunedResult registry fragments fields data result)
    (hbefore : data.member key = .obj before) :
    ∃ after, result.member key = .obj after ∧
      PrunedObject registry fragments (rootRoutes fields key) before after := by
  cases data with
  | obj members =>
    cases result with
    | obj rest =>
      have hroots : PrunedRoots registry fragments fields members rest := h
      rw [Json.member] at hbefore ⊢
      rcases hroots.get?_cases key with ⟨hv, -⟩ | ⟨v, w, hv, hw, hvw⟩
      · rw [hv] at hbefore
        cases hbefore
      · obtain rfl : v = .obj before := by simpa only [hv, Option.getD_some] using hbefore
        cases hvw with
        | scalar hscalar => exact hscalar.elim
        | object hmembers => exact ⟨_, by rw [hw, Option.getD_some], hmembers⟩
    | _ => cases h
  | _ => cases hbefore

/-- Only the schema is described under the root keys of `__schema`. -/
theorem kind_of_mem_rootRoutes {fields : List Field} {field : Field} {route : Route}
    (hcoherent : Coherent fields) (hf : field ∈ fields) (hname : field.name = "__schema")
    (hroute : route ∈ rootRoutes fields field.responseKey) : route.kind = .schema := by
  obtain ⟨other, ho, hroute⟩ := List.mem_filterMap.mp hroute
  have hother : other.name = "__schema" := (hcoherent.name_eq hf ho).trans hname
  rw [rootKind?, hother] at hroute
  cases hroute
  rfl

/-- The lists of an object that no route describes as a type keep all their items. -/
theorem PrunedObject.get?_list {before after : Table Json} {key : String} {items : List Json}
    (h : PrunedObject registry fragments routes before after)
    (hkind : ∀ route ∈ routes, route.kind ≠ .type)
    (hitems : Table.get? before key = some (.arr items)) :
    ∃ kept, Table.get? after key = some (.arr kept) ∧
      List.Forall₂ (Pruned registry fragments (routesBelow fragments routes key) Spared)
        items kept := by
  rcases (h.spared hkind).get?_cases key with ⟨hv, -⟩ | ⟨v, w, hv, hw, hvw⟩
  · rw [hitems] at hv
    cases hv
  · obtain rfl : v = .arr items := by simpa only [hitems, Option.some.injEq, eq_comm] using hv
    cases hvw with
    | scalar hscalar => exact hscalar.elim
    | list hkept => exact ⟨_, hw, prunedItems_spared_iff.mp hkept⟩

theorem PrunedResult.frame {document : Document} {operationName : Option String}
    {data result : Json}
    (h : PrunedResult registry document.fragmentTable (rootSelection document operationName)
      data result) : Frame registry document operationName data result where
  pruned := h
  untouched _ := h.member_eq
  types hcoherent field hf hname before hbefore := by
    obtain ⟨after, hafter, hobject⟩ := h.member_obj hbefore
    refine ⟨after, hafter, fun child _ _ types => hobject.get?_list fun route hroute => ?_⟩
    rw [kind_of_mem_rootRoutes hcoherent hf hname hroute]
    exact Kind.noConfusion

/-- **Redaction removes nothing else.** -/
theorem redact_frame (registry : Registry) (operationName : Option String) (data result : Json) :
    (∀ document, redact registry document operationName data = .ok result →
      Frame registry document operationName data result) ∧
    ∀ query, redactText registry query operationName data = .ok result →
      match document? query with
      | none => result = data
      | some document => Frame registry document operationName data result := by
  refine ⟨fun document h => (redact_prunedResult h).frame, fun query h => ?_⟩
  rw [redactText] at h
  cases hdocument : document? query with
  | none => rw [hdocument] at h; exact (Except.ok.inj h).symm
  | some document => rw [hdocument] at h; exact (redact_prunedResult h).frame

/-- A type loses its private field, and a type that is private as a whole stays. -/
theorem redact_frame_of_private_type :
    ∃ (registry : Registry) (document : Document) (query : String) (data result : Json),
      document? query = some document ∧ data ≠ result ∧
        redact registry document none data = .ok result ∧
        Frame registry document none data result ∧
        redactText registry query none data = .ok result ∧
        (match document? query with
          | none => result = data
          | some document => Frame registry document none data result) := by
  let registry := Registry.ofRecords [⟨"A", "secret"⟩, ⟨Record.topLevel, "B"⟩]
  let select (inside : String) : String := "\x7b " ++ inside ++ " \x7d "
  let query := select ("__schema" ++ select ("types" ++ select ("name fields" ++ select "name")))
  let member (name : String) : Json := .obj [("name", .str name)]
  let type (name : String) (fields : List String) : Json :=
    .obj [("name", .str name), ("fields", .arr (fields.map member))]
  let schema (types : List Json) : Json := .obj [("__schema", .obj [("types", .arr types)])]
  have htext : redactText registry query none
      (schema [type "A" ["open", "secret"], type "B" ["secret"]]) =
        .ok (schema [type "A" ["open"], type "B" ["secret"]]) :=
    toOption_eq_some.mp (by decide +kernel)
  obtain ⟨document, hdocument⟩ : ∃ document, document? query = some document :=
    Option.isSome_iff_exists.mp (by decide +kernel)
  have h := htext
  rw [redactText, hdocument] at h
  exact ⟨registry, document, query, _, _, hdocument, by decide, h,
    (redact_frame registry none _ _).1 document h, htext,
    (redact_frame registry none _ _).2 query htext⟩

end SchemaVisibility.Introspection
