import SchemaVisibility.Proofs.Introspection.Frame

/-! # Redacting twice

A redacted result has nothing left to redact, whatever the data and the document were. Redaction
trims what it redacts (`walk_trimmed`), and each part of it is at rest in its own result and in
whatever is left of that by trimming: the filter of a member list (`filterMembers_rests`), the
opening of an object (`opened_rests`), the visit of a child (`visit_rests`) and so a whole walk
(`walk_rests`). The names that decide what goes are read again as they were read before, because
trimming leaves them as they are. And since nothing trimmed grows again, a walk that changes nothing
on the whole changes nothing anywhere (`walk_obj_still_iff`).
-/

namespace SchemaVisibility.Introspection

open GraphQL Redaction Fallible Table

variable {registry : Registry} {fragments : Fragments}

/-! ### Redaction trims -/

/-- A table is trimmed when one of its values is. -/
theorem trimmedMembers_insert {object : Table Json} {key : String} {v w : Json}
    (hv : object.get? key = some v) (h : Trimmed v w) :
    TrimmedMembers object (object.insert key w) :=
  trimmedMembers_iff.mpr (.of_insert (fun _ v => Trimmed.refl v) hv h)

theorem TrimmedItems.of_sublist {items kept : List Json} (h : kept.Sublist items) :
    TrimmedItems items kept := by
  induction h with
  | slnil => exact .nil
  | cons _ _ ih => exact .drop ih
  | cons_cons v _ ih => exact .keep (Trimmed.refl v) ih

theorem filterMembers_trimmed {hidden : List String} {child : Field} {object result : Table Json}
    (h : filterMembers fragments hidden object child = .ok result) :
    TrimmedMembers object result := by
  rw [filterMembers] at h
  split at h
  · split at h
    · next entries hentries =>
      obtain ⟨kept, hkept, h⟩ := bind_eq_ok.mp h
      rw [pure_eq_ok] at h
      subst h
      exact trimmedMembers_insert hentries (.list (.of_sublist (keptEntries_sublist hkept)))
    · rw [pure_eq_ok] at h; exact h ▸ TrimmedMembers.refl object
  · rw [pure_eq_ok] at h; exact h ▸ TrimmedMembers.refl object

theorem opened_trimmed {literal : Option String} {kind : Kind} {field : Field}
    {object result : Table Json}
    (h : opened registry fragments literal kind field object = .ok result) :
    TrimmedMembers object result :=
  (opened_pruned (List.mem_singleton_self (⟨kind, field, literal⟩ : Route)) h).trimmed

theorem walk_trimmed {n : Nat} {literal : Option String} {kind : Kind} {field : Field} {v w : Json}
    (h : walk registry fragments n literal kind field v = .ok w) : Trimmed v w :=
  (walk_pruned n (List.mem_singleton_self (⟨kind, field, literal⟩ : Route)) h).trimmed

/-- Going into children trims an object if the walks of the children trim. -/
theorem stepInto_trimmed {lead : Field → Option Kind}
    {go : Field → Kind → Json → Except Failure Json} {child : Field} {object result : Table Json}
    (hgo : ∀ next v w, go child next v = .ok w → Trimmed v w)
    (h : stepInto lead go object child = .ok result) : TrimmedMembers object result :=
  trimmedMembers_iff.mpr (stepInto_aligned (fun _ v => Trimmed.refl v)
    (fun next v w _ => hgo next v w) h)

theorem visit_trimmed {n : Nat} {kind : Kind} {child : Field} {object result : Table Json}
    (h : visit (walk registry fragments n none) kind object child = .ok result) :
    TrimmedMembers object result := by
  rw [visit_eq_stepInto _ (ne_leaf_of_visit h)] at h
  exact stepInto_trimmed (fun _ _ _ => walk_trimmed) h

theorem visited_trimmed {n : Nat} {kind : Kind} {field : Field} {object result : Table Json}
    (h : visited registry fragments n kind field object = .ok result) :
    TrimmedMembers object result :=
  foldlM_leads TrimmedMembers.refl (fun _ _ _ => TrimmedMembers.trans) (TrimmedMembers.refl object)
    (fun _ _ _ _ _ => visit_trimmed) h

/-! ### Filtering again -/

/-- Whether an entry stays is told from the trimmed entry just so. -/
theorem keeps_of_trimmed {hidden : List String} {children : List Field} {entry rest : Json}
    {stays : Bool} (h : Trimmed entry rest) (hstays : keeps hidden children entry = .ok stays) :
    keeps hidden children rest = .ok stays := by
  cases h with
  | scalar _ => exact hstays
  | list _ => exact hstays
  | @object before after hmembers =>
    have hname := selected_alike hmembers.alike children "name"
    have hscalar : IsScalar (selected before children "name") := by
      rw [keeps] at hstays
      cases hselected : selected before children "name" with
      | arr items => rw [hselected] at hstays; cases hstays
      | obj members => rw [hselected] at hstays; cases hstays
      | _ => trivial
    rw [keeps, hname.eq_of_isScalar hscalar]
    rwa [keeps] at hstays

theorem keeps_of_mem_keptEntries {hidden : List String} {children : List Field}
    {entries kept : List Json} (h : keptEntries hidden children entries = .ok kept) :
    ∀ entry ∈ kept, keeps hidden children entry = .ok true := by
  induction entries generalizing kept with
  | nil =>
    cases h
    intro entry hmem
    cases hmem
  | cons first rest ih =>
    rw [keptEntries, bind_eq_ok] at h
    obtain ⟨stays, hstays, h⟩ := h
    obtain ⟨more, hmore, h⟩ := bind_eq_ok.mp h
    rw [pure_eq_ok] at h
    subst h
    cases stays with
    | true =>
      intro entry hmem
      rcases List.mem_cons.mp hmem with rfl | hmem
      · exact hstays
      · exact ih hmore entry hmem
    | false => exact ih hmore

/-- A list whose entries all stay stays as it is. -/
theorem keptEntries_eq_self {hidden : List String} {children : List Field} {entries : List Json}
    (h : ∀ entry ∈ entries, keeps hidden children entry = .ok true) :
    keptEntries hidden children entries = .ok entries := by
  induction entries with
  | nil => rfl
  | cons entry rest ih =>
    rw [keptEntries_cons (h entry List.mem_cons_self)
      (ih fun other ho => h other (List.mem_cons_of_mem _ ho)), if_pos rfl]

/-- What a trimmed object holds under a key is what the object held, trimmed. -/
theorem TrimmedMembers.get?_cases {before after : Table Json} (h : TrimmedMembers before after)
    (key : String) :
    (before.get? key = none ∧ after.get? key = none) ∨
      ∃ v w, before.get? key = some v ∧ after.get? key = some w ∧ Trimmed v w :=
  (trimmedMembers_iff.mp h).get?_cases key

/-- A filtered member list is at rest. -/
theorem filterMembers_rests {hidden : List String} {child : Field}
    {object filtered rest : Table Json}
    (h : filterMembers fragments hidden object child = .ok filtered)
    (hrest : TrimmedMembers filtered rest) :
    filterMembers fragments hidden rest child = .ok rest := by
  by_cases hlist : child.name ∈ memberLists
  · -- the member is a list before and after, or neither before nor after
    rcases hrest.get?_cases child.responseKey with ⟨-, hw⟩ | ⟨v, w, hv, hw, hvw⟩
    · exact filterMembers_of_ne_arr (by simp [hw])
    · cases hvw with
      | scalar hscalar =>
        refine filterMembers_of_ne_arr fun entries hentries => ?_
        rw [hw, Option.some.injEq] at hentries
        exact (hentries ▸ hscalar : IsScalar (.arr entries)).elim
      | object _ => exact filterMembers_of_ne_arr (by simp [hw])
      | @list kept left hkept =>
        have hall : ∀ entry ∈ kept,
            keeps hidden (collect fragments child.selections) entry = .ok true := by
          rw [filterMembers, if_pos hlist] at h
          split at h
          · obtain ⟨all, hall, h⟩ := bind_eq_ok.mp h
            rw [pure_eq_ok] at h
            subst h
            rw [Table.get?_insert, if_pos rfl, Option.some.injEq, Json.arr.injEq] at hv
            exact hv ▸ keeps_of_mem_keptEntries hall
          · next hne =>
            rw [pure_eq_ok] at h
            exact absurd (h ▸ hv) (hne kept)
        rw [filterMembers_of_arr hlist hw (keptEntries_eq_self fun entry hentry => ?_),
          insert_of_get? hw]
        obtain ⟨whole, hwhole, hentry⟩ := hkept.exists_mem hentry
        exact keeps_of_trimmed hentry (hall whole hwhole)
  · exact filterMembers_of_not_mem hlist

/-- An opened object is at rest. -/
theorem opened_rests {literal : Option String} {kind : Kind} {field : Field}
    {object result rest : Table Json}
    (h : opened registry fragments literal kind field object = .ok result)
    (hrest : TrimmedMembers result rest) :
    opened registry fragments literal kind field rest = .ok rest := by
  by_cases hkind : kind = .type
  · subst hkind
    have halike : AlikeMembers object rest := ((opened_trimmed h).trans hrest).alike
    rw [opened, if_pos rfl, descriptor, bind_eq_ok] at h
    obtain ⟨hidden, hhidden, h⟩ := h
    have hscalar := isScalar_of_hiddenNames hhidden
    have hhidden' : hiddenNames registry
        (Redaction.owner rest (collect fragments field.selections) literal) = .ok hidden := by
      rw [owner_eq_of_alike halike hscalar, hhidden]
    rw [opened_eq hhidden']
    by_cases hempty : hidden.isEmpty = true
    · rw [if_pos hempty]
    · rw [if_neg hempty] at h ⊢
      exact foldlM_rests (R := TrimmedMembers) TrimmedMembers.refl
        (fun _ _ _ => TrimmedMembers.trans) (TrimmedMembers.refl object)
        (fun _ _ _ _ _ => filterMembers_trimmed) (fun _ _ _ _ _ => filterMembers_rests) h hrest
  · rw [opened, if_neg hkind]

/-! ### Walking again -/

/-- A visited child is at rest if its walk is. -/
theorem visit_rests {go : Kind → Field → Json → Except Failure Json} {kind : Kind}
    {child : Field} {object result last : Table Json}
    (hgo : ∀ next v w r, go next child v = .ok w → Trimmed w r → go next child r = .ok r)
    (h : visit go kind object child = .ok result) (hlast : TrimmedMembers result last) :
    visit go kind last child = .ok last := by
  have hkind : kind ≠ .leaf := ne_leaf_of_visit h
  rw [visit_eq_stepInto go hkind] at h ⊢
  exact stepInto_rests (fun next v w r _ => hgo next v w r) h (trimmedMembers_iff.mp hlast)

/-- Visited children are at rest if their walks are. -/
theorem visited_rests {n : Nat} {kind : Kind} {field : Field} {object result last : Table Json}
    (hwalk : ∀ next child v w r, walk registry fragments n none next child v = .ok w →
      Trimmed w r → walk registry fragments n none next child r = .ok r)
    (h : visited registry fragments n kind field object = .ok result)
    (hlast : TrimmedMembers result last) :
    visited registry fragments n kind field last = .ok last :=
  foldlM_rests (R := TrimmedMembers) TrimmedMembers.refl (fun _ _ _ => TrimmedMembers.trans)
    (TrimmedMembers.refl object) (fun _ _ _ _ _ => visit_trimmed)
    (fun child _ _ _ _ => visit_rests fun next => hwalk next child) h hlast

/-- **A walk is at rest in its own result** and in whatever is left of that by trimming. -/
theorem walk_rests : ∀ (n : Nat) {literal : Option String} {kind : Kind} {field : Field}
    {v w r : Json}, walk registry fragments n literal kind field v = .ok w → Trimmed w r →
    walk registry fragments n literal kind field r = .ok r := by
  intro n
  induction n with
  | zero => intro literal kind field v w r _ _; rfl
  | succ n ih =>
    intro literal kind field v w r h hr
    cases v with
    | arr items =>
      rw [walk_arr] at h
      obtain ⟨results, hresults, h⟩ := bind_eq_ok.mp h
      cases h
      cases hr with
      | scalar hscalar => exact hscalar.elim
      | @list _ kept hkept =>
        have hself : kept.mapM (walk registry fragments n literal kind field) = .ok kept := by
          rw [mapM_eq_ok_iff, List.forall₂_same]
          intro item hitem
          obtain ⟨walked, hmem, htrimmed⟩ := hkept.exists_mem hitem
          obtain ⟨first, -, hfirst⟩ := exists_of_mem_mapM hresults hmem
          exact ih hfirst htrimmed
        rw [walk_arr, hself]
        rfl
    | obj object =>
      rw [walk_obj] at h
      obtain ⟨first, hfirst, h⟩ := bind_eq_ok.mp h
      obtain ⟨second, hsecond, h⟩ := bind_eq_ok.mp h
      cases h
      cases hr with
      | scalar hscalar => exact hscalar.elim
      | @object _ last hlast =>
        -- what the visits made of the opened object is trimmed, and so is what is left of it
        have hopened : opened registry fragments literal kind field last = .ok last :=
          opened_rests hfirst ((visited_trimmed hsecond).trans hlast)
        have hvisited : visited registry fragments n kind field last = .ok last :=
          visited_rests (fun _ _ _ _ _ => ih) hsecond hlast
        rw [walk_obj, hopened, ok_bind, hvisited]
        rfl
    | _ =>
      cases h
      cases hr
      rfl

/-! ### What is at rest -/

/-- A step into a child changes nothing exactly if walking the child's member does not. -/
theorem stepInto_still_iff {lead : Field → Option Kind}
    {go : Field → Kind → Json → Except Failure Json} {object : Table Json} {child : Field} :
    stepInto lead go object child = .ok object ↔
      ∀ next v, lead child = some next → object.get? child.responseKey = some v →
        go child next v = .ok v := by
  constructor
  · intro h next v hl hv
    rcases stepInto_cases h with ⟨-, hno | hno⟩ | ⟨next', v', w, hl', hv', hw, hobject⟩
    · rw [hl] at hno
      cases hno
    · rw [hv] at hno
      cases hno
    · rw [hl, Option.some.injEq] at hl'
      rw [hv, Option.some.injEq] at hv'
      subst hl' hv'
      have hget := get?_of_insert_eq hobject.symm
      rw [hv, Option.some.injEq] at hget
      rwa [← hget] at hw
  · intro h
    cases hl : lead child with
    | none => exact stepInto_of_lead_none hl
    | some next =>
      cases hv : object.get? child.responseKey with
      | none => exact stepInto_of_absent hl hv
      | some v => rw [stepInto_of_present hl hv (h next v hl hv), insert_of_get? hv]

theorem visit_still_iff {go : Kind → Field → Json → Except Failure Json} {kind : Kind}
    {object : Table Json} {child : Field} :
    visit go kind object child = .ok object ↔ kind ≠ .leaf ∧
      ∀ next v, kind.next? child.name = some next → object.get? child.responseKey = some v →
        go next child v = .ok v := by
  by_cases hkind : kind = .leaf
  · exact iff_of_false (fun h => ne_leaf_of_visit h hkind) fun h => h.1 hkind
  · rw [visit_eq_stepInto go hkind, stepInto_still_iff, and_iff_right hkind]

/-- The children of an object are visited without a change exactly if each of them is. -/
theorem visited_still_iff {n : Nat} {kind : Kind} {field : Field} {object : Table Json} :
    visited registry fragments n kind field object = .ok object ↔
      ∀ child ∈ collect fragments field.selections,
        visit (walk registry fragments n none) kind object child = .ok object :=
  ⟨still_of_foldlM TrimmedMembers.refl (fun _ _ _ => TrimmedMembers.trans)
    (fun _ _ => TrimmedMembers.antisymm) fun _ _ _ _ _ => visit_trimmed, foldlM_still⟩

/-- A member list is filtered without a change exactly if its entries all stay. -/
theorem filterMembers_still_iff {hidden : List String} {object : Table Json} {child : Field} :
    filterMembers fragments hidden object child = .ok object ↔
      (child.name ∈ memberLists → ∀ entries, object.get? child.responseKey = some (.arr entries) →
        ∀ entry ∈ entries, keeps hidden (collect fragments child.selections) entry = .ok true) := by
  constructor
  · intro h hlist entries hentries
    rw [filterMembers, if_pos hlist, hentries] at h
    obtain ⟨kept, hkept, h⟩ := bind_eq_ok.mp h
    rw [pure_eq_ok] at h
    have hget := get?_of_insert_eq h
    rw [hentries, Option.some.injEq, Json.arr.injEq] at hget
    subst hget
    exact keeps_of_mem_keptEntries hkept
  · intro h
    by_cases hlist : child.name ∈ memberLists
    · by_cases hentries : ∃ entries, object.get? child.responseKey = some (.arr entries)
      · obtain ⟨entries, hentries⟩ := hentries
        rw [filterMembers_of_arr hlist hentries (keptEntries_eq_self (h hlist entries hentries)),
          insert_of_get? hentries]
      · exact filterMembers_of_ne_arr fun entries hno => hentries ⟨entries, hno⟩
    · exact filterMembers_of_not_mem hlist

/-- The descriptor of a type is opened without a change exactly if its owner is no list and no
object and, where names are hidden, the entries of its member lists all stay. -/
theorem opened_still_iff {literal : Option String} {field : Field} {object : Table Json} :
    opened registry fragments literal .type field object = .ok object ↔
      ∃ hidden, hiddenNames registry
          (Redaction.owner object (collect fragments field.selections) literal) = .ok hidden ∧
        ∀ child ∈ collect fragments field.selections, child.name ∈ memberLists →
          ∀ entries, object.get? child.responseKey = some (.arr entries) → ∀ entry ∈ entries,
            hidden ≠ [] → keeps hidden (collect fragments child.selections) entry = .ok true := by
  constructor
  · intro h
    obtain ⟨hidden, hhidden, -⟩ : ∃ hidden, hiddenNames registry
        (Redaction.owner object (collect fragments field.selections) literal) = .ok hidden ∧ _ := by
      rwa [opened, if_pos rfl, descriptor, bind_eq_ok] at h
    refine ⟨hidden, hhidden, fun child hc hlist entries hentries entry he hne => ?_⟩
    rw [opened_eq hhidden, if_neg (by simpa using hne)] at h
    have hfiltered : filterMembers fragments hidden object child = .ok object :=
      still_of_foldlM TrimmedMembers.refl (fun _ _ _ => TrimmedMembers.trans)
        (fun _ _ => TrimmedMembers.antisymm) (fun _ _ _ _ _ => filterMembers_trimmed) h child hc
    exact filterMembers_still_iff.mp hfiltered hlist entries hentries entry he
  · rintro ⟨hidden, hhidden, h⟩
    rw [opened_eq hhidden]
    by_cases hempty : hidden = []
    · rw [if_pos (by simpa using hempty)]
    · rw [if_neg (by simpa using hempty)]
      exact foldlM_still fun child hc => filterMembers_still_iff.mpr
        fun hlist entries hentries entry he => h child hc hlist entries hentries entry he hempty

theorem walk_arr_still_iff {n : Nat} {literal : Option String} {kind : Kind} {field : Field}
    {items : List Json} :
    walk registry fragments (n + 1) literal kind field (.arr items) = .ok (.arr items) ↔
      ∀ item ∈ items, walk registry fragments n literal kind field item = .ok item := by
  rw [walk_arr, bind_eq_ok]
  simp only [pure_eq_ok, Json.arr.injEq, exists_eq_right, mapM_eq_ok_iff, List.forall₂_same]

/-- An object is walked without a change exactly if it is opened and visited so. -/
theorem walk_obj_still_iff {n : Nat} {literal : Option String} {kind : Kind} {field : Field}
    {object : Table Json} :
    walk registry fragments (n + 1) literal kind field (.obj object) = .ok (.obj object) ↔
      opened registry fragments literal kind field object = .ok object ∧
        visited registry fragments n kind field object = .ok object := by
  rw [walk_obj, bind_eq_ok]
  constructor
  · rintro ⟨first, hfirst, h⟩
    obtain ⟨second, hsecond, h⟩ := bind_eq_ok.mp h
    obtain rfl : second = object := by simpa using h
    -- opening and visiting both trim, so the second cannot undo the first
    obtain rfl : second = first := (opened_trimmed hfirst).antisymm (visited_trimmed hsecond)
    exact ⟨hfirst, hsecond⟩
  · rintro ⟨hopened, hvisited⟩
    exact ⟨object, hopened, by rw [hvisited]; rfl⟩

/-! ### Whole results -/

/-- What becomes of an object by walking root fields is trimmed. -/
theorem rootStep_trimmed {n : Nat} {field : Field} {object result : Table Json}
    (h : stepInto rootKind? (fun c next => walk registry fragments n (literalTypeName? c) next c)
      object field = .ok result) : TrimmedMembers object result :=
  stepInto_trimmed (fun _ _ _ => walk_trimmed) h

/-- **Redaction is at rest in its own result** and in whatever is left of that by trimming. -/
theorem redact_rests_of_trimmed {document : Document} {operationName : Option String}
    {data result rest : Json}
    (h : redact registry document operationName data = .ok result) (hrest : Trimmed result rest) :
    redact registry document operationName rest = .ok rest := by
  by_cases hdata : ∃ members, data = .obj members
  · obtain ⟨before, rfl⟩ := hdata
    -- a bound that is enough for the data and for what is left of them
    obtain ⟨after, rfl, hafter⟩ := (redact_obj (Nat.le_max_left _ rest.depth)).mp h
    cases hrest with
    | scalar hscalar => exact hscalar.elim
    | @object _ last hlast =>
      refine (redact_obj (Nat.le_max_right (Json.obj before).depth _)).mpr ⟨last, rfl, ?_⟩
      exact foldlM_rests (R := TrimmedMembers) TrimmedMembers.refl
        (fun _ _ _ => TrimmedMembers.trans) (TrimmedMembers.refl before)
        (fun _ _ _ _ _ => rootStep_trimmed)
        (fun _ _ _ _ _ hstep hlast => stepInto_rests (fun _ _ _ _ _ => walk_rests _) hstep
          (trimmedMembers_iff.mp hlast)) hafter hlast
  · have hne : ∀ members, data ≠ .obj members := fun members hmembers => hdata ⟨members, hmembers⟩
    obtain rfl : result = data := redact_of_not_obj hne h
    cases hrest with
    | scalar _ => exact h
    | object _ => exact absurd rfl (hne _)
    | @list items kept hkept =>
      rw [redact_of_not_obj_eq hne] at h
      rw [redact_of_not_obj_eq (by rintro _ ⟨⟩), if_neg]
      rintro ⟨htruthy, hroot⟩
      have hitems : (Json.arr items).truthy = true := by
        rw [← Bool.not_eq_false]
        intro hfalse
        rw [(Trimmed.alike (.list hkept)).eq_of_not_truthy hfalse, hfalse] at htruthy
        cases htruthy
      rw [if_pos ⟨hitems, hroot⟩] at h
      cases h

theorem redact_rests {document : Document} {operationName : Option String} {data result : Json}
    (h : redact registry document operationName data = .ok result) :
    redact registry document operationName result = .ok result :=
  redact_rests_of_trimmed h (Trimmed.refl result)

/-- **Redacting twice is redacting once**, on all data and for all documents: what a redaction gives
can be redacted again and does not change. -/
theorem redact_redact (registry : Registry) (operationName : Option String) (data result : Json) :
    (∀ document, redact registry document operationName data = .ok result →
      redact registry document operationName result = .ok result) ∧
    ∀ query, redactText registry query operationName data = .ok result →
      redactText registry query operationName result = .ok result := by
  refine ⟨fun document => redact_rests, fun query h => ?_⟩
  rw [redactText] at h ⊢
  cases hdocument : document? query with
  | none => rfl
  | some document =>
    rw [hdocument] at h
    exact redact_rests h

/-- One key is both a list of fields and the name of the type. Only after the list has lost its last
entry does it no longer stand in the way of the name. -/
theorem redact_redact_of_list_as_name :
    ∃ (registry : Registry) (document : Document) (query : String) (data result : Json),
      document? query = some document ∧ data ≠ result ∧
        redact registry document none data = .ok result ∧
        redact registry document none result = .ok result ∧
        redactText registry query none data = .ok result ∧
        redactText registry query none result = .ok result := by
  let registry := Registry.ofRecords [⟨"A", "secret"⟩]
  let select (inside : String) : String := "\x7b " ++ inside ++ " \x7d "
  let query := select ("x: __type(name: \"A\")" ++ select ("name: fields" ++ select "name") ++
    "x: __type(name: \"A\")" ++ select ("name inputFields" ++ select "name"))
  let entry (name : String) : Json := .obj [("name", .str name)]
  let result (fields inputs : List String) : Json :=
    .obj [("x", .obj [("name", .arr (fields.map entry)), ("inputFields", .arr (inputs.map entry))])]
  have htext : redactText registry query none (result ["secret"] ["open", "secret"]) =
      .ok (result [] ["open"]) := toOption_eq_some.mp (by decide +kernel)
  obtain ⟨document, hdocument⟩ : ∃ document, document? query = some document :=
    Option.isSome_iff_exists.mp (by decide +kernel)
  have h : redact registry document none (result ["secret"] ["open", "secret"]) =
      .ok (result [] ["open"]) := by
    rw [redactText, hdocument] at htext
    exact htext
  exact ⟨registry, document, query, _, _, hdocument, by decide, h,
    (redact_redact registry none _ _).1 document h, htext,
    (redact_redact registry none _ _).2 query htext⟩

end SchemaVisibility.Introspection
