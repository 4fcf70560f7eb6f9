import SchemaVisibility.Proofs.Introspection.Filtering

/-! # The walk and agreement

Walking one of the fields that two results agree for makes them agree for the fields that remain
(`Agree.walk`). An object that describes a type is opened first: whatever is known of the type, the
names hidden in it cover its private members (`hiddenNames_covers`).
-/

namespace SchemaVisibility.Introspection

open GraphQL Redaction Fallible Table

variable {registry : Registry} {fragments : Fragments}

theorem mem_childrenOf {fields : List Field} {field child : Field} (hf : field ∈ fields)
    (hc : child ∈ collect fragments field.selections) : child ∈ childrenOf fragments fields :=
  List.mem_flatMap.mpr ⟨field, hf, hc⟩

/-- The names that a descriptor hides cover the private members of the type that it stands for,
whether that type is known from its name, from the literal or not at all. -/
theorem hiddenNames_covers (registry : Registry) {name : Json} {owner literal : Option String}
    (hname : name = .null ∨ ∃ text, name = .str text ∧ owner = some text)
    (hliteral : ∀ text, literal = some text → owner = some text)
    (howner : owner ≠ some Record.topLevel) :
    ∃ hidden, hiddenNames registry
        (if name.truthy then name else (literal.map Json.str).getD .null) = .ok hidden ∧
      ∀ type member, owner = some type → registry.isPrivate type member = true →
        member ∈ hidden := by
  have hknown : ∀ text, owner = some text → ∀ type member, owner = some type →
      registry.isPrivate type member = true → member ∈ registry.privateNames text := by
    intro text htext type member htype hprivate
    rw [htext, Option.some.injEq] at htype
    subst htype
    exact List.contains_iff_mem.mp hprivate
  have hunnamed : ∃ hidden, hiddenNames registry ((literal.map Json.str).getD .null) = .ok hidden ∧
      ∀ type member, owner = some type → registry.isPrivate type member = true →
        member ∈ hidden := by
    cases literal with
    | some text => exact ⟨_, rfl, hknown text (hliteral text rfl)⟩
    | none =>
      refine ⟨_, rfl, fun type member htype hprivate => ?_⟩
      refine (registry.mem_memberNames member).mpr ⟨type, ?_, ?_⟩
      · rintro rfl
        exact howner htype
      · exact (registry.isPrivate_iff type member).mp hprivate
  rcases hname with rfl | ⟨text, rfl, htext⟩
  · exact hunnamed
  · by_cases hempty : (Json.str text).truthy = true
    · rw [if_pos hempty]
      exact ⟨_, rfl, hknown text htext⟩
    · rw [if_neg hempty]
      exact hunnamed

/-- Walking the root fields of an object is going into each of them in turn. -/
theorem foldlM_root_obj {n : Nat} (fields : List Field) (object : Table Json) :
    fields.foldlM (root registry fragments n) (.obj object) =
      (do return .obj (← fields.foldlM (stepInto rootKind?
        fun c next => walk registry fragments n (literalTypeName? c) next c) object)) := by
  induction fields generalizing object with
  | nil => rfl
  | cons field rest ih =>
    have hstep : root registry fragments n (.obj object) field =
        (do return .obj (← stepInto rootKind?
          (fun c next => walk registry fragments n (literalTypeName? c) next c) object field)) := by
      rw [root, stepInto]
      cases hkind : rootKind? field with
      | none => rfl
      | some kind =>
        cases hget : Table.get? object field.responseKey with
        | none => simp [hget]
        | some value =>
          simp only [hget]
          cases walk registry fragments n (literalTypeName? field) kind field value <;> rfl
    rw [List.foldlM_cons, List.foldlM_cons, hstep]
    cases stepInto rootKind?
        (fun c next => walk registry fragments n (literalTypeName? c) next c) object field with
    | error failure => rfl
    | ok result => exact ih result

section Walk

variable {n : Nat} {literals : List String} {field : Field} {fields : List Field} {kind : Kind}
  {owner : Option String} {a b : Table Json}

theorem childrenOf_cons : childrenOf fragments (field :: fields) =
    collect fragments field.selections ++ childrenOf fragments fields :=
  List.flatMap_cons

/-- Opening a type's descriptor filters the lists of all children, unless nothing is hidden. -/
theorem opened_eq {literal : Option String} {hidden : List String} {object : Table Json}
    (hhidden : hiddenNames registry
      (Redaction.owner object (collect fragments field.selections) literal) = .ok hidden) :
    opened registry fragments literal .type field object =
      if hidden.isEmpty then .ok object
      else (collect fragments field.selections).foldlM (filterMembers fragments hidden) object := by
  rw [opened, if_pos rfl, descriptor, hhidden, ok_bind]
  rfl

/-- Where nothing is to be hidden, nothing is missing from the start. -/
theorem Criterion.Holds.of_public {key : String} {children : List Field} {T : Field → Prop}
    {v w : Json}
    (h : (memberCriterion registry fragments owner .type (fun _ => True)
      (Agree registry fragments n [])).Holds children key v w)
    (hpublic : ∀ type name, owner = some type → registry.isPrivate type name = false) :
    (memberCriterion registry fragments owner .type T
      (Agree registry fragments n [])).Holds children key v w := by
  refine ⟨h.same, ?_, ?_, h.named⟩
  · intro c hc next hnext _
    by_cases hlist : c.name ∈ memberLists
    · exact (h.thinned c hc next hnext ⟨rfl, hlist, trivial⟩).agree_of_public hpublic
    · exact h.agrees c hc next hnext fun ht => hlist ht.2.1
  · intro c hc next hnext hthin
    exact h.thinned c hc next hnext ⟨rfl, hthin.2.1, trivial⟩

/-- The children of one field find nothing private missing once their object is opened. -/
theorem opened_agree {literal : Option String}
    (hp : Placed fragments literals (field :: fields) kind owner a)
    (hliteral : ∀ text, literal = some text → text ∈ literals)
    (h : Aligned ((memberCriterion registry fragments owner kind (fun _ => True)
      (Agree registry fragments n [])).Holds (childrenOf fragments (field :: fields))) a b) :
    ∃ a' b', opened registry fragments literal kind field a = .ok a' ∧
      opened registry fragments literal kind field b = .ok b' ∧ a'.keys = a.keys ∧
      Aligned ((memberCriterion registry fragments owner kind
        (fun c => c.responseKey ∉ (collect fragments field.selections).map Field.responseKey)
        (Agree registry fragments n [])).Holds (childrenOf fragments (field :: fields))) a' b' := by
  by_cases hkind : kind = .type
  · subst hkind
    have hown : ∀ c ∈ collect fragments field.selections,
        c ∈ childrenOf fragments (field :: fields) :=
      fun c hc => mem_childrenOf List.mem_cons_self hc
    -- both objects give the same name, so they hide the same members
    have hselected : selected a (collect fragments field.selections) "name" =
        selected b (collect fragments field.selections) "name" :=
      selected_congr fun c hc hname => get?_name_eq hp h (hown c hc) hname
    have hname : selected a (collect fragments field.selections) "name" = .null ∨
        ∃ text, selected a (collect fragments field.selections) "name" = .str text ∧
          owner = some text :=
      selected_of (P := fun v => v = .null ∨ ∃ text, v = .str text ∧ owner = some text)
        (Or.inl rfl) fun c hc hname v hv => by
          rcases name_of_get? h (hown c hc) hname hv with hnull | ⟨text, ht, ho⟩
          · exact Or.inl hnull
          · exact Or.inr ⟨text, ht, ho rfl⟩
    obtain ⟨hidden, hhidden, hcovers⟩ := hiddenNames_covers registry hname
      (fun text ht => hp.literal rfl text (hliteral text ht)) (hp.owner_ne rfl)
    have hhidden' : hiddenNames registry
        (Redaction.owner b (collect fragments field.selections) literal) = .ok hidden := by
      rw [Redaction.owner, ← hselected]
      exact hhidden
    rw [opened_eq hhidden, opened_eq hhidden']
    by_cases hempty : hidden.isEmpty = true
    · rw [if_pos hempty, if_pos hempty]
      have hpublic : ∀ type name, owner = some type → registry.isPrivate type name = false := by
        intro type name htype
        by_contra hprivate
        have hmem := hcovers type name htype (by simpa using hprivate)
        rw [List.isEmpty_iff.mp hempty] at hmem
        cases hmem
      exact ⟨a, b, rfl, rfl, rfl, h.imp fun key v w _ hold => hold.of_public hpublic⟩
    · rw [if_neg hempty, if_neg hempty]
      exact filterAll_agree hp.coherent hp.nodup hown
        (fun c hc d hd => mem_childrenOf (mem_under.mpr ⟨hown c hc, rfl⟩) hd) hcovers h
  · refine ⟨a, b, by rw [opened, if_neg hkind], by rw [opened, if_neg hkind], rfl,
      h.imp fun key v w _ hold => hold.thin_congr fun c _ hk => absurd hk hkind⟩

/-- Where fields lead on, visiting a child is going into it. -/
theorem visit_eq_stepInto (go : Kind → Field → Json → Except Failure Json) (hkind : kind ≠ .leaf)
    (object : Table Json) (child : Field) :
    visit go kind object child =
      stepInto (fun c => kind.next? c.name) (fun c next => go next c) object child := by
  cases kind with
  | leaf => exact absurd rfl hkind
  | _ => rfl

/-- Walking an object's children is going into each of them in turn. -/
theorem visited_eq (hkind : kind ≠ .leaf) (object : Table Json) :
    visited registry fragments n kind field object =
      (collect fragments field.selections).foldlM
        (stepInto (fun c => kind.next? c.name) fun c next => walk registry fragments n none next c)
        object :=
  foldlM_congr (P := fun _ => True)
    (fun c _ object _ => visit_eq_stepInto (walk registry fragments n none) hkind object c)
    (fun _ _ _ _ _ _ => trivial) trivial

theorem walk_scalar {literal : Option String} {v : Json} (h : IsScalar v) :
    walk registry fragments n literal kind field v = .ok v := by
  cases n with
  | zero => rfl
  | succ n =>
    cases v with
    | arr items => exact h.elim
    | obj members => exact h.elim
    | _ => rfl

/-- Two objects that agree for a field and others, walked along the field: each is opened, and then
the field's children are walked in turn. -/
theorem walk_obj_agree {literal : Option String}
    (hp : Placed fragments literals (field :: fields) kind owner a)
    (hliteral : ∀ text, literal = some text → text ∈ literals)
    (hwalk : ∀ (c : Field) (more : List Field) (next : Kind) (v w : Json),
      Agree registry fragments n [] (c :: more) next v w →
      ∃ v' w', walk registry fragments n none next c v = .ok v' ∧
        walk registry fragments n none next c w = .ok w' ∧
        Agree registry fragments n [] more next v' w')
    (h : Aligned ((memberCriterion registry fragments owner kind (fun _ => True)
      (Agree registry fragments n [])).Holds (childrenOf fragments (field :: fields))) a b) :
    ∃ a' b' : Table Json,
      walk registry fragments (n + 1) literal kind field (.obj a) = .ok (.obj a') ∧
      walk registry fragments (n + 1) literal kind field (.obj b) = .ok (.obj b') ∧
      a'.keys = a.keys ∧
      Aligned ((memberCriterion registry fragments owner kind
        (fun c => c.responseKey ∉ (collect fragments field.selections).map Field.responseKey)
        (Agree registry fragments n [])).Holds (childrenOf fragments fields)) a' b' := by
  obtain ⟨a₁, b₁, ha₁, hb₁, hkeys₁, hopened⟩ := opened_agree hp hliteral h
  have hcoherent := hp.coherent
  rw [childrenOf_cons] at hcoherent hopened
  obtain ⟨a₂, b₂, ha₂, hb₂, hkeys₂, hvisited⟩ := Criterion.steps
    (C := memberCriterion registry fragments owner kind
      (fun c => c.responseKey ∉ (collect fragments field.selections).map Field.responseKey)
      (Agree registry fragments n []))
    (g := fun c next => walk registry fragments n none next c) hcoherent
    (fun c d hcd => congrArg kind.next? hcd)
    (fun c hc other _ hkey hthin => hthin.2.2 (hkey ▸ List.mem_map_of_mem hc))
    (fun c _ more next v w _ hagree => hwalk c more next v w hagree)
    (fun c next v _ _ hname => walk_scalar (by
      rcases hname with rfl | ⟨text, rfl, -⟩ <;> exact trivial))
    (fun key next v w hagree => hagree.eq_of_nil) (hkeys₁ ▸ hp.nodup) hopened
  refine ⟨a₂, b₂, ?_, ?_, hkeys₂.trans hkeys₁, hvisited⟩
  · rw [walk_obj, ha₁, ok_bind, visited_eq hp.kind_ne]
    exact bind_eq_ok.mpr ⟨a₂, ha₂, rfl⟩
  · rw [walk_obj, hb₁, ok_bind, visited_eq hp.kind_ne]
    exact bind_eq_ok.mpr ⟨b₂, hb₂, rfl⟩

theorem walk_scalars {literal : Option String} {items : List Json}
    (h : ∀ item ∈ items, IsScalar item) :
    walk registry fragments (n + 1) literal kind field (.arr items) = .ok (.arr items) := by
  have hmap : items.mapM (walk registry fragments n literal kind field) = .ok items :=
    mapM_eq_ok_iff.mpr (List.forall₂_same.mpr fun item hi => walk_scalar (h item hi))
  rw [walk_arr, hmap]
  rfl

/-- Placed for a field and others is placed for the others, whatever the members have become. -/
theorem Placed.tail (h : Placed fragments literals (field :: fields) kind owner a)
    (hkeys : b.keys = a.keys) : Placed fragments literals fields kind owner b := by
  refine ⟨h.kind_ne, h.coherent.subset fun c hc => ?_, ?_, h.owner_ne, h.literal⟩
  · rw [childrenOf_cons]
    exact List.mem_append_right _ hc
  · rw [hkeys]
    exact h.nodup

/-- More may be missing than is said to be. -/
theorem Criterion.Holds.thin_all {thin : Field → Prop} {children : List Field} {key : String}
    {v w : Json}
    (h : (memberCriterion registry fragments owner kind thin
      (Agree registry fragments n [])).Holds children key v w) :
    (memberCriterion registry fragments owner kind (fun _ => True)
      (Agree registry fragments n [])).Holds children key v w := by
  refine ⟨h.same, ?_, ?_, h.named⟩
  · intro c hc next hnext hthin
    exact h.agrees c hc next hnext fun ht => hthin ⟨ht.1, ht.2.1, trivial⟩
  · intro c hc next hnext hthin
    by_cases hc' : thin c
    · exact h.thinned c hc next hnext ⟨hthin.1, hthin.2.1, hc'⟩
    · exact Or.inl (h.agrees c hc next hnext fun ht => hc' ht.2.2)

end Walk

/-- **Walking one field** of two results that agree for it and others makes them agree for the
others. -/
theorem Agree.walk : ∀ {n : Nat} {literals : List String} {literal : Option String}
    {field : Field} {fields : List Field} {kind : Kind} {v w : Json},
    (∀ text, literal = some text → text ∈ literals) →
    Agree registry fragments n literals (field :: fields) kind v w →
    ∃ v' w', Redaction.walk registry fragments n literal kind field v = .ok v' ∧
      Redaction.walk registry fragments n literal kind field w = .ok w' ∧
      Agree registry fragments n literals fields kind v' w' := by
  intro n
  induction n with
  | zero => intro literals literal field fields kind v w _ h; exact ⟨v, w, rfl, rfl, h⟩
  | succ n ih =>
    intro literals literal field fields kind v w hliteral h
    rcases h.cases with ⟨rfl, hs⟩ | ⟨m, as, bs, hm, rfl, rfl, hitems⟩ |
      ⟨m, a, b, owner, hm, rfl, rfl, hp, hmembers⟩
    · exact ⟨v, v, walk_scalar hs, walk_scalar hs, agree_scalar hs⟩
    · cases hm
      rcases hitems with ⟨rfl, hs⟩ | ⟨hkind, hitems⟩
      · exact ⟨_, _, walk_scalars hs, walk_scalars hs, Or.inl ⟨rfl, hs⟩⟩
      · obtain ⟨as', bs', ha, hb, hrest⟩ := mapM_related hitems fun _ _ => ih hliteral
        exact ⟨.arr as', .arr bs', by rw [walk_arr, ha]; rfl, by rw [walk_arr, hb]; rfl,
          Or.inr ⟨hkind, hrest⟩⟩
    · cases hm
      have hnone : ∀ text, (none : Option String) = some text → text ∈ ([] : List String) := by
        intro text htext
        cases htext
      obtain ⟨a', b', ha, hb, hkeys, hrest⟩ := walk_obj_agree hp hliteral
        (fun c more next v w hagree => ih hnone hagree) hmembers
      -- what the field itself does not list may still lack private members
      exact ⟨.obj a', .obj b', ha, hb, owner, hp.tail hkeys,
        hrest.imp fun key v w _ hold => hold.thin_all⟩

end SchemaVisibility.Introspection
