import SchemaVisibility.Proofs.Introspection.Walking

/-! # Redaction hides private members

What a redaction answers does not depend on the private members of types. A faithful response agrees
with itself without private members (`agree_of_fits`), so both are redacted to the same result
(`redact_withoutPrivate`); and two responses that differ in nothing but private members cannot be
told apart after redaction (`redact_eq_of_withoutPrivate_eq`).
-/

namespace SchemaVisibility.Introspection

open GraphQL Redaction Fallible Table

variable {registry : Registry} {fragments : Fragments}

/-! ### Faithful responses agree with what is public of them -/

namespace Response

theorem mem_of_get?_json {members : List (String × Response)} {key : String} {v : Json}
    (h : Table.get? (jsonMembers members) key = some v) :
    ∃ value, (key, value) ∈ members ∧ v = value.json := by
  have hmem := Table.mem_of_get? h
  rw [jsonMembers_eq_map] at hmem
  obtain ⟨⟨k, value⟩, he, heq⟩ := List.mem_map.mp hmem
  cases heq
  exact ⟨value, he, rfl⟩

theorem keys_jsonMembers (members : List (String × Response)) :
    Table.keys (jsonMembers members) = members.map Prod.fst := by
  rw [jsonMembers_eq_map, Table.keys, List.map_map]
  rfl

/-- The members of an object stand beside what is public of them. -/
theorem aligned_withoutPrivate {E : String → Json → Json → Prop} {owner : Option String}
    {members : List (String × Response)}
    (h : ∀ key value, (key, value) ∈ members →
      E key value.json (withoutPrivate registry owner value).json) :
    Aligned E (jsonMembers members)
      (jsonMembers (withoutPrivateMembers registry owner members)) := by
  rw [withoutPrivateMembers_eq_map, jsonMembers_eq_map, jsonMembers_eq_map, List.map_map, Aligned,
    List.forall₂_map_left_iff, List.forall₂_map_right_iff, List.forall₂_same]
  exact fun entry he => ⟨rfl, h entry.1 entry.2 he⟩

/-- Leaving out private entries of a list drops objects that stand for private members. -/
theorem drops_secret {owner : Option String} {children : List Field} {items : List Response}
    (hnamed : ∀ name members, Response.object (.member name) members ∈ items →
      Named (.member name) children members) :
    Drops (Secret registry children owner) (items.map json)
      ((items.filter fun item => !item.isPrivate registry owner).map json) := by
  induction items with
  | nil => exact .nil
  | cons item rest ih =>
    have ih := ih fun name members hm => hnamed name members (List.mem_cons_of_mem _ hm)
    by_cases hprivate : item.isPrivate registry owner = true
    · rw [List.filter_cons_of_neg (by simp [hprivate]), List.map_cons]
      refine .drop ?_ ih
      cases item with
      | object role members =>
        cases role with
        | member name =>
          cases owner with
          | none => cases hprivate
          | some type =>
            refine ⟨type, name, rfl, hprivate, fun child hc hname v hv => ?_⟩
            obtain ⟨value, hm, rfl⟩ := mem_of_get?_json hv
            rcases hnamed name members List.mem_cons_self child hc hname value hm with
              rfl | ⟨text, rfl, rfl⟩
            · exact Or.inl rfl
            · exact Or.inr rfl
        | _ => cases hprivate
      | _ => cases hprivate
    · rw [List.filter_cons_of_pos (by simpa using hprivate), List.map_cons, List.map_cons]
      exact .keep ih

end Response

open Response

/-- No entry of a list of types is a member of a type. -/
theorem isPrivate_eq_false {literals : List String} {fields : List Field} {kind : Kind}
    {owner : Option String} {item : Response} (howner : owner = none ∨ kind = .type)
    (h : Fits fragments literals fields kind item) : item.isPrivate registry owner = false := by
  cases item with
  | object role members =>
    cases role with
    | member name =>
      rcases howner with rfl | rfl
      · rfl
      · exact absurd rfl h.2.1
    | _ => rfl
  | _ => rfl

theorem isScalar_of_isLeaf {v : Json} (h : IsLeaf v) :
    IsScalar v ∨ ∃ items, v = .arr items ∧ ∀ item ∈ items, IsScalar item := by
  cases v with
  | arr items => exact Or.inr ⟨items, rfl, h⟩
  | obj members => exact h.elim
  | _ => exact Or.inl trivial

theorem agree_of_isLeaf {n : Nat} {literals : List String} {fields : List Field} {kind : Kind}
    {v : Json} (hd : v.depth ≤ n) (h : IsLeaf v) :
    Agree registry fragments n literals fields kind v v := by
  rcases isScalar_of_isLeaf h with hs | ⟨items, rfl, hs⟩
  · exact agree_scalar hs
  · cases n with
    | zero => simp [Json.depth] at hd
    | succ n => exact Or.inl ⟨rfl, hs⟩

/-- Apart from the lists of its members, what a type leads to is a type or leads no further. -/
theorem next?_of_not_memberList {name : String} {next : Kind}
    (h : Kind.type.next? name = some next) (hname : name ∉ memberLists) :
    next = .type ∨ next = .leaf := by
  obtain ⟨table, htable⟩ : ∃ table, Kind.type.fields? = some table := ⟨_, rfl⟩
  have hall : ∀ entry ∈ table, entry.1 ∉ memberLists → entry.2 = .type ∨ entry.2 = .leaf := by
    cases htable
    decide
  rw [Kind.next?, htable] at h
  exact hall (name, next) (Table.mem_of_get? h) hname

/-- A list of members without the private ones is the same for every type around it. -/
theorem withoutPrivate_memberList {owner : Option String} {items : List Response}
    (h : ∀ item ∈ items, item.IsMember) :
    withoutPrivate registry owner (.list items) = withoutPrivate registry none
      (.list (items.filter fun item => !item.isPrivate registry owner)) := by
  have hnone : ∀ item : Response, item.isPrivate registry none = false := by
    intro item
    cases item with
    | object role members => cases role <;> rfl
    | _ => rfl
  rw [withoutPrivate, withoutPrivate, withoutPrivateItems_eq, withoutPrivateItems_eq,
    List.filter_filter]
  simp only [hnone, Bool.not_false, Bool.true_and]
  refine congrArg Response.list (List.map_congr_left fun item hi => ?_)
  have := h item (List.mem_filter.mp hi).1
  cases item with
  | list items => exact this.elim
  | _ => rfl

theorem depth_item_le {n : Nat} {items : List Response}
    (h : (Response.list items).json.depth ≤ n + 1) : ∀ item ∈ items, item.json.depth ≤ n := by
  rw [json, Json.depth, Nat.succ_le_succ_iff, Json.depthItems_le_iff, jsonItems_eq_map] at h
  exact fun item hi => h _ (List.mem_map_of_mem hi)

theorem depth_member_le {n : Nat} {role : Role} {members : List (String × Response)}
    (h : (Response.object role members).json.depth ≤ n + 1) :
    ∀ entry ∈ members, entry.2.json.depth ≤ n := by
  rw [json, Json.depth, Nat.succ_le_succ_iff, Json.depthMembers_le_iff, jsonMembers_eq_map] at h
  exact fun entry he => h _ (List.mem_map_of_mem he)

theorem depth_filter_le {n : Nat} {items : List Response} (p : Response → Bool)
    (h : (Response.list items).json.depth ≤ n) :
    (Response.list (items.filter p)).json.depth ≤ n := by
  cases n with
  | zero => simp [json, Json.depth] at h
  | succ n =>
    have hitems := depth_item_le h
    rw [json, Json.depth, Nat.succ_le_succ_iff, Json.depthItems_le_iff, jsonItems_eq_map]
    intro v hv
    obtain ⟨item, hi, rfl⟩ := List.mem_map.mp hv
    exact hitems item (List.mem_filter.mp hi).1

/-! ### What an object stands for -/

namespace Role

variable {role : Role} {kind : Kind} {literals : List String}

theorem Suits.owner_ne_topLevel (h : role.Suits .type literals) :
    role.owner ≠ some Record.topLevel := by
  cases role with
  | type name => exact h.2.1
  | _ => exact absurd rfl h

theorem Suits.owner_eq_literal (h : role.Suits .type literals) :
    ∀ literal ∈ literals, role.owner = some literal := by
  cases role with
  | type name => exact h.2.2
  | _ => exact absurd rfl h

/-- The name that a type gives is its own. -/
theorem Suits.owner_of_admits {text : String} (h : role.Suits .type literals)
    (ha : role.Admits text) : role.owner = some text := by
  cases role with
  | type name => exact ha
  | _ => exact absurd rfl h

theorem Suits.owner_eq_none (h : role.Suits kind literals) (hkind : kind ≠ .type) :
    role.owner = none := by
  cases role with
  | type name => exact absurd h.1 hkind
  | _ => rfl

end Role

section Fits

variable {literals : List String} {fields : List Field} {kind : Kind} {owner : Option String}
  {n : Nat}

theorem agree_of_plain {v : Json} (h : Fits fragments literals fields kind (.plain v))
    (hd : v.depth ≤ n) : Agree registry fragments n literals fields kind v v := by
  rw [Fits] at h
  split at h
  · exact agree_of_isLeaf hd h
  · rw [h]
    exact agree_scalar trivial

theorem json_withoutPrivate_of_isPlain {value : Response} (h : value.IsPlain) :
    value.json = (value.withoutPrivate registry owner).json := by
  cases value with
  | plain v => rfl
  | _ => exact h.elim

/-- A list that fits stays a list with all its entries where it does not list members. -/
theorem json_withoutPrivate_list {items : List Response} (howner : owner = none ∨ kind = .type)
    (h : ∀ item ∈ items, Fits fragments literals fields kind item) :
    ((Response.list items).withoutPrivate registry owner).json =
      .arr (items.map fun item => (item.withoutPrivate registry owner).json) := by
  have hall : items.filter (fun item => !item.isPrivate registry owner) = items := by
    rw [List.filter_eq_self]
    intro item hi
    rw [isPrivate_eq_false howner (h item hi)]
    rfl
  rw [withoutPrivate, withoutPrivateItems_eq, hall, json, jsonItems_eq_map, List.map_map]
  rfl

/-- A list of a type's members agrees with what is public of it once its private entries are left
out: without them it still fits, now around no type at all. -/
theorem thinned_of_fits {value : Response} (h : Fits fragments [] fields kind value)
    (hlisted : value.IsMemberList) (hd : value.json.depth ≤ n)
    (hagree : ∀ response : Response, Fits fragments [] fields kind response →
      response.json.depth ≤ n → Agree registry fragments n [] fields kind response.json
        (response.withoutPrivate registry none).json) :
    Thinned registry fragments owner (Agree registry fragments n []) fields kind value.json
      (value.withoutPrivate registry owner).json := by
  cases value with
  | plain v =>
    obtain rfl : v = .null := hlisted
    exact Or.inl (agree_scalar trivial)
  | list items =>
    obtain ⟨hkind, hitems⟩ := h
    rw [fitsItems_iff] at hitems
    have hfits : Fits fragments [] fields kind
        (.list (items.filter fun item => !item.isPrivate registry owner)) :=
      ⟨hkind, fitsItems_iff.mpr fun item hi => hitems item (List.mem_filter.mp hi).1⟩
    have hpublic := hagree _ hfits (depth_filter_le _ hd)
    rw [← withoutPrivate_memberList hlisted] at hpublic
    refine Or.inr ⟨items.map json, _, by rw [json, jsonItems_eq_map], drops_secret ?_,
      by rwa [json, jsonItems_eq_map] at hpublic⟩
    exact fun name members hmem => (hitems _ hmem).2.2.2.2.1
  | object role members => exact hlisted.elim

end Fits

/-- **A response that fits its fields agrees with what is public of it.** -/
theorem agree_of_fits : ∀ {n : Nat} {literals : List String} {fields : List Field} {kind : Kind}
    {owner : Option String} {response : Response}, owner = none ∨ kind = .type ∨ kind = .leaf →
    Fits fragments literals fields kind response → response.json.depth ≤ n →
    Agree registry fragments n literals fields kind response.json
      (response.withoutPrivate registry owner).json := by
  intro n
  induction n with
  | zero =>
    intro literals fields kind owner response _ h hd
    cases response with
    | plain v => exact agree_of_plain h hd
    | list items => simp [json, Json.depth] at hd
    | object role members => simp [json, Json.depth] at hd
  | succ n ih =>
    intro literals fields kind owner response howner h hd
    cases response with
    | plain v => exact agree_of_plain h hd
    | list items =>
      obtain ⟨hkind, hitems⟩ := h
      rw [fitsItems_iff] at hitems
      rw [json_withoutPrivate_list (howner.imp_right fun h => h.resolve_right hkind) hitems, json,
        jsonItems_eq_map]
      refine Or.inr ⟨hkind, ?_⟩
      rw [List.forall₂_map_left_iff, List.forall₂_map_right_iff, List.forall₂_same]
      exact fun item hi => ih howner (hitems item hi) (depth_item_le hd item hi)
    | object role members =>
      obtain ⟨hkind, hsuits, hcoherent, hnodup, hnamed, hlists, hmembers⟩ := h
      rw [fitsMembers_iff] at hmembers
      rw [withoutPrivate, json, json]
      refine ⟨role.owner, ⟨hkind, hcoherent, keys_jsonMembers members ▸ hnodup, ?_, ?_⟩,
        aligned_withoutPrivate fun key value hm => ⟨?_, ?_, ?_, ?_⟩⟩
      · rintro rfl
        exact hsuits.owner_ne_topLevel
      · rintro rfl
        exact hsuits.owner_eq_literal
      · exact fun hnone => json_withoutPrivate_of_isPlain ((hmembers (key, value) hm).1 hnone)
      · -- apart from its members, a type leads to types or no further
        intro c hc next hnext hthin
        refine ih ?_ ((hmembers (key, value) hm).2 c hc next hnext) (depth_member_le hd _ hm)
        by_cases htype : kind = .type
        · subst htype
          exact Or.inr (next?_of_not_memberList hnext fun hlist => hthin ⟨rfl, hlist, trivial⟩)
        · exact Or.inl (hsuits.owner_eq_none htype)
      · rintro c hc next hnext ⟨rfl, hlist, -⟩
        have hfits := (hmembers (key, value) hm).2 c hc next hnext
        obtain ⟨hchild, rfl⟩ := mem_under.mp hc
        exact thinned_of_fits hfits (hlists rfl c hchild hlist value hm) (depth_member_le hd _ hm)
          fun response => ih (Or.inl rfl)
      · intro c hc hname
        obtain ⟨hchild, rfl⟩ := mem_under.mp hc
        rcases hnamed c hchild hname value hm with rfl | ⟨text, rfl, hadmits⟩
        · exact Or.inl rfl
        · refine Or.inr ⟨text, rfl, ?_⟩
          rintro rfl
          exact hsuits.owner_of_admits hadmits

/-! ### The whole result -/

/-- What has to hold of the members of two results under the root fields of introspection. -/
def rootCriterion (registry : Registry) (fragments : Fragments) (n : Nat) (fields : List Field) :
    Criterion where
  lead := rootKind?
  agree key := Agree registry fragments n (literalsUnder fields key)
  thin _ := False
  thinned _ _ _ _ := True
  name _ := True

/-- Walking all root fields makes results equal that agree for them. -/
theorem foldlM_root_eq {n : Nat} {fields : List Field} {a b : Table Json}
    (hcoherent : Coherent fields) (hn : a.keys.Nodup)
    (h : Aligned ((rootCriterion registry fragments n fields).Holds fields) a b) :
    ∃ result, fields.foldlM (root registry fragments n) (.obj a) = .ok result ∧
      fields.foldlM (root registry fragments n) (.obj b) = .ok result := by
  rw [foldlM_root_obj, foldlM_root_obj]
  have hall : Aligned ((rootCriterion registry fragments n fields).Holds (fields ++ [])) a b := by
    rw [List.append_nil]
    exact h
  rw [← List.append_nil fields] at hcoherent
  obtain ⟨a', b', ha, hb, -, hrest⟩ := Criterion.steps
    (C := rootCriterion registry fragments n fields)
    (g := fun c next => walk registry fragments n (literalTypeName? c) next c) hcoherent
    (fun c d hcd => congrArg (Table.get? rootFields) hcd) (fun _ _ _ _ _ hthin => hthin)
    (fun c hc more next v w _ hagree => hagree.walk fun text htext =>
      List.mem_filterMap.mpr ⟨c, mem_under.mpr ⟨hc, rfl⟩, htext⟩)
    (fun c next v hnext hname _ => by
      have hroot : Table.get? rootFields c.name = some next := hnext
      rw [hname] at hroot
      cases hroot)
    (fun key next v w hagree => hagree.eq_of_nil) hn hall
  have heq : a' = b' := hrest.eq_of_eq fun key v w hold =>
    hold.same fun c hc => absurd (mem_under.mp hc).1 List.not_mem_nil
  exact ⟨.obj a', bind_eq_ok.mpr ⟨a', ha, rfl⟩, bind_eq_ok.mpr ⟨b', hb, heq ▸ rfl⟩⟩

/-- **Redaction answers the same without the private members of types.** -/
theorem redact_withoutPrivate (registry : Registry) {document : Document}
    {operationName : Option String} {response : Response}
    (h : Faithful document operationName response) :
    ∃ result, redact registry document operationName response.json = .ok result ∧
      redact registry document operationName (response.withoutPrivate registry none).json =
        .ok result := by
  cases response with
  | plain v =>
    obtain rfl : v = .null := h
    exact ⟨.null, rfl, rfl⟩
  | list items => exact h.elim
  | object role members =>
    cases role with
    | other =>
      obtain ⟨hcoherent, hnodup, hmembers⟩ := h
      rw [fitsMembers_iff] at hmembers
      rw [withoutPrivate, json, json]
      -- one bound for the depth of both results
      obtain ⟨n, hn⟩ : ∃ n, n = max (Json.obj (jsonMembers members)).depth (Json.obj
        (jsonMembers (withoutPrivateMembers registry none members))).depth := ⟨_, rfl⟩
      have hleft : (Json.obj (jsonMembers members)).depth ≤ n := hn ▸ Nat.le_max_left _ _
      have hdepth : (Response.object .other members).json.depth ≤ n + 1 := Nat.le_succ_of_le hleft
      rw [redact_obj_eq hleft, redact_obj_eq (hn ▸ Nat.le_max_right _ _)]
      refine foldlM_root_eq hcoherent (keys_jsonMembers members ▸ hnodup)
        (aligned_withoutPrivate fun key value hm => ⟨fun hnone => ?_, ?_, ?_, ?_⟩)
      · exact json_withoutPrivate_of_isPlain ((hmembers (key, value) hm).1 hnone)
      · intro c hc next hnext _
        exact agree_of_fits (Or.inl rfl) ((hmembers (key, value) hm).2 c hc next hnext)
          (depth_member_le hdepth _ hm)
      · exact fun _ _ _ _ _ => trivial
      · exact fun _ _ _ => trivial
    | _ => exact h.elim

/-- **Redaction tells nothing about private members.** Two faithful responses that are equal without
the private members of types, at every depth, are redacted to the same result. -/
theorem redact_eq_of_withoutPrivate_eq (registry : Registry) (document : Document)
    (operationName : Option String) (a b : Response) (ha : Faithful document operationName a)
    (hb : Faithful document operationName b)
    (hab : (a.withoutPrivate registry none).json = (b.withoutPrivate registry none).json) :
    ∃ result, redact registry document operationName a.json = .ok result ∧
      redact registry document operationName b.json = .ok result := by
  obtain ⟨r, har, har'⟩ := redact_withoutPrivate registry ha
  obtain ⟨s, hbs, hbs'⟩ := redact_withoutPrivate registry hb
  rw [hab, hbs', Except.ok.injEq] at har'
  exact ⟨r, har, har' ▸ hbs⟩

/-- A private field of a type whose own name is not selected. -/
theorem redact_eq_of_secret_field : ∃ (registry : Registry) (document : Document) (a b : Response),
    Faithful document none a ∧ Faithful document none b ∧
      (a.withoutPrivate registry none).json = (b.withoutPrivate registry none).json ∧
      a.json ≠ b.json ∧
      ∃ result, redact registry document none a.json = .ok result ∧
        redact registry document none b.json = .ok result := by
  let field (name : String) (arguments : List Argument) (selections : List Selection) :
    Selection := .field ⟨⟨1, 1⟩, none, name, arguments, []⟩ selections
  let argument : Argument := ⟨⟨⟨1, 1⟩, "name"⟩, .str "A"⟩
  let selections := [field "fields" [] [field "name" [] []]]
  let registry := Registry.ofRecords [⟨"A", "secret"⟩]
  let document : Document :=
    ⟨[.operation ⟨.query, none, [], [], [field "__type" [argument] selections]⟩]⟩
  let member (name : String) : Response := .object (.member name) [("name", .plain (.str name))]
  let response (members : List Response) : Response :=
    .object .other [("__type", .object (.type (some "A")) [("fields", .list members)])]
  have hroot : rootSelection document none =
    [⟨⟨⟨1, 1⟩, none, "__type", [argument], []⟩, selections⟩] := rfl
  have hfragments : document.fragmentTable = [] := rfl
  have h : ∀ names : List String, Faithful document none (response (names.map member)) := by
    intro names
    simp [response, member, argument, selections, field, hroot, hfragments, Faithful, FitsMembers,
      Fits, fitsItems_iff, Coherent, Named, ListsMembers, under, childrenOf, literalsUnder,
      literalTypeName?, rootKind?, rootFields, memberLists, Kind.next?, Kind.fields?, Role.Suits,
      Role.Admits, IsLeaf, IsMemberList, IsMember, Record.topLevel, Field.responseKey, Field.name,
      Table.get?, collect, collectWithin, Selection.flattenAll, Selection.flatten]
  have hab : ((response [member "open", member "secret"]).withoutPrivate registry none).json =
    ((response [member "open"]).withoutPrivate registry none).json := rfl
  exact ⟨registry, document, _, _, h ["open", "secret"], h ["open"], hab, by decide,
    redact_eq_of_withoutPrivate_eq registry document none _ _ (h _) (h _) hab⟩

end SchemaVisibility.Introspection
