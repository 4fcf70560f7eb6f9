import SchemaVisibility.Proofs.Introspection.Trimming

/-! # Pruned results

What redaction may take from a result and why. A `Route` tells how an operation comes to a value:
through which field, and to which introspection type that leads. Several routes may lead to one
value, and `routesBelow` says which of them go on to a member of an object.

A `Pruned` result is the result but for entries that were taken out of the lists of its objects,
each `LeftOut` because of a route to the object around the list. It is `Trimmed`, so names and
shapes survive; what was taken out for one reason was not taken out for a reason that has gone
since, and pruning a pruned result prunes the result (`Pruned.trans`).
-/

namespace SchemaVisibility.Introspection

open GraphQL Redaction Table

/-! ### Routes -/

/-- How an operation comes to a value: the introspection type that it describes, the field that
selects it, and the type that a root field asks for by name. -/
structure Route where
  kind : Kind
  field : Field
  literal : Option String

/-- The fields that a route selects in an object. -/
def Route.children (fragments : Fragments) (route : Route) : List Field :=
  collect fragments route.field.selections

/-- The routes that lead on from an object to its member under a key. -/
def Route.below (fragments : Fragments) (key : String) (route : Route) : List Route :=
  (under key (route.children fragments)).filterMap fun child =>
    (route.kind.next? child.name).map fun next => ⟨next, child, none⟩

/-- The routes to the member under a key of an object that several routes lead to. -/
def routesBelow (fragments : Fragments) (routes : List Route) (key : String) : List Route :=
  routes.flatMap (Route.below fragments key)

/-- The routes to the member under a key of a whole result, one for each root field of
introspection with that key. -/
def rootRoutes (fields : List Field) (key : String) : List Route :=
  (under key fields).filterMap fun field =>
    (rootKind? field).map fun kind => ⟨kind, field, literalTypeName? field⟩

/-! ### What may be left out -/

/-- Whether a name is private where the owner is so described: a known owner has its own private
members, an unknown one the private members of all types. -/
def Conceals (registry : Registry) : Json → String → Prop
  | .str owner, name => registry.isPrivate owner name = true
  | .null, name => ∃ owner, owner ≠ Record.topLevel ∧ registry.isPrivate owner name = true
  | _, _ => False

/-- Whether an entry that gives this as its name goes: a private name does, and without a name every
entry does if there is any private name at all. -/
def ConcealsEntry (registry : Registry) (owner : Json) : Json → Prop
  | .str name => Conceals registry owner name
  | .null => ∃ name, Conceals registry owner name
  | _ => False

/-- The owner that a descriptor gives to a route, afterwards and, unless a list stands for its name,
before. Such a list may itself have lost its last entry in between. -/
structure Owned (route : Route) (fragments : Fragments) (before after : Table Json)
    (owner : Json) : Prop where
  after : Redaction.owner after (route.children fragments) route.literal = owner
  before : (∀ items, selected before (route.children fragments) "name" ≠ .arr items) →
    Redaction.owner before (route.children fragments) route.literal = owner

/-- **Why an entry is missing** from the list under a key of an object: a route leads to the object
as the descriptor of a type, it selects the list as one of the type's members, and the owner of the
descriptor conceals what the list's selections find for the entry's name. -/
def LeftOut (registry : Registry) (fragments : Fragments) (routes : List Route)
    (before after : Table Json) (key : String) (entry : Json) : Prop :=
  ∃ route ∈ routes, route.kind = .type ∧
    ∃ child ∈ under key (route.children fragments), child.name ∈ memberLists ∧
      ∃ owner, Owned route fragments before after owner ∧
        ∃ members, entry = .obj members ∧ ConcealsEntry registry owner
          (selected members (collect fragments child.selections) "name")

/-- Nothing is left out. -/
def Spared (_entry : Json) : Prop := False

mutual

/-- **A pruned value.** Values that are no lists and no objects are the same, objects have the same
names in the same order, and lists lack nothing but what is left out of them. -/
inductive Pruned (registry : Registry) (fragments : Fragments) :
    List Route → (Json → Prop) → Json → Json → Prop
  | scalar {routes : List Route} {out : Json → Prop} {v : Json} : IsScalar v →
      Pruned registry fragments routes out v v
  | list {routes : List Route} {out : Json → Prop} {items kept : List Json} :
      PrunedItems registry fragments routes out items kept →
      Pruned registry fragments routes out (.arr items) (.arr kept)
  | object {routes : List Route} {out : Json → Prop} {before after : Table Json} :
      PrunedMembers registry fragments routes before after before after →
      Pruned registry fragments routes out (.obj before) (.obj after)

/-- The items of a list without some that are left out. Lists inside the list lose nothing. -/
inductive PrunedItems (registry : Registry) (fragments : Fragments) :
    List Route → (Json → Prop) → List Json → List Json → Prop
  | nil {routes : List Route} {out : Json → Prop} : PrunedItems registry fragments routes out [] []
  | keep {routes : List Route} {out : Json → Prop} {v w : Json} {items kept : List Json} :
      Pruned registry fragments routes Spared v w →
      PrunedItems registry fragments routes out items kept →
      PrunedItems registry fragments routes out (v :: items) (w :: kept)
  | drop {routes : List Route} {out : Json → Prop} {v : Json} {items kept : List Json} :
      out v → PrunedItems registry fragments routes out items kept →
      PrunedItems registry fragments routes out (v :: items) kept

/-- Members of an object, each pruned along the routes that lead on to it. -/
inductive PrunedMembers (registry : Registry) (fragments : Fragments) :
    List Route → Table Json → Table Json → Table Json → Table Json → Prop
  | nil {routes : List Route} {before after : Table Json} :
      PrunedMembers registry fragments routes before after [] []
  | cons {routes : List Route} {before after : Table Json} {key : String} {v w : Json}
      {members rest : Table Json} :
      Pruned registry fragments (routesBelow fragments routes key)
        (LeftOut registry fragments routes before after key) v w →
      PrunedMembers registry fragments routes before after members rest →
      PrunedMembers registry fragments routes before after ((key, v) :: members) ((key, w) :: rest)

end

variable {registry : Registry} {fragments : Fragments} {routes : List Route}
  {before after : Table Json}

theorem prunedMembers_iff {a b : Table Json} :
    PrunedMembers registry fragments routes before after a b ↔
      Aligned (fun key => Pruned registry fragments (routesBelow fragments routes key)
        (LeftOut registry fragments routes before after key)) a b := by
  constructor
  · induction a generalizing b with
    | nil => intro h; cases h; exact .nil
    | cons entry rest ih =>
      intro h
      cases h with
      | cons hv hrest => exact .cons ⟨rfl, hv⟩ (ih hrest)
  · intro h
    induction h with
    | nil => exact .nil
    | @cons a b _ _ hab _ ih =>
      obtain ⟨key, v⟩ := a
      obtain ⟨other, w⟩ := b
      obtain ⟨rfl, hv⟩ := hab
      exact .cons hv ih

/-- Where nothing is left out, lists have their items side by side. -/
theorem prunedItems_spared_iff {items kept : List Json} :
    PrunedItems registry fragments routes Spared items kept ↔
      List.Forall₂ (Pruned registry fragments routes Spared) items kept := by
  constructor
  · induction items generalizing kept with
    | nil => intro h; cases h; exact .nil
    | cons v rest ih =>
      intro h
      cases h with
      | keep hv hrest => exact .cons hv (ih hrest)
      | drop hv _ => exact hv.elim
  · intro h
    induction h with
    | nil => exact .nil
    | cons hv _ ih => exact .keep hv ih

mutual

theorem Pruned.refl (routes : List Route) (out : Json → Prop) :
    ∀ v : Json, Pruned registry fragments routes out v v
  | .null | .bool _ | .int _ | .decimal _ | .str _ => .scalar trivial
  | .arr items => .list (PrunedItems.refl routes out items)
  | .obj members => .object (PrunedMembers.refl routes members members members)

theorem PrunedItems.refl (routes : List Route) (out : Json → Prop) :
    ∀ items : List Json, PrunedItems registry fragments routes out items items
  | [] => .nil
  | v :: rest => .keep (Pruned.refl routes Spared v) (PrunedItems.refl routes out rest)

theorem PrunedMembers.refl (routes : List Route) (before after : Table Json) :
    ∀ members : List (String × Json),
      PrunedMembers registry fragments routes before after members members
  | [] => .nil
  | (_, v) :: rest => .cons (Pruned.refl _ _ v) (PrunedMembers.refl routes before after rest)

end

/-! ### Where no route leads -/

mutual

/-- Where no route leads and nothing is left out, nothing changes. -/
theorem Pruned.eq_of_nil {routes : List Route} {out : Json → Prop} {v w : Json}
    (h : Pruned registry fragments routes out v w) (hnil : routes = [])
    (hout : ∀ entry, ¬ out entry) : v = w :=
  match h with
  | .scalar _ => rfl
  | .list hitems => congrArg Json.arr (hitems.eq_of_nil hnil hout)
  | .object hmembers => congrArg Json.obj (hmembers.eq_of_nil hnil)

theorem PrunedItems.eq_of_nil {routes : List Route} {out : Json → Prop} {items kept : List Json}
    (h : PrunedItems registry fragments routes out items kept) (hnil : routes = [])
    (hout : ∀ entry, ¬ out entry) : items = kept :=
  match h with
  | .nil => rfl
  | .keep hv hrest =>
    congrArg₂ List.cons (hv.eq_of_nil hnil fun _ => id) (hrest.eq_of_nil hnil hout)
  | .drop hv _ => (hout _ hv).elim

theorem PrunedMembers.eq_of_nil {routes : List Route} {before after a b : Table Json}
    (h : PrunedMembers registry fragments routes before after a b) (hnil : routes = []) : a = b :=
  match h with
  | .nil => rfl
  | .cons hv hrest => by
    subst hnil
    rw [hv.eq_of_nil rfl fun _ ⟨_, hroute, _⟩ => List.not_mem_nil hroute, hrest.eq_of_nil rfl]

end

/-! ### Pruning trims -/

mutual

/-- A pruned value is trimmed, for reasons that trimming forgets. -/
theorem Pruned.trimmed {routes : List Route} {out : Json → Prop} {v w : Json}
    (h : Pruned registry fragments routes out v w) : Trimmed v w :=
  match h with
  | .scalar hscalar => .scalar hscalar
  | .list hitems => .list hitems.trimmed
  | .object hmembers => .object hmembers.trimmed

theorem PrunedItems.trimmed {routes : List Route} {out : Json → Prop} {items kept : List Json}
    (h : PrunedItems registry fragments routes out items kept) : TrimmedItems items kept :=
  match h with
  | .nil => .nil
  | .keep hv hrest => .keep hv.trimmed hrest.trimmed
  | .drop _ hrest => .drop hrest.trimmed

theorem PrunedMembers.trimmed {routes : List Route} {before after a b : Table Json}
    (h : PrunedMembers registry fragments routes before after a b) : TrimmedMembers a b :=
  match h with
  | .nil => .nil
  | .cons hv hrest => .cons hv.trimmed hrest.trimmed

end

/-- Values that prune to each other are the same. -/
theorem Pruned.antisymm {out more : Json → Prop} {v w : Json}
    (h : Pruned registry fragments routes out v w)
    (g : Pruned registry fragments routes more w v) : v = w :=
  h.trimmed.antisymm g.trimmed

theorem PrunedMembers.alike {a b : Table Json}
    (h : PrunedMembers registry fragments routes before after a b) : AlikeMembers a b :=
  h.trimmed.alike

theorem Conceals.isScalar {owner : Json} {name : String} (h : Conceals registry owner name) :
    IsScalar owner := by
  cases owner with
  | arr items => exact h.elim
  | obj members => exact h.elim
  | _ => trivial

theorem ConcealsEntry.isScalar_owner {owner name : Json}
    (h : ConcealsEntry registry owner name) : IsScalar owner := by
  cases name with
  | str text => exact Conceals.isScalar h
  | null => exact h.elim fun _ hname => hname.isScalar
  | _ => exact h.elim

theorem ConcealsEntry.isScalar_name {owner name : Json}
    (h : ConcealsEntry registry owner name) : IsScalar name := by
  cases name with
  | arr items => exact h.elim
  | obj members => exact h.elim
  | _ => trivial

/-- What was left out is left out for the same reason when the object is pruned further. -/
theorem LeftOut.later {final : Table Json} {key : String} {entry : Json}
    (h : LeftOut registry fragments routes before after key entry)
    (hlater : AlikeMembers after final) :
    LeftOut registry fragments routes before final key entry := by
  obtain ⟨route, hroute, hkind, child, hc, hlist, owner, howner, members, hentry, hname⟩ := h
  refine ⟨route, hroute, hkind, child, hc, hlist, owner, ⟨?_, howner.before⟩, members, hentry,
    hname⟩
  rw [← howner.after]
  exact owner_eq_of_alike hlater (howner.after ▸ hname.isScalar_owner)

/-- What is left out of a pruned object was left out of the object for the same reason. -/
theorem LeftOut.earlier {first : Table Json} {key : String} {entry rest : Json}
    {around : List Route} {out : Json → Prop}
    (h : LeftOut registry fragments routes before after key rest)
    (hearlier : AlikeMembers first before)
    (hentry : Pruned registry fragments around out entry rest) :
    LeftOut registry fragments routes first after key entry := by
  obtain ⟨route, hroute, hkind, child, hc, hlist, owner, howner, members, rfl, hname⟩ := h
  cases hentry with
  | scalar hscalar => exact hscalar.elim
  | @object _ _ whole _ hmembers =>
    refine ⟨route, hroute, hkind, child, hc, hlist, owner, ⟨howner.after, fun hno => ?_⟩, whole,
      rfl, ?_⟩
    · -- no list stands for the name later on if none did before
      have hnames := selected_alike hearlier (route.children fragments) "name"
      have hno' : ∀ items, selected before (route.children fragments) "name" ≠ .arr items := by
        intro items hitems
        rw [hitems] at hnames
        cases hfirst : selected first (route.children fragments) "name" with
        | arr all => exact hno all hfirst
        | _ => rw [hfirst] at hnames; cases hnames
      have hbefore := howner.before hno'
      rw [← hbefore]
      exact owner_eq_of_alike_right hearlier hno (hbefore ▸ hname.isScalar_owner)
    · rw [(selected_alike hmembers.alike _ "name").eq_of_isScalar_right hname.isScalar_name]
      exact hname

/-! ### Pruning in turns -/

theorem routesBelow_subset {few many : List Route} (h : few ⊆ many) (key : String) :
    routesBelow fragments few key ⊆ routesBelow fragments many key :=
  fun _ hroute =>
    let ⟨route, hr, hbelow⟩ := List.mem_flatMap.mp hroute
    List.mem_flatMap.mpr ⟨route, h hr, hbelow⟩

theorem LeftOut.of_subset {few : List Route} {key : String} {entry : Json}
    (h : LeftOut registry fragments few before after key entry) (hsub : few ⊆ routes) :
    LeftOut registry fragments routes before after key entry := by
  obtain ⟨route, hroute, hreason⟩ := h
  exact ⟨route, hsub hroute, hreason⟩

mutual

/-- With more routes more may be left out. -/
theorem Pruned.mono {few many : List Route} {out more : Json → Prop} {v w : Json}
    (h : Pruned registry fragments few out v w) (hsub : few ⊆ many)
    (hout : ∀ entry, out entry → more entry) : Pruned registry fragments many more v w :=
  match h with
  | .scalar hscalar => .scalar hscalar
  | .list hitems => .list (hitems.mono hsub hout)
  | .object hmembers => .object (hmembers.mono hsub)

theorem PrunedItems.mono {few many : List Route} {out more : Json → Prop} {items kept : List Json}
    (h : PrunedItems registry fragments few out items kept) (hsub : few ⊆ many)
    (hout : ∀ entry, out entry → more entry) :
    PrunedItems registry fragments many more items kept :=
  match h with
  | .nil => .nil
  | .keep hv hrest => .keep (hv.mono hsub fun _ => id) (hrest.mono hsub hout)
  | .drop hv hrest => .drop (hout _ hv) (hrest.mono hsub hout)

theorem PrunedMembers.mono {few many : List Route} {before after a b : Table Json}
    (h : PrunedMembers registry fragments few before after a b) (hsub : few ⊆ many) :
    PrunedMembers registry fragments many before after a b :=
  match h with
  | .nil => .nil
  | .cons hv hrest =>
    .cons (hv.mono (routesBelow_subset hsub _) fun _ hout => hout.of_subset hsub)
      (hrest.mono hsub)

end

mutual

/-- **Pruning a pruned value prunes the value**, if what is left out the second time may be left out
with all that it had before. -/
theorem Pruned.trans {routes : List Route} {out more all : Json → Prop} {u v w : Json}
    (h : Pruned registry fragments routes out u v) (g : Pruned registry fragments routes more v w)
    (hout : ∀ entry, out entry → all entry)
    (hmore : ∀ entry rest, Pruned registry fragments routes Spared entry rest → more rest →
      all entry) : Pruned registry fragments routes all u w :=
  match h, g with
  | .scalar hscalar, .scalar _ => .scalar hscalar
  | .list hitems, .list hitems' => .list (hitems.trans hitems' hout hmore)
  | .object hmembers, .object hmembers' =>
    .object (hmembers.trans hmembers' (fun _ _ hentry => hentry.later hmembers'.alike)
      fun _ _ _ hrest hentry => hentry.earlier hmembers.alike hrest)

theorem PrunedItems.trans {routes : List Route} {out more all : Json → Prop}
    {items kept rest : List Json}
    (h : PrunedItems registry fragments routes out items kept)
    (g : PrunedItems registry fragments routes more kept rest)
    (hout : ∀ entry, out entry → all entry)
    (hmore : ∀ entry rest, Pruned registry fragments routes Spared entry rest → more rest →
      all entry) : PrunedItems registry fragments routes all items rest :=
  match h, g with
  | .nil, .nil => .nil
  | .keep hv hitems, .keep hw hkept =>
    .keep (hv.trans hw (fun _ => id) fun _ _ _ => id) (hitems.trans hkept hout hmore)
  | .keep hv hitems, .drop hw hkept => .drop (hmore _ _ hv hw) (hitems.trans hkept hout hmore)
  | .drop hv hitems, g => .drop (hout _ hv) (hitems.trans g hout hmore)

theorem PrunedMembers.trans {routes : List Route} {first middle last a b c : Table Json}
    (h : PrunedMembers registry fragments routes first middle a b)
    (g : PrunedMembers registry fragments routes middle last b c)
    (hout : ∀ key entry, LeftOut registry fragments routes first middle key entry →
      LeftOut registry fragments routes first last key entry)
    (hmore : ∀ key entry rest,
      Pruned registry fragments (routesBelow fragments routes key) Spared entry rest →
      LeftOut registry fragments routes middle last key rest →
      LeftOut registry fragments routes first last key entry) :
    PrunedMembers registry fragments routes first last a c :=
  match h, g with
  | .nil, .nil => .nil
  | .cons hv hmembers, .cons hw hmembers' =>
    .cons (hv.trans hw (hout _) (hmore _)) (hmembers.trans hmembers' hout hmore)

end

theorem Pruned.trans_spared {u v w : Json} (h : Pruned registry fragments routes Spared u v)
    (g : Pruned registry fragments routes Spared v w) :
    Pruned registry fragments routes Spared u w :=
  h.trans g (fun _ => id) fun _ _ _ => id

/-- **A pruned object**: one with the same names and pruned members. -/
abbrev PrunedObject (registry : Registry) (fragments : Fragments) (routes : List Route)
    (before after : Table Json) : Prop :=
  PrunedMembers registry fragments routes before after before after

theorem PrunedObject.refl (members : Table Json) :
    PrunedObject registry fragments routes members members :=
  PrunedMembers.refl routes members members members

theorem PrunedObject.trans {final : Table Json}
    (h : PrunedObject registry fragments routes before after)
    (g : PrunedObject registry fragments routes after final) :
    PrunedObject registry fragments routes before final :=
  PrunedMembers.trans h g (fun _ _ hentry => hentry.later g.alike)
    fun _ _ _ hrest hentry => hentry.earlier h.alike hrest

end SchemaVisibility.Introspection
