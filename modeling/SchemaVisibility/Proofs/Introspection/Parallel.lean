import SchemaVisibility.Proofs.Introspection.Hiding

/-! # Operations that leave out the same

Two operations may come to the values of one result along different routes. `Echoes` says that the
routes of the one leave out of an object whatever those of the other leave out of it: each list of
members that a route selects is selected by a route of the other, which reads the same owner from
the object and the same names from the entries. Routes are `Parallel` if they echo each other at
every object that they lead to.

What redaction leaves along parallel routes is the same. A redacted value is settled, so an entry
that was left out along one route is not left along a route that echoes it
(`LeftOut.not_kept`), and then two prunings of a value have the same entries left in their lists
(`Pruned.eq_of_settled`). `redact_eq_of_parallel` is this for whole results.
-/

namespace SchemaVisibility

/-- Whether no object of a value has two members of one name. -/
inductive Json.Distinct : Json → Prop
  | scalar {v : Json} : Introspection.IsScalar v → Json.Distinct v
  | list {items : List Json} : (∀ item ∈ items, Json.Distinct item) → Json.Distinct (.arr items)
  | object {members : Table Json} : members.keys.Nodup →
      (∀ entry ∈ members, Json.Distinct entry.2) → Json.Distinct (.obj members)

theorem Json.distinct_arr {items : List Json} :
    (Json.arr items).Distinct ↔ ∀ item ∈ items, item.Distinct := by
  constructor
  · intro h
    cases h with
    | scalar hscalar => exact hscalar.elim
    | list h => exact h
  · exact .list

theorem Json.distinct_obj {members : Table Json} :
    (Json.obj members).Distinct ↔ members.keys.Nodup ∧ ∀ entry ∈ members, entry.2.Distinct := by
  constructor
  · intro h
    cases h with
    | scalar hscalar => exact hscalar.elim
    | object hn h => exact ⟨hn, h⟩
  · exact fun ⟨hn, h⟩ => .object hn h

/-- Two tables that a third one is aligned with are the same if they have the same values under its
names. -/
theorem Table.Aligned.eq_of_get? {α β : Type} {E F : String → α → β → Prop} {t : Table α}
    {u s : Table β} (hu : Table.Aligned E t u) (hs : Table.Aligned F t s) (hn : t.keys.Nodup)
    (heq : ∀ key v w x, t.get? key = some v → u.get? key = some w → s.get? key = some x →
      E key v w → F key v x → w = x) : u = s := by
  induction hu generalizing s with
  | nil => cases hs; rfl
  | @cons a b rest more hab hrest ih =>
    cases hs with
    | @cons _ c _ others hac hothers =>
      obtain ⟨k, v⟩ := a
      obtain ⟨k', w⟩ := b
      obtain ⟨k'', x⟩ := c
      obtain ⟨rfl, hE⟩ := hab
      obtain ⟨rfl, hF⟩ := hac
      rw [Table.keys, List.map_cons, List.nodup_cons] at hn
      obtain rfl : w = x := heq k v w x (if_pos rfl) (if_pos rfl) (if_pos rfl) hE hF
      rw [ih hothers hn.2 fun key v w x hv hw hx => ?_]
      have hk : k ≠ key := by
        rintro rfl
        exact hn.1 (List.mem_map.mpr ⟨(k, v), Table.mem_of_get? hv, rfl⟩)
      exact heq key v w x ((if_neg hk).trans hv) ((if_neg hk).trans hw) ((if_neg hk).trans hx)

end SchemaVisibility

namespace SchemaVisibility.Introspection

open GraphQL Redaction Table

variable {registry : Registry} {fragments others : Fragments} {routes against : List Route}

/-! ### Owners -/

/-- Where the name is a list or an object, an owner that is neither comes from the literal. -/
theorem owner_eq_literal {object : Table Json} {children : List Field} {literal : Option String}
    (hname : ¬ IsScalar (selected object children "name"))
    (howner : IsScalar (Redaction.owner object children literal)) :
    Redaction.owner object children literal = (literal.map Json.str).getD .null := by
  rw [Redaction.owner] at howner ⊢
  split at howner
  · exact absurd howner hname
  · next hfalse => rw [if_neg hfalse]

/-- Owners that are no lists and no objects are read the same from all that is left of an object. -/
theorem owner_eq_of_alike_both {first a b : Table Json} {children : List Field}
    {literal : Option String} (ha : AlikeMembers first a) (hb : AlikeMembers first b)
    (hscalar : IsScalar (Redaction.owner a children literal))
    (hscalar' : IsScalar (Redaction.owner b children literal)) :
    Redaction.owner a children literal = Redaction.owner b children literal := by
  have hnames : Alike (selected first children "name") (selected a children "name") :=
    selected_alike ha children "name"
  have hnames' : Alike (selected first children "name") (selected b children "name") :=
    selected_alike hb children "name"
  by_cases hfirst : IsScalar (selected first children "name")
  · rw [Redaction.owner, Redaction.owner, hnames.eq_of_isScalar hfirst,
      hnames'.eq_of_isScalar hfirst]
  · rw [owner_eq_literal (fun h => hfirst (hnames.eq_of_isScalar_right h ▸ h)) hscalar,
      owner_eq_literal (fun h => hfirst (hnames'.eq_of_isScalar_right h ▸ h)) hscalar']

/-! ### Routes that leave out the same -/

/-- Whether the routes `against` of another operation leave out of an object whatever `routes` leave
out of it. -/
def Echoes (fragments others : Fragments) (routes against : List Route) : Prop :=
  ∀ route ∈ routes, route.kind = .type →
    ∀ child ∈ route.children fragments, child.name ∈ memberLists →
      ∃ echo ∈ against, echo.kind = .type ∧
        (∀ object, Redaction.owner object (echo.children others) echo.literal =
          Redaction.owner object (route.children fragments) route.literal) ∧
        ∃ again ∈ under child.responseKey (echo.children others), again.name ∈ memberLists ∧
          ∀ object, selected object (collect others again.selections) "name" =
            selected object (collect fragments child.selections) "name"

/-- **Parallel routes.** A relation between the routes of two operations that lead to one value:
they leave out the same, and so do those that lead on from there. -/
structure Parallel (fragments others : Fragments) (along : List Route → List Route → Prop) :
    Prop where
  below {routes against : List Route} (key : String) : along routes against →
    along (routesBelow fragments routes key) (routesBelow others against key)
  echoes {routes against : List Route} : along routes against →
    Echoes fragments others routes against
  echoed {routes against : List Route} : along routes against →
    Echoes others fragments against routes

/-- What conceals an entry lets none of its kind stay. -/
theorem ConcealsEntry.not_keeps {owner : Json} {hidden : List String} {children : List Field}
    {members : Table Json} (hhidden : hiddenNames registry owner = .ok hidden)
    (h : ConcealsEntry registry owner (selected members children "name")) :
    hidden ≠ [] ∧ keeps hidden children (.obj members) ≠ .ok true := by
  rw [keeps]
  cases hname : selected members children "name" with
  | null =>
    rw [hname] at h
    obtain ⟨name, hname⟩ := h
    exact ⟨List.ne_nil_of_mem ((mem_hiddenNames hhidden name).mpr hname), by simp⟩
  | str text =>
    rw [hname] at h
    have hmem : text ∈ hidden := (mem_hiddenNames hhidden text).mpr h
    exact ⟨List.ne_nil_of_mem hmem, by simp [hmem]⟩
  | _ => rw [hname] at h; exact h.elim

/-- **What is left out along some routes is not left along routes that echo them.** -/
theorem LeftOut.not_kept {before after settled : Table Json} {key : String} {entry rest : Json}
    {around : List Route} {out : Json → Prop} {kept : List Json}
    (h : LeftOut registry fragments routes before after key entry)
    (hechoes : Echoes fragments others routes against)
    (hafter : AlikeMembers before after) (halike : AlikeMembers before settled)
    (hsettled : Settled registry others against (.obj settled))
    (hkept : settled.get? key = some (.arr kept)) (hrest : rest ∈ kept) :
    ¬ Pruned registry others around out entry rest := by
  intro hpruned
  obtain ⟨route, hroute, hkind, child, hc, hlist, owner, howner, members, rfl, hconceals⟩ := h
  obtain ⟨hchild, rfl⟩ := mem_under.mp hc
  obtain ⟨echo, hecho, htype, howners, again, hunder, hagain, hnames⟩ :=
    hechoes route hroute hkind child hchild hlist
  obtain ⟨ha, hkey⟩ := mem_under.mp hunder
  obtain ⟨hidden, hhidden⟩ := hsettled.hidden hecho htype
  -- the echo reads the owner from what is left along its own routes
  have hsame : Redaction.owner settled (echo.children others) echo.literal = owner := by
    rw [← howner.after, ← howners after]
    refine owner_eq_of_alike_both halike hafter (isScalar_of_hiddenNames hhidden) ?_
    rw [howners after, howner.after]
    exact hconceals.isScalar_owner
  cases hpruned with
  | scalar hscalar => exact hscalar.elim
  | @object _ _ _ left hmembers =>
    have hname : selected left (collect others again.selections) "name" =
        selected members (collect fragments child.selections) "name" := by
      rw [← hnames members]
      refine (selected_alike hmembers.alike _ "name").eq_of_isScalar ?_
      rw [hnames members]
      exact hconceals.isScalar_name
    rw [← hname, ← hsame] at hconceals
    obtain ⟨hne, hgoes⟩ := hconceals.not_keeps hhidden
    exact hgoes (hsettled.keeps hecho htype ha hagain hhidden hne (hkey ▸ hkept) _ hrest)

/-! ### Settled prunings of one value -/

/-- Two lists without some of their entries are the same if what one lacks is not left in the other
and what is left in both is the same. -/
theorem PrunedItems.eq_of_kept {out more : Json → Prop} {items kept left : List Json}
    (h : PrunedItems registry fragments routes out items kept)
    (h' : PrunedItems registry others against more items left)
    (hout : ∀ v, out v → ∀ w ∈ left, ¬ Pruned registry others against Spared v w)
    (hmore : ∀ v, more v → ∀ w ∈ kept, ¬ Pruned registry fragments routes Spared v w)
    (heq : ∀ v ∈ items, ∀ w ∈ kept, ∀ x ∈ left, Pruned registry fragments routes Spared v w →
      Pruned registry others against Spared v x → w = x) : kept = left := by
  induction items generalizing kept left with
  | nil => cases h; cases h'; rfl
  | cons v rest ih =>
    cases h with
    | @keep _ _ _ w _ kept hv hrest =>
      cases h' with
      | @keep _ _ _ x _ left hv' hrest' =>
        obtain rfl : w = x := heq v List.mem_cons_self w List.mem_cons_self x List.mem_cons_self
          hv hv'
        rw [ih hrest hrest' (fun v hv x hx => hout v hv x (List.mem_cons_of_mem _ hx))
          (fun v hv w hw => hmore v hv w (List.mem_cons_of_mem _ hw))
          fun v hv w hw x hx => heq v (List.mem_cons_of_mem _ hv) w (List.mem_cons_of_mem _ hw) x
            (List.mem_cons_of_mem _ hx)]
      | drop hv' _ => exact absurd hv (hmore v hv' w List.mem_cons_self)
    | drop hv hrest =>
      cases h' with
      | keep hv' _ => exact absurd hv' (hout v hv _ List.mem_cons_self)
      | drop _ hrest' =>
        exact ih hrest hrest' hout hmore fun v hv => heq v (List.mem_cons_of_mem _ hv)

/-- Nothing that is left out for this is left in the list. -/
def Rid (registry : Registry) (fragments : Fragments) (routes : List Route) (out : Json → Prop) :
    Json → Prop
  | .arr kept => ∀ v, out v → ∀ w ∈ kept, ¬ Pruned registry fragments routes Spared v w
  | _ => True

theorem rid_spared (v : Json) : Rid registry fragments routes Spared v := by
  cases v with
  | arr kept => exact fun _ => False.elim
  | _ => trivial

/-- **Along parallel routes the settled prunings of a value are the same.** -/
theorem Pruned.eq_of_settled {along : List Route → List Route → Prop}
    (hparallel : Parallel fragments others along) {v : Json} (hv : v.Distinct)
    {routes against : List Route} {out more : Json → Prop} {w x : Json}
    (halong : along routes against)
    (hw : Pruned registry fragments routes out v w) (hx : Pruned registry others against more v x)
    (hsettled : Settled registry fragments routes w) (hsettled' : Settled registry others against x)
    (hout : Rid registry others against out x) (hmore : Rid registry fragments routes more w) :
    w = x := by
  induction hv generalizing routes against out more w x with
  | scalar hscalar =>
    cases hw with
    | scalar _ => cases hx with
      | scalar _ => rfl
      | list _ => exact hscalar.elim
      | object _ => exact hscalar.elim
    | list _ => exact hscalar.elim
    | object _ => exact hscalar.elim
  | list _ ih =>
    cases hw with
    | scalar hscalar => exact hscalar.elim
    | list hkept =>
      cases hx with
      | scalar hscalar => exact hscalar.elim
      | list hleft =>
        refine congrArg Json.arr (hkept.eq_of_kept hleft hout hmore ?_)
        exact fun v hv w hw x hx hvw hvx => ih v hv halong hvw hvx (hsettled.item hw)
          (hsettled'.item hx) (rid_spared x) (rid_spared w)
  | @object members hn _ ih =>
    cases hw with
    | scalar hscalar => exact hscalar.elim
    | @object _ _ _ after hafter =>
      cases hx with
      | scalar hscalar => exact hscalar.elim
      | @object _ _ _ left hleft =>
        refine congrArg Json.obj ((prunedMembers_iff.mp hafter).eq_of_get?
          (prunedMembers_iff.mp hleft) hn fun key v w x hv hw hx hvw hvx => ?_)
        refine ih (key, v) (mem_of_get? hv) (hparallel.below key halong) hvw hvx
          (hsettled.member hw) (hsettled'.member hx) ?_ ?_
        · cases x with
          | arr kept =>
            exact fun entry hentry rest hrest => hentry.not_kept (hparallel.echoes halong)
              hafter.alike hleft.alike hsettled' hx hrest
          | _ => trivial
        · cases w with
          | arr kept =>
            exact fun entry hentry rest hrest => hentry.not_kept (hparallel.echoed halong)
              hleft.alike hafter.alike hsettled hw hrest
          | _ => trivial

/-- **Operations whose routes are parallel leave the same of a result.** -/
theorem redact_eq_of_parallel {document other : Document} {operationName : Option String}
    {along : List Route → List Route → Prop} {data result redacted : Json}
    (hparallel : Parallel document.fragmentTable other.fragmentTable along)
    (hroots : ∀ key, along (rootRoutes (rootSelection document operationName) key)
      (rootRoutes (rootSelection other operationName) key))
    (hdata : data.Distinct) (h : redact registry document operationName data = .ok result)
    (h' : redact registry other operationName data = .ok redacted) : result = redacted := by
  by_cases hobj : ∃ members, data = .obj members
  · obtain ⟨members, rfl⟩ := hobj
    obtain ⟨rest, rfl, -⟩ := (redact_obj (Nat.le_refl _)).mp h
    obtain ⟨left, rfl, -⟩ := (redact_obj (Nat.le_refl _)).mp h'
    cases hdata with
    | scalar hscalar => exact hscalar.elim
    | object hn hmembers =>
      have hrest : PrunedRoots registry document.fragmentTable
          (rootSelection document operationName) members rest := redact_prunedResult h
      have hleft : PrunedRoots registry other.fragmentTable
          (rootSelection other operationName) members left := redact_prunedResult h'
      refine congrArg Json.obj (hrest.eq_of_get? hleft hn fun key v w x hv hw hx hvw hvx => ?_)
      exact hvw.eq_of_settled hparallel (hmembers (key, v) (mem_of_get? hv)) (hroots key) hvx
        (settled_of_redact h hw) (settled_of_redact h' hx) (rid_spared x) (rid_spared w)
  · have hno : ∀ members, data ≠ .obj members := fun members hmembers => hobj ⟨members, hmembers⟩
    rw [redact_of_not_obj hno h, redact_of_not_obj hno h']

end SchemaVisibility.Introspection
