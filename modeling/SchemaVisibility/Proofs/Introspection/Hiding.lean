import SchemaVisibility.Proofs.Introspection.Idempotence

/-! # What redaction hides

Which listed members are missing from a redacted result. A redacted result is `Settled`: along every
route that leads to one of its values a walk changes nothing (`Survives.settled`), for pruning only
ever makes values smaller. So the member lists of a descriptor that survives hold no private member
any more, and they hold every other member still, because nothing else is left out
(`Listing.lists_iff`).
-/

namespace SchemaVisibility.Introspection

open GraphQL Redaction Fallible Table

variable {registry : Registry} {fragments : Fragments} {routes : List Route}

/-! ### Settled values -/

/-- Whether walking a value along any of the routes to it changes nothing. -/
def Settled (registry : Registry) (fragments : Fragments) (routes : List Route) (v : Json) : Prop :=
  ∀ route ∈ routes,
    walk registry fragments v.depth route.literal route.kind route.field v = .ok v

theorem Settled.item {items : List Json} {item : Json}
    (h : Settled registry fragments routes (.arr items)) (hitem : item ∈ items) :
    Settled registry fragments routes item := by
  intro route hroute
  have hwalk := h route hroute
  rw [Json.depth, walk_arr_still_iff] at hwalk
  have hdepth : item.depth ≤ Json.depthItems items :=
    Json.depthItems_le_iff.mp (Nat.le_refl _) item hitem
  rw [walk_eq_of_depth_le (Nat.le_refl _) hdepth]
  exact hwalk item hitem

/-- A settled object is opened and visited without a change. -/
theorem Settled.parts {members : Table Json} {route : Route}
    (h : Settled registry fragments routes (.obj members)) (hroute : route ∈ routes) :
    opened registry fragments route.literal route.kind route.field members = .ok members ∧
      visited registry fragments (Json.depthMembers members) route.kind route.field members =
        .ok members :=
  walk_obj_still_iff.mp (h route hroute)

/-- The owner of a settled descriptor hides names. -/
theorem Settled.hidden {members : Table Json} {route : Route}
    (h : Settled registry fragments routes (.obj members)) (hroute : route ∈ routes)
    (hkind : route.kind = .type) :
    ∃ hidden, hiddenNames registry
      (Redaction.owner members (route.children fragments) route.literal) = .ok hidden := by
  obtain ⟨hopened, -⟩ := h.parts hroute
  obtain ⟨hidden, hhidden, -⟩ := opened_still_iff.mp (hkind ▸ hopened)
  exact ⟨hidden, hhidden⟩

theorem mem_routesBelow_iff {key : String} {next : Route} :
    next ∈ routesBelow fragments routes key ↔
      ∃ route ∈ routes, ∃ child ∈ under key (route.children fragments), ∃ kind,
        route.kind.next? child.name = some kind ∧ ⟨kind, child, none⟩ = next := by
  simp only [routesBelow, Route.below, List.mem_flatMap, List.mem_filterMap, Option.map_eq_some_iff]

theorem Settled.member {members : Table Json} {key : String} {v : Json}
    (h : Settled registry fragments routes (.obj members)) (hv : members.get? key = some v) :
    Settled registry fragments (routesBelow fragments routes key) v := by
  intro next hnext
  obtain ⟨route, hroute, child, hc, kind, hkind, rfl⟩ := mem_routesBelow_iff.mp hnext
  obtain ⟨hmem, rfl⟩ := mem_under.mp hc
  obtain ⟨-, hvisited⟩ := h.parts hroute
  obtain ⟨-, hvisit⟩ := visit_still_iff.mp (visited_still_iff.mp hvisited child hmem)
  rw [walk_eq_of_depth_le (Nat.le_refl _) (Json.depth_le_of_get? (Nat.le_refl _) hv)]
  exact hvisit kind v hkind hv

/-! ### Settled descriptors -/

/-- The entries in the member lists of a settled descriptor stay. -/
theorem Settled.keeps {members : Table Json} {route : Route} {child : Field}
    {hidden : List String} {entries : List Json}
    (h : Settled registry fragments routes (.obj members)) (hroute : route ∈ routes)
    (hkind : route.kind = .type) (hc : child ∈ route.children fragments)
    (hlist : child.name ∈ memberLists)
    (hhidden : hiddenNames registry
      (Redaction.owner members (route.children fragments) route.literal) = .ok hidden)
    (hne : hidden ≠ []) (hentries : members.get? child.responseKey = some (.arr entries)) :
    ∀ entry ∈ entries,
      Redaction.keeps hidden (collect fragments child.selections) entry = .ok true := by
  obtain ⟨hopened, -⟩ := h.parts hroute
  obtain ⟨hidden', hhidden', hfiltered⟩ := opened_still_iff.mp (hkind ▸ hopened)
  obtain rfl : hidden = hidden' := Except.ok.inj (hhidden.symm.trans hhidden')
  exact fun entry he => hfiltered child hc hlist entries hentries entry he hne

/-! ### What survives -/

/-- **A value of a result and what is left of it.** The same names lead to both, along the same
routes, and an item of a list is left as the item that it was pruned to. -/
inductive Survives (registry : Registry) (fragments : Fragments) (fields : List Field)
    (data result : Table Json) : List Route → Json → Json → Prop
  | root {key : String} {v w : Json} : data.get? key = some v → result.get? key = some w →
      Survives registry fragments fields data result (rootRoutes fields key) v w
  | member {routes : List Route} {before after : Table Json} {key : String} {v w : Json} :
      Survives registry fragments fields data result routes (.obj before) (.obj after) →
      before.get? key = some v → after.get? key = some w →
      Survives registry fragments fields data result (routesBelow fragments routes key) v w
  | item {routes : List Route} {items kept : List Json} {v w : Json} :
      Survives registry fragments fields data result routes (.arr items) (.arr kept) →
      v ∈ items → w ∈ kept → Pruned registry fragments routes Spared v w →
      Survives registry fragments fields data result routes v w

section Survives

variable {document : Document} {operationName : Option String} {data result : Table Json}
  {v w : Json}

theorem PrunedRoots.antisymm {fields : List Field}
    (h : PrunedRoots registry fragments fields data result)
    (g : PrunedRoots registry fragments fields result data) : data = result :=
  Aligned.antisymm h g fun _ _ _ => Pruned.antisymm

/-- What stands under the keys of a redacted result is settled. -/
theorem settled_of_redact {key : String}
    (h : redact registry document operationName (.obj data) = .ok (.obj result))
    (hw : result.get? key = some w) :
    Settled registry document.fragmentTable
      (rootRoutes (rootSelection document operationName) key) w := by
  intro route hroute
  obtain ⟨field, hunder, hlead⟩ := List.mem_filterMap.mp hroute
  obtain ⟨kind, hkind, rfl⟩ := Option.map_eq_some_iff.mp hlead
  obtain ⟨hf, rfl⟩ := mem_under.mp hunder
  obtain ⟨rest, hrest, hfold⟩ := (redact_obj (Nat.le_succ _)).mp (redact_rests h)
  obtain rfl : result = rest := Json.obj.inj hrest
  have hstep := still_of_foldlM
    (R := PrunedRoots registry document.fragmentTable (rootSelection document operationName))
    (PrunedRoots.refl _) (fun _ _ _ => PrunedRoots.trans) (fun _ _ => PrunedRoots.antisymm)
    (fun _ hf _ _ _ => rootStep_pruned hf) hfold field hf
  have hdepth : w.depth ≤ (Json.obj result).depth + 1 := by
    have hmember := Json.depth_le_of_get? (Nat.le_refl _) hw
    rw [Json.depth]
    omega
  rw [walk_eq_of_depth_le (Nat.le_refl _) hdepth]
  exact stepInto_still_iff.mp hstep _ _ hkind hw

theorem Survives.settled
    (hredact : redact registry document operationName (.obj data) = .ok (.obj result))
    (h : Survives registry document.fragmentTable (rootSelection document operationName) data
      result routes v w) : Settled registry document.fragmentTable routes w := by
  induction h with
  | root _ hw => exact settled_of_redact hredact hw
  | member _ _ hw ih => exact ih.member hw
  | item _ _ hw _ ih => exact ih.item hw

theorem Survives.pruned {fields : List Field}
    (hroots : PrunedRoots registry fragments fields data result)
    (h : Survives registry fragments fields data result routes v w) :
    ∃ out, Pruned registry fragments routes out v w := by
  induction h with
  | root hv hw => exact ⟨Spared, hroots.get?_related hv hw⟩
  | member _ hv hw ih =>
    obtain ⟨out, hobject⟩ := ih
    cases hobject with
    | scalar hscalar => exact hscalar.elim
    | object hmembers => exact ⟨_, (prunedMembers_iff.mp hmembers).get?_related hv hw⟩
  | item _ _ _ hpruned _ => exact ⟨Spared, hpruned⟩

end Survives

/-! ### Listed members -/

/-- Whether a field selects the list under a key as one of the member lists of a type. -/
def SelectsList (fragments : Fragments) (routes : List Route) (key : String) (child : Field) :
    Prop :=
  ∃ route ∈ routes, route.kind = .type ∧ child ∈ under key (route.children fragments) ∧
    child.name ∈ memberLists

/-- Whether an object lists a member under a key: an entry gives the member's name to every field
that selects the list. -/
def Lists (fragments : Fragments) (routes : List Route) (object : Table Json)
    (key member : String) : Prop :=
  ∃ entries, object.get? key = some (.arr entries) ∧ ∃ entry, .obj entry ∈ entries ∧
    ∀ child, SelectsList fragments routes key child →
      selected entry (collect fragments child.selections) "name" = .str member

/-- **The descriptor of a type that lists a member**, in a result and in what redaction leaves of
it. Where it is selected as a type its name is selected too. -/
structure Listing (registry : Registry) (document : Document) (operationName : Option String)
    (type member : String) (data result : Table Json) (routes : List Route)
    (before after : Table Json) (key : String) : Prop where
  redacted : redact registry document operationName (.obj data) = .ok (.obj result)
  survives : Survives registry document.fragmentTable (rootSelection document operationName) data
    result routes (.obj before) (.obj after)
  named : ∀ route ∈ routes, route.kind = .type →
    selected before (route.children document.fragmentTable) "name" = .str type
  /-- The name is one: no name is empty. -/
  name_ne : type ≠ ""
  selects : ∃ child, SelectsList document.fragmentTable routes key child
  lists : Lists document.fragmentTable routes before key member

/-- Whether redaction takes a member out of every descriptor of a type that lists it. -/
def Removes (registry : Registry) (type member : String) : Prop :=
  ∀ document operationName data result routes before after key,
    Listing registry document operationName type member data result routes before after key →
    ¬ Lists document.fragmentTable routes after key member

/-- What a pruned object holds under a key is what the object held, pruned. -/
theorem PrunedObject.get?_cases {before after : Table Json}
    (h : PrunedObject registry fragments routes before after) (key : String) :
    (before.get? key = none ∧ after.get? key = none) ∨
      ∃ v w, before.get? key = some v ∧ after.get? key = some w ∧
        Pruned registry fragments (routesBelow fragments routes key)
          (LeftOut registry fragments routes before after key) v w :=
  (prunedMembers_iff.mp h).get?_cases key

/-- An item of a list is left in the pruned list, or it was left out. -/
theorem PrunedItems.kept_or_out {out : Json → Prop} {items kept : List Json} {v : Json}
    (h : PrunedItems registry fragments routes out items kept) (hv : v ∈ items) :
    (∃ w ∈ kept, Pruned registry fragments routes Spared v w) ∨ out v := by
  induction items generalizing kept with
  | nil => cases hv
  | cons first rest ih =>
    cases h with
    | keep hfirst hrest =>
      rcases List.mem_cons.mp hv with rfl | hv
      · exact Or.inl ⟨_, List.mem_cons_self, hfirst⟩
      · exact (ih hrest hv).imp_left fun ⟨w, hmem, hw⟩ => ⟨w, List.mem_cons_of_mem _ hmem, hw⟩
    | drop hout hrest =>
      rcases List.mem_cons.mp hv with rfl | hv
      · exact Or.inr hout
      · exact ih hrest hv

/-- The owner of a descriptor that gives a name. -/
theorem owner_of_selected {object : Table Json} {children : List Field}
    {literal : Option String} {type : String} (h : selected object children "name" = .str type)
    (hne : type ≠ "") : Redaction.owner object children literal = .str type := by
  rw [Redaction.owner, h, if_pos (by simpa [Json.truthy] using hne)]

namespace Listing

variable {document : Document} {operationName : Option String} {type member key : String}
  {data result before after : Table Json}

theorem pruned (h : Listing registry document operationName type member data result routes before
    after key) : PrunedObject registry document.fragmentTable routes before after := by
  obtain ⟨out, hpruned⟩ := h.survives.pruned (redact_prunedResult h.redacted)
  cases hpruned with
  | scalar hscalar => exact hscalar.elim
  | object hmembers => exact hmembers

/-- A member that is not private is still listed. -/
theorem lists_of_not_private (h : Listing registry document operationName type member data result
      routes before after key) (hprivate : registry.isPrivate type member = false) :
    Lists document.fragmentTable routes after key member := by
  obtain ⟨entries, hentries, entry, hentry, hname⟩ := h.lists
  rcases h.pruned.get?_cases key with ⟨hv, -⟩ | ⟨v, w, hv, hw, hpruned⟩
  · rw [hv] at hentries
    cases hentries
  obtain rfl : v = .arr entries := by simpa only [hv, Option.some.injEq] using hentries
  cases hpruned with
  | scalar hscalar => exact hscalar.elim
  | @list _ _ _ kept hkept =>
    rcases hkept.kept_or_out hentry with ⟨left, hleft, hrest⟩ | hout
    · cases hrest with
      | scalar hscalar => exact hscalar.elim
      | @object _ _ _ rest hmembers =>
        refine ⟨kept, hw, rest, hleft, fun child hc => ?_⟩
        have halike := selected_alike hmembers.alike
          (collect document.fragmentTable child.selections) "name"
        rw [hname child hc] at halike
        exact halike.eq_of_isScalar trivial
    · -- what is left out is concealed by the owner, and that is the type
      obtain ⟨route, hroute, hkind, child, hc, hlist, owner, howner, members, hmembers,
        hconceals⟩ := hout
      obtain rfl := Json.obj.inj hmembers
      have hselected := h.named route hroute hkind
      have hbefore := howner.before fun items hitems => by rw [hselected] at hitems; cases hitems
      rw [owner_of_selected hselected h.name_ne] at hbefore
      rw [← hbefore, hname child ⟨route, hroute, hkind, hc, hlist⟩] at hconceals
      have hheld : registry.isPrivate type member = true := hconceals
      rw [hprivate] at hheld
      cases hheld

/-- A private member is listed no more. -/
theorem not_lists_of_private (h : Listing registry document operationName type member data result
      routes before after key) (hprivate : registry.isPrivate type member = true) :
    ¬ Lists document.fragmentTable routes after key member := by
  rintro ⟨entries, hentries, entry, hentry, hname⟩
  obtain ⟨child, route, hroute, hkind, hc, hlist⟩ := h.selects
  obtain ⟨hmem, rfl⟩ := mem_under.mp hc
  have hbefore : Redaction.owner before (route.children document.fragmentTable) route.literal =
      .str type := owner_of_selected (h.named route hroute hkind) h.name_ne
  have hafter : Redaction.owner after (route.children document.fragmentTable) route.literal =
      .str type := by
    rw [owner_eq_of_alike h.pruned.alike (hbefore ▸ trivial), hbefore]
  have hhidden : hiddenNames registry (Redaction.owner after
      (route.children document.fragmentTable) route.literal) =
        .ok (registry.privateNames type) := by
    rw [hafter, hiddenNames]
  have hmember : member ∈ registry.privateNames type := List.contains_iff_mem.mp hprivate
  have hstays := (h.survives.settled h.redacted).keeps hroute hkind hmem hlist hhidden
    (List.ne_nil_of_mem hmember) hentries _ hentry
  rw [keeps, hname child ⟨route, hroute, hkind, hc, hlist⟩] at hstays
  simp [hmember] at hstays

/-- **Redaction removes exactly the private members** from the descriptors that survive it. -/
theorem lists_iff (h : Listing registry document operationName type member data result routes
      before after key) :
    Lists document.fragmentTable routes after key member ↔
      registry.isPrivate type member = false := by
  constructor
  · intro hlists
    by_contra hprivate
    exact h.not_lists_of_private (Bool.not_eq_false _ ▸ hprivate) hlists
  · exact h.lists_of_not_private

end Listing

theorem removes_of_isPrivate {type member : String}
    (h : registry.isPrivate type member = true) : Removes registry type member :=
  fun _ _ _ _ _ _ _ _ hlisting => hlisting.not_lists_of_private h

end SchemaVisibility.Introspection
