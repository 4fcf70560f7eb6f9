import Mathlib.Logic.Function.Basic
import SchemaVisibility.Proofs.Introspection.Gate
import SchemaVisibility.Proofs.Introspection.Idempotence
import SchemaVisibility.Proofs.Repetition

/-! # Redaction with translated documents

A document is translated when each of its fields has fields that stand for it: they have its name,
they ask for the same type if for any, and they use another response key for each key. What a field
selects is translated too, and what was selected before may be selected again (`Translation`).

The response of a translated document uses other keys throughout. Redaction reads data through
response keys only to find what a field selects, so it takes the same decisions there
(`Translation.walk_eq`), and a field that is selected again finds nothing left to do. Hence
redacting the translated data is translating the redacted data, or both redactions fail, and for the
same reason (`Translates.redact_eq`).
-/

namespace SchemaVisibility

/-! ### Data under other keys -/

namespace Json

mutual

/-- A value with the keys of all objects in it renamed. -/
def rekeyed (r : String → String) : Json → Json
  | .arr items => .arr (rekeyedItems r items)
  | .obj members => .obj (rekeyedMembers r members)
  | value => value

/-- Items with the keys of all objects in them renamed. -/
def rekeyedItems (r : String → String) : List Json → List Json
  | [] => []
  | item :: rest => rekeyed r item :: rekeyedItems r rest

/-- Members with their keys and those of all objects in them renamed. -/
def rekeyedMembers (r : String → String) : List (String × Json) → List (String × Json)
  | [] => []
  | (key, value) :: rest => (r key, rekeyed r value) :: rekeyedMembers r rest

end

variable {r : String → String}

theorem rekeyedItems_eq_map (items : List Json) :
    rekeyedItems r items = items.map (rekeyed r) := by
  induction items with
  | nil => rfl
  | cons item rest ih => rw [rekeyedItems, ih, List.map_cons]

mutual

theorem rekeyed_id : ∀ value : Json, value.rekeyed id = value
  | .null | .bool _ | .int _ | .decimal _ | .str _ => rfl
  | .arr items => congrArg Json.arr (rekeyedItems_id items)
  | .obj members => congrArg Json.obj (rekeyedMembers_id members)

theorem rekeyedItems_id : ∀ items : List Json, rekeyedItems id items = items
  | [] => rfl
  | item :: rest => congrArg₂ List.cons (rekeyed_id item) (rekeyedItems_id rest)

theorem rekeyedMembers_id : ∀ members : List (String × Json), rekeyedMembers id members = members
  | [] => rfl
  | (key, value) :: rest =>
    congrArg₂ (fun value rest => (key, value) :: rest) (rekeyed_id value) (rekeyedMembers_id rest)

end

mutual

theorem depth_rekeyed : ∀ value : Json, (value.rekeyed r).depth = value.depth
  | .null | .bool _ | .int _ | .decimal _ | .str _ => rfl
  | .arr items => congrArg Nat.succ (depthItems_rekeyedItems items)
  | .obj members => congrArg Nat.succ (depthMembers_rekeyedMembers members)

theorem depthItems_rekeyedItems : ∀ items : List Json,
    depthItems (rekeyedItems r items) = depthItems items
  | [] => rfl
  | item :: rest => congrArg₂ max (depth_rekeyed item) (depthItems_rekeyedItems rest)

theorem depthMembers_rekeyedMembers : ∀ members : List (String × Json),
    depthMembers (rekeyedMembers r members) = depthMembers members
  | [] => rfl
  | (_, value) :: rest => congrArg₂ max (depth_rekeyed value) (depthMembers_rekeyedMembers rest)

end

theorem truthy_rekeyed (value : Json) : (value.rekeyed r).truthy = value.truthy := by
  cases value with
  | arr items => cases items <;> rfl
  | obj members => cases members <;> rfl
  | _ => rfl

theorem get?_rekeyedMembers (hr : Function.Injective r) (members : Table Json) (key : String) :
    Table.get? (rekeyedMembers r members) (r key) = (members.get? key).map (rekeyed r) := by
  induction members with
  | nil => rfl
  | cons entry rest ih =>
    obtain ⟨k, v⟩ := entry
    simp only [rekeyedMembers, Table.get?, hr.eq_iff, ih]
    split <;> rfl

theorem insert_rekeyedMembers (hr : Function.Injective r) (members : Table Json) (key : String)
    (value : Json) :
    Table.insert (rekeyedMembers r members) (r key) (value.rekeyed r) =
      rekeyedMembers r (members.insert key value) := by
  induction members with
  | nil => rfl
  | cons entry rest ih =>
    obtain ⟨k, v⟩ := entry
    simp only [rekeyedMembers, Table.insert, hr.eq_iff, ih]
    split <;> rfl

end Json

namespace Introspection

open GraphQL Redaction Fallible Table

/-! ### Translated fields -/

/-- **A translation of fields.** What stands for a field gives what the field gives, under another
key. What it selects stands for what the field selects, in the same order, perhaps with
repetitions. -/
structure Translation (r : String → String) (fragments others : Fragments)
    (stands : Field → Field → Prop) : Prop where
  responseKey {field other : Field} : stands field other →
    other.responseKey = r field.responseKey
  name {field other : Field} : stands field other → other.name = field.name
  literal {field other : Field} : stands field other →
    literalTypeName? other = literalTypeName? field
  children {field other : Field} : stands field other →
    Repeats stands [] (collect fragments field.selections) (collect others other.selections)

section Translation

variable {registry : Registry} {r : String → String} {fragments others : Fragments}
  {stands : Field → Field → Prop} {children translated : List Field}

theorem Translation.rootKind?_eq (h : Translation r fragments others stands) {field other : Field}
    (hstands : stands field other) : rootKind? other = rootKind? field := by
  rw [rootKind?, rootKind?, h.name hstands]

/-! ### Names -/

theorem present_rekeyed (hr : Function.Injective r) {object : Table Json} {child other : Field}
    (hkey : other.responseKey = r child.responseKey) :
    present (Json.rekeyedMembers r object) other = (present object child).map (Json.rekeyed r) := by
  rw [present, present, hkey, Json.get?_rekeyedMembers hr]
  cases object.get? child.responseKey with
  | none => rfl
  | some value => cases value <;> rfl

/-- Translated fields find what the fields find, those that come again nothing new. -/
theorem Translation.find_eq (h : Translation r fragments others stands)
    (hr : Function.Injective r) {seen : List Field}
    (hchildren : Repeats stands seen children translated) {object : Table Json} {name : String}
    (hseen : ∀ child ∈ seen, child.name = name → present object child = none) :
    (translated.filter fun child => child.name = name).findSome?
        (present (Json.rekeyedMembers r object)) =
      ((children.filter fun child => child.name = name).findSome? (present object)).map
        (Json.rekeyed r) := by
  induction hchildren with
  | nil => rfl
  | @first _ _ _ a b hab _ ih =>
    by_cases hname : a.name = name
    · rw [List.filter_cons_of_pos (by simpa [h.name hab] using hname),
        List.filter_cons_of_pos (by simpa using hname), List.findSome?_cons, List.findSome?_cons,
        present_rekeyed hr (h.responseKey hab)]
      cases ha : present object a with
      | some value => rfl
      | none => exact ih (List.forall_mem_cons.mpr ⟨fun _ => ha, hseen⟩)
    · rw [List.filter_cons_of_neg (by simpa [h.name hab] using hname),
        List.filter_cons_of_neg (by simpa using hname)]
      exact ih (List.forall_mem_cons.mpr ⟨fun heq => absurd heq hname, hseen⟩)
  | @again _ _ _ a b ha hab _ ih =>
    by_cases hname : a.name = name
    · rw [List.filter_cons_of_pos (by simpa [h.name hab] using hname), List.findSome?_cons,
        present_rekeyed hr (h.responseKey hab), hseen a ha hname]
      exact ih hseen
    · rw [List.filter_cons_of_neg (by simpa [h.name hab] using hname)]
      exact ih hseen

theorem Translation.selected_eq (h : Translation r fragments others stands)
    (hr : Function.Injective r) (hchildren : Repeats stands [] children translated)
    (object : Table Json) (name : String) :
    selected (Json.rekeyedMembers r object) translated name =
      (selected object children name).rekeyed r := by
  rw [Introspection.selected_eq, Introspection.selected_eq,
    h.find_eq hr hchildren fun _ ha => absurd ha List.not_mem_nil]
  cases (children.filter fun child => child.name = name).findSome? (present object) <;> rfl

theorem Translation.owner_eq (h : Translation r fragments others stands)
    (hr : Function.Injective r) (hchildren : Repeats stands [] children translated)
    (object : Table Json) (literal : Option String) :
    Redaction.owner (Json.rekeyedMembers r object) translated literal =
      (Redaction.owner object children literal).rekeyed r := by
  rw [Redaction.owner, Redaction.owner, h.selected_eq hr hchildren, Json.truthy_rekeyed]
  split
  · rfl
  · cases literal <;> rfl

theorem hiddenNames_rekeyed (owner : Json) :
    hiddenNames registry (owner.rekeyed r) = hiddenNames registry owner := by
  cases owner <;> rfl

/-! ### Filtering -/

theorem Translation.keeps_eq (h : Translation r fragments others stands)
    (hr : Function.Injective r) (hchildren : Repeats stands [] children translated)
    (hidden : List String) (entry : Json) :
    keeps hidden translated (entry.rekeyed r) = keeps hidden children entry := by
  cases entry with
  | obj members =>
    rw [Json.rekeyed, keeps, keeps, h.selected_eq hr hchildren]
    cases selected members children "name" <;> rfl
  | _ => rfl

theorem Translation.keptEntries_eq (h : Translation r fragments others stands)
    (hr : Function.Injective r) (hchildren : Repeats stands [] children translated)
    (hidden : List String) (entries : List Json) :
    keptEntries hidden translated (Json.rekeyedItems r entries) =
      (keptEntries hidden children entries).map (Json.rekeyedItems r) := by
  induction entries with
  | nil => rfl
  | cons entry rest ih =>
    rw [Json.rekeyedItems, keptEntries, keptEntries, h.keeps_eq hr hchildren, ih]
    cases keeps hidden children entry with
    | error failure => rfl
    | ok stays =>
      cases keptEntries hidden children rest with
      | error failure => rfl
      | ok kept => cases stays <;> rfl

theorem Translation.filterMembers_eq (h : Translation r fragments others stands)
    (hr : Function.Injective r) (hidden : List String) {child other : Field}
    (hstands : stands child other) (object : Table Json) :
    filterMembers others hidden (Json.rekeyedMembers r object) other =
      (filterMembers fragments hidden object child).map (Json.rekeyedMembers r) := by
  rw [filterMembers, filterMembers, h.name hstands, h.responseKey hstands,
    Json.get?_rekeyedMembers hr]
  split
  · cases hvalue : object.get? child.responseKey with
    | none => rfl
    | some value =>
      cases value with
      | arr entries =>
        have hkept := h.keptEntries_eq hr (h.children hstands) hidden entries
        simp only [Option.map_some, Json.rekeyed, hkept]
        cases keptEntries hidden (collect fragments child.selections) entries with
        | error failure => rfl
        | ok kept => exact congrArg Except.ok (Json.insert_rekeyedMembers hr object _ (.arr kept))
      | _ => rfl
  · rfl

theorem Translation.opened_eq (h : Translation r fragments others stands)
    (hr : Function.Injective r) {literal : Option String} {kind : Kind} {field other : Field}
    (hstands : stands field other) (object : Table Json) :
    opened registry others literal kind other (Json.rekeyedMembers r object) =
      (opened registry fragments literal kind field object).map (Json.rekeyedMembers r) := by
  rw [opened, opened]
  split
  · rw [descriptor, descriptor, h.owner_eq hr (h.children hstands), hiddenNames_rekeyed]
    cases hiddenNames registry
        (Redaction.owner object (collect fragments field.selections) literal) with
    | error failure => rfl
    | ok hidden =>
      rw [ok_bind, ok_bind]
      split
      · rfl
      · exact (h.children hstands).foldlM_eq
          (fun child other object hab => h.filterMembers_eq hr hidden hab object)
          TrimmedMembers.refl (fun _ _ _ => TrimmedMembers.trans)
          (fun _ _ _ => filterMembers_trimmed) (fun _ _ _ _ => filterMembers_rests) object
  · rfl

/-! ### Walking -/

/-- A step into a translated child is the step into the child, if their walks are. -/
theorem Translation.stepInto_eq (h : Translation r fragments others stands)
    (hr : Function.Injective r) {lead : Field → Option Kind}
    {go go' : Field → Kind → Json → Except Failure Json} {child other : Field}
    (hstands : stands child other) (hlead : lead other = lead child)
    (hgo : ∀ next v, go' other next (v.rekeyed r) = (go child next v).map (Json.rekeyed r))
    (object : Table Json) :
    stepInto lead go' (Json.rekeyedMembers r object) other =
      (stepInto lead go object child).map (Json.rekeyedMembers r) := by
  rw [stepInto, stepInto, hlead, h.responseKey hstands, Json.get?_rekeyedMembers hr]
  cases lead child with
  | none => rfl
  | some next =>
    cases object.get? child.responseKey with
    | none => rfl
    | some v =>
      simp only [Option.map_some, hgo]
      cases go child next v with
      | error failure => rfl
      | ok w => exact congrArg Except.ok (Json.insert_rekeyedMembers hr object _ w)

theorem Translation.visited_eq (h : Translation r fragments others stands)
    (hr : Function.Injective r) {n : Nat} {kind : Kind} {field other : Field}
    (hstands : stands field other)
    (hwalk : ∀ next child other, stands child other → ∀ v : Json,
      walk registry others n none next other (v.rekeyed r) =
        (walk registry fragments n none next child v).map (Json.rekeyed r))
    (object : Table Json) :
    visited registry others n kind other (Json.rekeyedMembers r object) =
      (visited registry fragments n kind field object).map (Json.rekeyedMembers r) := by
  have hvisit : ∀ child other object, stands child other →
      visit (walk registry others n none) kind (Json.rekeyedMembers r object) other =
        (visit (walk registry fragments n none) kind object child).map (Json.rekeyedMembers r) := by
    intro child other object hab
    by_cases hkind : kind = .leaf
    · subst hkind
      rfl
    · rw [visit_eq_stepInto _ hkind, visit_eq_stepInto _ hkind]
      exact h.stepInto_eq hr hab (by rw [h.name hab])
        (fun next => hwalk next child other hab) object
  exact (h.children hstands).foldlM_eq hvisit TrimmedMembers.refl
    (fun _ _ _ => TrimmedMembers.trans) (fun _ _ _ => visit_trimmed)
    (fun _ _ _ _ => visit_rests fun _ _ _ _ => walk_rests n) object

/-- **A walk along a translated field** is the walk along the field. -/
theorem Translation.walk_eq (h : Translation r fragments others stands)
    (hr : Function.Injective r) : ∀ (n : Nat) {literal : Option String} {kind : Kind}
    {field other : Field}, stands field other → ∀ v : Json,
    walk registry others n literal kind other (v.rekeyed r) =
      (walk registry fragments n literal kind field v).map (Json.rekeyed r) := by
  intro n
  induction n with
  | zero => intro literal kind field other _ v; rfl
  | succ n ih =>
    intro literal kind field other hstands v
    cases v with
    | arr items =>
      rw [Json.rekeyed, Json.rekeyedItems_eq_map, walk_arr, walk_arr,
        mapM_translated (ih hstands) items]
      cases items.mapM (walk registry fragments n literal kind field) with
      | error failure => rfl
      | ok results => exact congrArg (Except.ok ∘ Json.arr) (Json.rekeyedItems_eq_map results).symm
    | obj object =>
      rw [Json.rekeyed, walk_obj, walk_obj, h.opened_eq hr hstands]
      cases opened registry fragments literal kind field object with
      | error failure => rfl
      | ok first =>
        have hvisited : visited registry others n kind other (Json.rekeyedMembers r first) =
            (visited registry fragments n kind field first).map (Json.rekeyedMembers r) :=
          h.visited_eq hr hstands (fun _ _ _ => ih) first
        rw [Except.map, ok_bind, ok_bind, hvisited]
        cases visited registry fragments n kind field first <;> rfl
    | _ => rfl

end Translation

/-! ### Whole documents -/

end Introspection

namespace GraphQL

/-- A definition with what a map makes of its selections. -/
def Definition.mapSelections (f : List Selection → List Selection) : Definition → Definition
  | .operation op => .operation { op with selections := f op.selections }
  | .fragment named => .fragment { named with selections := f named.selections }
  | definition => definition

/-- A document with what a map makes of the selections of its operations and fragments. -/
def Document.mapSelections (f : List Selection → List Selection) (document : Document) : Document :=
  ⟨document.definitions.map (Definition.mapSelections f)⟩

theorem operations_mapSelections (f : List Selection → List Selection) (document : Document) :
    (document.mapSelections f).operations =
      document.operations.map fun op => { op with selections := f op.selections } := by
  rw [Document.operations, Document.mapSelections, List.filterMap_map, Document.operations,
    List.map_filterMap]
  refine List.filterMap_congr fun definition _ => ?_
  cases definition <;> rfl

theorem fragments_mapSelections (f : List Selection → List Selection) (document : Document) :
    (document.mapSelections f).fragments =
      document.fragments.map fun named => { named with selections := f named.selections } := by
  rw [Document.fragments, Document.mapSelections, List.filterMap_map, Document.fragments,
    List.map_filterMap]
  refine List.filterMap_congr fun definition _ => ?_
  cases definition <;> rfl

end GraphQL

namespace Introspection

open GraphQL Redaction Fallible Table

/-- Whether the operations of a document are translated into those of another. -/
structure Translates (r : String → String) (stands : Field → Field → Prop)
    (document other : Document) : Prop where
  fields : Translation r document.fragmentTable other.fragmentTable stands
  operations : List.Forall₂ (fun a b => a.name = b.name ∧
      Repeats stands [] (collect document.fragmentTable a.selections)
        (collect other.fragmentTable b.selections))
    document.operations other.operations

namespace Translates

variable {r : String → String} {stands : Field → Field → Prop} {document other : Document}

theorem mapSelections {f : List Selection → List Selection}
    (hfields : Translation r document.fragmentTable (document.mapSelections f).fragmentTable stands)
    (hcollect : ∀ op ∈ document.operations,
      Repeats stands [] (collect document.fragmentTable op.selections)
        (collect (document.mapSelections f).fragmentTable (f op.selections))) :
    Translates r stands document (document.mapSelections f) where
  fields := hfields
  operations := by
    rw [operations_mapSelections, List.forall₂_map_right_iff, List.forall₂_same]
    exact fun op hop => ⟨rfl, hcollect op hop⟩

theorem rootSelection (h : Translates r stands document other) (operationName : Option String) :
    Repeats stands [] (rootSelection document operationName)
      (Introspection.rootSelection other operationName) := by
  rw [Introspection.rootSelection, Introspection.rootSelection]
  rcases selectedOperation?_cases h.operations operationName with
    ⟨ha, hb⟩ | ⟨a, b, ha, hb, hab⟩
  · rw [ha, hb]
    exact .nil
  · rw [ha, hb]
    exact hab

/-- **Redacting translated data with a translated document** gives the translated result, or fails
for the same reason. -/
theorem redact_eq (h : Translates r stands document other) (hr : Function.Injective r)
    (registry : Registry) (operationName : Option String) (data : Json) :
    redact registry other operationName (data.rekeyed r) =
      (redact registry document operationName data).map (Json.rekeyed r) := by
  have hroots := h.rootSelection operationName
  by_cases hdata : ∃ members, data = .obj members
  · obtain ⟨members, rfl⟩ := hdata
    have hdepth : (Json.obj (Json.rekeyedMembers r members)).depth ≤ (Json.obj members).depth :=
      Nat.le_of_eq (Json.depth_rekeyed (.obj members))
    have hstep : ∀ field field' object, stands field field' →
        stepInto rootKind? (fun c next => walk registry other.fragmentTable
            (Json.obj members).depth (literalTypeName? c) next c)
          (Json.rekeyedMembers r object) field' =
        (stepInto rootKind? (fun c next => walk registry document.fragmentTable
          (Json.obj members).depth (literalTypeName? c) next c) object field).map
          (Json.rekeyedMembers r) :=
      fun field field' object hab => h.fields.stepInto_eq hr hab (h.fields.rootKind?_eq hab)
        (fun next v => by rw [h.fields.literal hab, h.fields.walk_eq hr _ hab]) object
    have hfold := hroots.foldlM_eq hstep TrimmedMembers.refl (fun _ _ _ => TrimmedMembers.trans)
      (fun _ _ _ => rootStep_trimmed)
      (fun _ _ _ _ hrun hlast => stepInto_rests (fun _ _ _ _ _ => walk_rests _) hrun
        (trimmedMembers_iff.mp hlast)) members
    rw [Json.rekeyed, redact_obj_eq hdepth, redact_obj_eq (Nat.le_refl _), foldlM_root_obj,
      foldlM_root_obj, hfold]
    cases (Introspection.rootSelection document operationName).foldlM (stepInto rootKind?
      fun c next => walk registry document.fragmentTable (Json.obj members).depth
        (literalTypeName? c) next c) members <;> rfl
  · have hne : ∀ members, data ≠ .obj members := fun members hmembers => hdata ⟨members, hmembers⟩
    have hne' : ∀ members, data.rekeyed r ≠ .obj members := by
      intro members hmembers
      cases data with
      | obj members => exact hne members rfl
      | _ => cases hmembers
    have hany := hroots.any_eq (p := fun field => (rootKind? field).isSome)
      (q := fun field => (rootKind? field).isSome)
      (fun a b hab => by rw [h.fields.rootKind?_eq hab])
    simp only [redact_of_not_obj_eq hne, redact_of_not_obj_eq hne', Json.truthy_rekeyed,
      ← List.any_eq_true, hany]
    split <;> rfl

theorem selectsIntrospection_eq (h : Translates r stands document other) :
    selectsIntrospection other = selectsIntrospection document := by
  rw [selectsIntrospection, selectsIntrospection]
  refine (Repeats.of_forall₂ h.operations).any_eq fun a b hab => ?_
  exact hab.2.any_eq fun field other hstands => by rw [h.fields.rootKind?_eq hstands]

end Translates

end Introspection

end SchemaVisibility
