import SchemaVisibility.Proofs.Introspection.Criterion

/-! # Agreement up to private members

Two results agree for the fields that are still to be walked if the second is the first without
private members in the lists that these fields lead to. Results that agree for no fields at all are
equal (`Agree.eq_of_nil`), and objects that agree have the same names (`get?_name_eq`).

Agreement is stated for a bound on the depth, the one that the walk itself has.
-/

namespace SchemaVisibility.Introspection

open GraphQL Redaction Table

/-! ### Agreement -/

/-- Entries of a list may be left out where they have a property. -/
inductive Drops (P : Json → Prop) : List Json → List Json → Prop
  | nil : Drops P [] []
  | drop {entry : Json} {more less : List Json} : P entry → Drops P more less →
      Drops P (entry :: more) less
  | keep {entry : Json} {more less : List Json} : Drops P more less →
      Drops P (entry :: more) (entry :: less)

/-- An object that stands for a private member of `owner`: all that it gives as its name, under the
keys of the children, is the name of one. -/
def Secret (registry : Registry) (children : List Field) (owner : Option String) : Json → Prop
  | .obj object => ∃ type name, owner = some type ∧ registry.isPrivate type name = true ∧
      ∀ child ∈ children, child.name = "name" → ∀ v, Table.get? object child.responseKey = some v →
        v = .null ∨ v = .str name
  | _ => False

/-- Agreement once some private members of `owner` are left out. -/
def Thinned (registry : Registry) (fragments : Fragments) (owner : Option String)
    (R : List Field → Kind → Json → Json → Prop) (fields : List Field) (kind : Kind)
    (v w : Json) : Prop :=
  R fields kind v w ∨ ∃ more less, v = .arr more ∧
    Drops (Secret registry (childrenOf fragments fields) owner) more less ∧
    R fields kind (.arr less) w

/-- What has to hold of the members of two objects at a position: below lists of a type's members
private ones may be missing. -/
def memberCriterion (registry : Registry) (fragments : Fragments) (owner : Option String)
    (kind : Kind) (thin : Field → Prop) (R : List Field → Kind → Json → Json → Prop) :
    Criterion where
  lead child := kind.next? child.name
  agree _ := R
  thin child := kind = .type ∧ child.name ∈ memberLists ∧ thin child
  thinned := Thinned registry fragments owner R
  name v := v = .null ∨ ∃ text, v = .str text ∧ (kind = .type → owner = some text)

/-- What is known of an object at a position: its keys differ, each means one field, and where it
describes a type it can only be the one that operations ask for by name. -/
structure Placed (fragments : Fragments) (literals : List String) (fields : List Field)
    (kind : Kind) (owner : Option String) (object : Table Json) : Prop where
  kind_ne : kind ≠ .leaf
  coherent : Coherent (childrenOf fragments fields)
  nodup : object.keys.Nodup
  owner_ne : kind = .type → owner ≠ some Record.topLevel
  literal : kind = .type → ∀ literal ∈ literals, owner = some literal

/-- **Agreement of two results** for the fields that are still to be walked. -/
def Agree (registry : Registry) (fragments : Fragments) :
    Nat → List String → List Field → Kind → Json → Json → Prop
  | n + 1, literals, fields, kind, .arr as, .arr bs =>
    (as = bs ∧ ∀ item ∈ as, IsScalar item) ∨ (kind ≠ .leaf ∧
      List.Forall₂ (Agree registry fragments n literals fields kind) as bs)
  | n + 1, literals, fields, kind, .obj a, .obj b =>
    ∃ owner, Placed fragments literals fields kind owner a ∧
      Aligned ((memberCriterion registry fragments owner kind (fun _ => True)
        (Agree registry fragments n [])).Holds (childrenOf fragments fields)) a b
  | _, _, _, _, v, w => v = w ∧ IsScalar v

variable {registry : Registry} {fragments : Fragments}

theorem agree_scalar {n : Nat} {literals : List String} {fields : List Field} {kind : Kind}
    {v : Json} (h : IsScalar v) : Agree registry fragments n literals fields kind v v := by
  cases n <;> cases v <;> first | exact ⟨rfl, h⟩ | exact h.elim

/-- The shapes of results that agree. -/
theorem Agree.cases {n : Nat} {literals : List String} {fields : List Field} {kind : Kind}
    {v w : Json} (h : Agree registry fragments n literals fields kind v w) :
    (v = w ∧ IsScalar v) ∨
    (∃ m as bs, n = m + 1 ∧ v = .arr as ∧ w = .arr bs ∧
      ((as = bs ∧ ∀ item ∈ as, IsScalar item) ∨ (kind ≠ .leaf ∧
        List.Forall₂ (Agree registry fragments m literals fields kind) as bs))) ∨
    ∃ m a b owner, n = m + 1 ∧ v = .obj a ∧ w = .obj b ∧
      Placed fragments literals fields kind owner a ∧
      Aligned ((memberCriterion registry fragments owner kind (fun _ => True)
        (Agree registry fragments m [])).Holds (childrenOf fragments fields)) a b := by
  cases n with
  | zero => exact Or.inl h
  | succ m =>
    cases v with
    | arr as =>
      cases w with
      | arr bs => exact Or.inr (Or.inl ⟨m, as, bs, rfl, rfl, rfl, h⟩)
      | _ => exact h.2.elim
    | obj a =>
      cases w with
      | obj b =>
        obtain ⟨owner, h⟩ := h
        exact Or.inr (Or.inr ⟨m, a, b, owner, rfl, rfl, rfl, h⟩)
      | _ => exact h.2.elim
    | _ => exact Or.inl h

/-- Where nothing leads on, results that agree are equal. -/
theorem Agree.eq_of_leaf {n : Nat} {literals : List String} {fields : List Field} {v w : Json}
    (h : Agree registry fragments n literals fields .leaf v w) : v = w := by
  rcases h.cases with ⟨rfl, -⟩ | ⟨m, as, bs, -, rfl, rfl, ⟨rfl, -⟩ | ⟨hne, -⟩⟩ |
    ⟨m, a, b, owner, -, -, -, hp, -⟩
  · rfl
  · rfl
  · exact absurd rfl hne
  · exact absurd rfl hp.kind_ne

/-- **Results that agree for no fields are equal.** -/
theorem Agree.eq_of_nil {n : Nat} : ∀ {literals : List String} {kind : Kind} {v w : Json},
    Agree registry fragments n literals [] kind v w → v = w := by
  induction n with
  | zero => intro literals kind v w h; exact h.1
  | succ n ih =>
    intro literals kind v w h
    rcases h.cases with ⟨rfl, -⟩ | ⟨m, as, bs, hm, rfl, rfl, hitems⟩ |
      ⟨m, a, b, owner, hm, rfl, rfl, -, hmembers⟩
    · rfl
    · cases hm
      rcases hitems with ⟨rfl, -⟩ | ⟨-, hitems⟩
      · rfl
      · have heq : List.Forall₂ (· = ·) as bs := hitems.imp fun _ _ => ih
        rw [List.forall₂_eq_eq_eq] at heq
        rw [heq]
    · exact congrArg Json.obj (hmembers.eq_of_eq fun key v w hold =>
        hold.same fun child hc => nomatch (mem_under.mp hc).1)

theorem next?_name (kind : Kind) : kind.next? "name" = none ∨ kind.next? "name" = some .leaf := by
  cases kind <;> decide

theorem name_not_memberList : "name" ∉ memberLists := by decide

/-! ### Names -/

/-- The value that a child finds in an object, unless it is `null`. -/
def present (object : Table Json) (child : Field) : Option Json :=
  match object.get? child.responseKey with
  | none | some .null => none
  | some value => some value

theorem selected_eq (object : Table Json) (children : List Field) (name : String) :
    selected object children name =
      ((children.filter fun child => child.name = name).findSome? (present object)).getD .null :=
  rfl

theorem get?_of_present {object : Table Json} {child : Field} {v : Json}
    (h : present object child = some v) : object.get? child.responseKey = some v := by
  rw [present] at h
  split at h
  · cases h
  · cases h
  · next hget => exact hget.trans h

/-- What holds of `null` and of every member that a name selects holds of the selected name. -/
theorem selected_of {object : Table Json} {children : List Field} {name : String}
    {P : Json → Prop} (hnull : P .null)
    (h : ∀ child ∈ children, child.name = name → ∀ v,
      object.get? child.responseKey = some v → P v) :
    P (selected object children name) := by
  rw [selected_eq]
  cases hs : (children.filter fun child => child.name = name).findSome? (present object) with
  | none => exact hnull
  | some v =>
    obtain ⟨child, hc, hv⟩ := List.exists_of_findSome?_eq_some hs
    obtain ⟨hc, hname⟩ := List.mem_filter.mp hc
    exact h child hc (by simpa using hname) v (get?_of_present hv)

theorem selected_congr {a b : Table Json} {children : List Field} {name : String}
    (h : ∀ child ∈ children, child.name = name →
      a.get? child.responseKey = b.get? child.responseKey) :
    selected a children name = selected b children name := by
  have hfind : ∀ fields : List Field,
      (∀ child ∈ fields, a.get? child.responseKey = b.get? child.responseKey) →
      fields.findSome? (present a) = fields.findSome? (present b) := by
    intro fields
    induction fields with
    | nil => intro _; rfl
    | cons child rest ih =>
      intro hf
      have hchild : present a child = present b child := by
        rw [present, present, hf child List.mem_cons_self]
      rw [List.findSome?_cons, List.findSome?_cons, hchild,
        ih fun other ho => hf other (List.mem_cons_of_mem _ ho)]
  rw [selected_eq, selected_eq, hfind]
  intro child hc
  obtain ⟨hc, hname⟩ := List.mem_filter.mp hc
  exact h child hc (by simpa using hname)

section Members

variable {n : Nat} {literals : List String} {fields : List Field} {kind : Kind}
  {owner : Option String} {thin : Field → Prop} {a b : Table Json}

/-- Objects that agree have the same names. -/
theorem get?_name_eq (hp : Placed fragments literals fields kind owner a)
    (h : Aligned ((memberCriterion registry fragments owner kind thin
      (Agree registry fragments n [])).Holds (childrenOf fragments fields)) a b)
    {child : Field} (hc : child ∈ childrenOf fragments fields) (hname : child.name = "name") :
    a.get? child.responseKey = b.get? child.responseKey := by
  rcases h.get?_cases child.responseKey with ⟨hv, hw⟩ | ⟨v, w, hv, hw, hold⟩
  · rw [hv, hw]
  · rw [hv, hw]
    have hself := mem_under.mpr ⟨hc, rfl⟩
    rcases next?_name kind with hnone | hleaf
    · refine congrArg some (hold.same fun other ho => ?_)
      obtain ⟨ho, hkey⟩ := mem_under.mp ho
      show kind.next? other.name = none
      rw [hp.coherent other ho child hc hkey, hname, hnone]
    · refine congrArg some (Agree.eq_of_leaf (hold.agrees child hself .leaf ?_ ?_))
      · show kind.next? child.name = some .leaf
        rw [hname, hleaf]
      · rintro ⟨-, hlist, -⟩
        exact name_not_memberList (hname ▸ hlist)

theorem name_of_get? (h : Aligned ((memberCriterion registry fragments owner kind thin
      (Agree registry fragments n [])).Holds (childrenOf fragments fields)) a b)
    {child : Field} (hc : child ∈ childrenOf fragments fields) (hname : child.name = "name")
    {v : Json} (hv : a.get? child.responseKey = some v) :
    v = .null ∨ ∃ text, v = .str text ∧ (kind = .type → owner = some text) := by
  rcases h.get?_cases child.responseKey with ⟨hnone, -⟩ | ⟨v', w, hv', -, hold⟩
  · rw [hnone] at hv
    cases hv
  · rw [hv, Option.some.injEq] at hv'
    subst hv'
    exact hold.named child (mem_under.mpr ⟨hc, rfl⟩) hname

end Members

end SchemaVisibility.Introspection
