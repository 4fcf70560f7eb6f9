import SchemaVisibility.Proofs.Introspection.Walking

/-! # Trimmed values

A `Trimmed` value is a value but for entries of its lists, whichever and wherever: what is no list
and no object is the same, and objects have the same names in the same order. This is an order
(`Trimmed.trans`, `Trimmed.antisymm`), and it keeps what decides over a redaction. A name that is
read from an object is read from the trimmed object just so (`owner_eq_of_alike`).
-/

namespace SchemaVisibility.Introspection

open GraphQL Redaction Table

mutual

/-- **A trimmed value.** Any list may lack any of its entries, and nothing else is missing. -/
inductive Trimmed : Json → Json → Prop
  | scalar {v : Json} : IsScalar v → Trimmed v v
  | list {items kept : List Json} : TrimmedItems items kept → Trimmed (.arr items) (.arr kept)
  | object {before after : Table Json} : TrimmedMembers before after →
      Trimmed (.obj before) (.obj after)

/-- The items of a list without some of them, each trimmed. -/
inductive TrimmedItems : List Json → List Json → Prop
  | nil : TrimmedItems [] []
  | keep {v w : Json} {items kept : List Json} : Trimmed v w → TrimmedItems items kept →
      TrimmedItems (v :: items) (w :: kept)
  | drop {v : Json} {items kept : List Json} : TrimmedItems items kept →
      TrimmedItems (v :: items) kept

/-- The members of an object, each trimmed. -/
inductive TrimmedMembers : Table Json → Table Json → Prop
  | nil : TrimmedMembers [] []
  | cons {key : String} {v w : Json} {before after : Table Json} : Trimmed v w →
      TrimmedMembers before after → TrimmedMembers ((key, v) :: before) ((key, w) :: after)

end

theorem trimmedMembers_iff {before after : Table Json} :
    TrimmedMembers before after ↔ Aligned (fun _ => Trimmed) before after := by
  constructor
  · induction before generalizing after with
    | nil => intro h; cases h; exact .nil
    | cons entry rest ih =>
      intro h
      cases h with
      | cons hv hrest => exact .cons ⟨rfl, hv⟩ (ih hrest)
  · intro h
    induction h with
    | nil => exact .nil
    | @cons a b _ _ hab _ ih =>
      obtain ⟨key, v⟩ := a
      obtain ⟨other, w⟩ := b
      obtain ⟨rfl, hv⟩ := hab
      exact .cons hv ih

/-- What is left in a trimmed list was there before, if perhaps less trimmed. -/
theorem TrimmedItems.exists_mem {items kept : List Json} (h : TrimmedItems items kept) {w : Json}
    (hw : w ∈ kept) : ∃ v ∈ items, Trimmed v w := by
  induction items generalizing kept with
  | nil => cases h; cases hw
  | cons v rest ih =>
    cases h with
    | keep hv hrest =>
      rcases List.mem_cons.mp hw with rfl | hw
      · exact ⟨v, List.mem_cons_self, hv⟩
      · obtain ⟨u, hu, huw⟩ := ih hrest hw
        exact ⟨u, List.mem_cons_of_mem v hu, huw⟩
    | drop hrest =>
      obtain ⟨u, hu, huw⟩ := ih hrest hw
      exact ⟨u, List.mem_cons_of_mem v hu, huw⟩

/-! ### An order -/

mutual

theorem Trimmed.refl : ∀ v : Json, Trimmed v v
  | .null | .bool _ | .int _ | .decimal _ | .str _ => .scalar trivial
  | .arr items => .list (TrimmedItems.refl items)
  | .obj members => .object (TrimmedMembers.refl members)

theorem TrimmedItems.refl : ∀ items : List Json, TrimmedItems items items
  | [] => .nil
  | v :: rest => .keep (Trimmed.refl v) (TrimmedItems.refl rest)

theorem TrimmedMembers.refl : ∀ members : List (String × Json), TrimmedMembers members members
  | [] => .nil
  | (_, v) :: rest => .cons (Trimmed.refl v) (TrimmedMembers.refl rest)

end

mutual

theorem Trimmed.trans {u v w : Json} (h : Trimmed u v) (g : Trimmed v w) : Trimmed u w :=
  match h, g with
  | .scalar hscalar, .scalar _ => .scalar hscalar
  | .list hitems, .list hkept => .list (hitems.trans hkept)
  | .object hmembers, .object hrest => .object (hmembers.trans hrest)

theorem TrimmedItems.trans {items kept rest : List Json} (h : TrimmedItems items kept)
    (g : TrimmedItems kept rest) : TrimmedItems items rest :=
  match h, g with
  | .nil, .nil => .nil
  | .keep hv hitems, .keep hw hkept => .keep (hv.trans hw) (hitems.trans hkept)
  | .keep _ hitems, .drop hkept => .drop (hitems.trans hkept)
  | .drop hitems, g => .drop (hitems.trans g)

theorem TrimmedMembers.trans {a b c : Table Json} (h : TrimmedMembers a b)
    (g : TrimmedMembers b c) : TrimmedMembers a c :=
  match h, g with
  | .nil, .nil => .nil
  | .cons hv hrest, .cons hw hmore => .cons (hv.trans hw) (hrest.trans hmore)

end

mutual

/-- Trimming changes nothing or makes a value smaller. -/
theorem Trimmed.eq_or_lt {v w : Json} (h : Trimmed v w) : v = w ∨ sizeOf w < sizeOf v :=
  match h with
  | .scalar _ => Or.inl rfl
  | .list hitems => by
    refine hitems.eq_or_lt.imp (congrArg Json.arr) fun hlt => ?_
    simpa using hlt
  | .object hmembers => by
    refine hmembers.eq_or_lt.imp (congrArg Json.obj) fun hlt => ?_
    simpa using hlt

theorem TrimmedItems.eq_or_lt {items kept : List Json} (h : TrimmedItems items kept) :
    items = kept ∨ sizeOf kept < sizeOf items :=
  match h with
  | .nil => Or.inl rfl
  | .keep hv hrest => by
    simp only [List.cons.injEq, List.cons.sizeOf_spec]
    rcases hv.eq_or_lt with rfl | hv <;> rcases hrest.eq_or_lt with rfl | hrest
    · exact Or.inl ⟨rfl, rfl⟩
    all_goals exact Or.inr (by omega)
  | .drop hrest => by
    rw [List.cons.sizeOf_spec]
    rcases hrest.eq_or_lt with rfl | hrest <;> exact Or.inr (by omega)

theorem TrimmedMembers.eq_or_lt {a b : Table Json} (h : TrimmedMembers a b) :
    a = b ∨ sizeOf b < sizeOf a :=
  match h with
  | .nil => Or.inl rfl
  | .cons hv hrest => by
    simp only [List.cons.injEq, Prod.mk.injEq, true_and, List.cons.sizeOf_spec,
      Prod.mk.sizeOf_spec]
    rcases hv.eq_or_lt with rfl | hv <;> rcases hrest.eq_or_lt with rfl | hrest
    · exact Or.inl ⟨rfl, rfl⟩
    all_goals exact Or.inr (by omega)

end

/-- Values that are trimmed to each other are the same. -/
theorem Trimmed.antisymm {v w : Json} (h : Trimmed v w) (g : Trimmed w v) : v = w := by
  rcases h.eq_or_lt with h | h
  · exact h
  · rcases g.eq_or_lt with g | g
    · exact g.symm
    · omega

theorem TrimmedMembers.antisymm {a b : Table Json} (h : TrimmedMembers a b)
    (g : TrimmedMembers b a) : a = b :=
  Json.obj.inj (Trimmed.antisymm (.object h) (.object g))

/-! ### Names survive -/

/-- Values of one shape: what is no list and no object is the same, an empty list is empty still,
and objects are empty together. -/
def Alike : Json → Json → Prop
  | .arr items, .arr kept => items = [] → kept = []
  | .obj before, .obj after => before = [] ↔ after = []
  | v, w => v = w

theorem Alike.refl (v : Json) : Alike v v := by
  cases v with
  | arr items => exact id
  | obj members => exact Iff.rfl
  | _ => rfl

theorem Alike.eq_of_isScalar {v w : Json} (h : Alike v w) (hv : IsScalar v) : w = v := by
  cases v with
  | arr items => exact hv.elim
  | obj members => exact hv.elim
  | _ => exact h.symm

theorem Alike.eq_of_isScalar_right {v w : Json} (h : Alike v w) (hw : IsScalar w) : v = w := by
  cases v with
  | arr items => cases w <;> first | exact hw.elim | exact h
  | obj members => cases w <;> first | exact hw.elim | exact h
  | _ => exact h

/-- What does not count as set is the same in values of one shape. -/
theorem Alike.eq_of_not_truthy {v w : Json} (h : Alike v w) (hv : v.truthy = false) : w = v := by
  cases v with
  | arr items =>
    obtain rfl : items = [] := by simpa [Json.truthy] using hv
    cases w with
    | arr kept => rw [h rfl]
    | _ => cases h
  | obj members =>
    obtain rfl : members = [] := by simpa [Json.truthy] using hv
    cases w with
    | obj after => rw [h.mp rfl]
    | _ => cases h
  | _ => exact h.symm

theorem TrimmedItems.eq_nil {items kept : List Json} (h : TrimmedItems items kept)
    (hitems : items = []) : kept = [] := by
  subst hitems
  cases h
  rfl

/-- Trimming keeps the shape of a value. -/
theorem Trimmed.alike {v w : Json} (h : Trimmed v w) : Alike v w := by
  cases h with
  | scalar _ => exact Alike.refl v
  | list hitems => exact hitems.eq_nil
  | object hmembers =>
    cases hmembers with
    | nil => exact Iff.rfl
    | cons _ _ => exact iff_of_false (List.cons_ne_nil _ _) (List.cons_ne_nil _ _)

/-- Objects with the same names in the same order and members of one shape. -/
abbrev AlikeMembers (a b : Table Json) : Prop :=
  Aligned (fun _ => Alike) a b

theorem TrimmedMembers.alike {a b : Table Json} (h : TrimmedMembers a b) : AlikeMembers a b :=
  (trimmedMembers_iff.mp h).imp fun _ _ _ _ hv => hv.alike

/-- Objects of one shape give names of one shape. -/
theorem selected_alike {a b : Table Json} (h : AlikeMembers a b) (children : List Field)
    (name : String) : Alike (selected a children name) (selected b children name) := by
  rw [selected_eq, selected_eq]
  induction children.filter fun child => child.name = name with
  | nil => exact Alike.refl .null
  | cons child rest ih =>
    rw [List.findSome?_cons, List.findSome?_cons, present, present]
    rcases h.get?_cases child.responseKey with ⟨hv, hw⟩ | ⟨v, w, hv, hw, hvw⟩
    · rw [hv, hw]
      exact ih
    · rw [hv, hw]
      by_cases hnull : v = .null
      · subst hnull
        obtain rfl : w = .null := hvw.eq_of_isScalar trivial
        exact ih
      · have hnull' : w ≠ .null := fun hw => hnull (hw ▸ hvw.eq_of_isScalar_right (hw ▸ trivial))
        simpa only [hnull, hnull', Option.getD_some] using hvw

section Owner

variable {a b : Table Json} {children : List Field} {literal : Option String}

/-- An owner that is no list and no object is read the same later on. -/
theorem owner_eq_of_alike (h : AlikeMembers a b)
    (hscalar : IsScalar (Redaction.owner a children literal)) :
    Redaction.owner b children literal = Redaction.owner a children literal := by
  have hnames : Alike (selected a children "name") (selected b children "name") :=
    selected_alike h children "name"
  have heq : selected b children "name" = selected a children "name" := by
    by_cases htruthy : (selected a children "name").truthy = true
    · rw [Redaction.owner, if_pos htruthy] at hscalar
      exact hnames.eq_of_isScalar hscalar
    · exact hnames.eq_of_not_truthy (Bool.eq_false_iff.mpr htruthy)
  rw [Redaction.owner, Redaction.owner, heq]

/-- An owner that is no list and no object was read the same before, unless a list stood for the
name. -/
theorem owner_eq_of_alike_right (h : AlikeMembers a b)
    (hlist : ∀ items, selected a children "name" ≠ .arr items)
    (hscalar : IsScalar (Redaction.owner b children literal)) :
    Redaction.owner a children literal = Redaction.owner b children literal := by
  have hnames : Alike (selected a children "name") (selected b children "name") :=
    selected_alike h children "name"
  have heq : selected b children "name" = selected a children "name" := by
    cases ha : selected a children "name" with
    | arr items => exact absurd ha (hlist items)
    | obj members =>
      rw [ha] at hnames
      cases hb : selected b children "name" with
      | obj rest =>
        rw [hb] at hnames
        by_cases hrest : rest = []
        · rw [hrest, hnames.mpr hrest]
        · rw [Redaction.owner, hb, if_pos (by simpa [Json.truthy] using hrest)] at hscalar
          exact hscalar.elim
      | _ => rw [hb] at hnames; cases hnames
    | _ => exact ha ▸ hnames.eq_of_isScalar (ha ▸ trivial)
  rw [Redaction.owner, Redaction.owner, heq]

end Owner

end SchemaVisibility.Introspection
