import SchemaVisibility.Proofs.Introspection.Response

/-! # Walking the children of two objects

Two objects with the same keys are walked along the same children. `Criterion.Holds` says what has
to hold of the two members under a key for the children that are still to be walked: where no such
child leads on, the members are equal, and where one does, they agree for it. One child is walked at
a time (`Criterion.step`), and so all of them in turn (`Criterion.steps`).
-/

namespace SchemaVisibility.Introspection

open GraphQL Redaction Fallible Table

/-! ### Members under a key -/

/-- What has to hold of the members under a key of two objects. -/
structure Criterion where
  /-- Where a child leads, if it leads on. -/
  lead : Field → Option Kind
  /-- When members agree for the fields that lead to them. -/
  agree : String → List Field → Kind → Json → Json → Prop
  /-- Whether private members may still be missing from what a child leads to. -/
  thin : Field → Prop
  /-- When members agree but for private ones. -/
  thinned : List Field → Kind → Json → Json → Prop
  /-- What a selected name may be. -/
  name : Json → Prop

/-- Members under a key meet a criterion for the children that are still to be walked. -/
structure Criterion.Holds (C : Criterion) (children : List Field) (key : String) (v w : Json) :
    Prop where
  same : (∀ child ∈ under key children, C.lead child = none) → v = w
  agrees : ∀ child ∈ under key children, ∀ next, C.lead child = some next → ¬ C.thin child →
    C.agree key (under key children) next v w
  thinned : ∀ child ∈ under key children, ∀ next, C.lead child = some next → C.thin child →
    C.thinned (under key children) next v w
  named : ∀ child ∈ under key children, child.name = "name" → C.name v

theorem mem_under {key : String} {fields : List Field} {field : Field} :
    field ∈ under key fields ↔ field ∈ fields ∧ field.responseKey = key := by
  simp [under]

theorem under_cons_of_ne {key : String} {field : Field} {fields : List Field}
    (h : field.responseKey ≠ key) : under key (field :: fields) = under key fields := by
  simp [under, h]

theorem under_cons_self (field : Field) (fields : List Field) :
    under field.responseKey (field :: fields) = field :: under field.responseKey fields := by
  simp [under]

theorem Coherent.subset {fields more : List Field} (h : Coherent more)
    (hsub : ∀ field ∈ fields, field ∈ more) : Coherent fields :=
  fun a ha b hb => h a (hsub a ha) b (hsub b hb)

theorem Coherent.name_eq {fields : List Field} {field other : Field} (h : Coherent fields)
    (hf : field ∈ fields) (ho : other ∈ under field.responseKey fields) :
    other.name = field.name := by
  obtain ⟨ho, hkey⟩ := mem_under.mp ho
  exact h other ho field hf hkey

/-- The step that walks one child of an object. -/
def stepInto (lead : Field → Option Kind) (g : Field → Kind → Json → Except Failure Json)
    (object : Table Json) (child : Field) : Except Failure (Table Json) :=
  match lead child, object.get? child.responseKey with
  | some next, some value => do
    return object.insert child.responseKey (← g child next value)
  | _, _ => .ok object

section Step

variable {C : Criterion} {g : Field → Kind → Json → Except Failure Json} {child : Field}
  {rest : List Field} {object : Table Json} {next : Kind} {key : String} {v w : Json}

theorem stepInto_of_lead_none {lead : Field → Option Kind} (h : lead child = none) :
    stepInto lead g object child = .ok object := by
  rw [stepInto, h]

theorem stepInto_of_absent {lead : Field → Option Kind} (hl : lead child = some next)
    (h : object.get? child.responseKey = none) : stepInto lead g object child = .ok object := by
  rw [stepInto, hl, h]

theorem stepInto_of_present {lead : Field → Option Kind} {x x' : Json}
    (hl : lead child = some next) (h : object.get? child.responseKey = some x)
    (hx : g child next x = .ok x') :
    stepInto lead g object child = .ok (object.insert child.responseKey x') := by
  rw [stepInto, hl, h]
  dsimp only
  rw [hx]
  rfl

/-- A step into a child changes nothing, or it puts what it walked in place of the child's
member. -/
theorem stepInto_cases {lead : Field → Option Kind} {result : Table Json}
    (h : stepInto lead g object child = .ok result) :
    (result = object ∧ (lead child = none ∨ object.get? child.responseKey = none)) ∨
      ∃ next v w, lead child = some next ∧ object.get? child.responseKey = some v ∧
        g child next v = .ok w ∧ result = object.insert child.responseKey w := by
  cases hl : lead child with
  | none =>
    rw [stepInto_of_lead_none hl] at h
    exact Or.inl ⟨(Except.ok.inj h).symm, Or.inl rfl⟩
  | some next =>
    cases hv : object.get? child.responseKey with
    | none =>
      rw [stepInto_of_absent hl hv] at h
      exact Or.inl ⟨(Except.ok.inj h).symm, Or.inr rfl⟩
    | some v =>
      rw [stepInto, hl, hv] at h
      obtain ⟨w, hw, h⟩ := bind_eq_ok.mp h
      exact Or.inr ⟨next, v, w, rfl, rfl, hw, (pure_eq_ok.mp h).symm⟩

/-- A step into a child relates an object to what becomes of it as it relates the child's member. -/
theorem stepInto_aligned {lead : Field → Option Kind} {E : String → Json → Json → Prop}
    {result : Table Json} (hrefl : ∀ key v, E key v v)
    (hg : ∀ next v w, lead child = some next → g child next v = .ok w →
      E child.responseKey v w)
    (h : stepInto lead g object child = .ok result) : Aligned E object result := by
  rcases stepInto_cases h with ⟨rfl, -⟩ | ⟨next, v, w, hl, hv, hw, rfl⟩
  · exact Aligned.refl hrefl _
  · exact Aligned.of_insert hrefl hv (hg next v w hl hw)

/-- A step into a child is at rest if the walk of the child is. -/
theorem stepInto_rests {lead : Field → Option Kind} {E : String → Json → Json → Prop}
    {result last : Table Json}
    (hg : ∀ next v w r, lead child = some next → g child next v = .ok w →
      E child.responseKey w r → g child next r = .ok r)
    (h : stepInto lead g object child = .ok result) (hlast : Aligned E result last) :
    stepInto lead g last child = .ok last := by
  cases hl : lead child with
  | none => exact stepInto_of_lead_none hl
  | some next =>
    rcases hlast.get?_cases child.responseKey with ⟨-, hr⟩ | ⟨w, r, hw, hr, hwr⟩
    · exact stepInto_of_absent hl hr
    · -- the child's member is there, so it was walked
      rcases stepInto_cases h with ⟨rfl, hno | hno⟩ | ⟨next', v, w', hl', -, hw', rfl⟩
      · rw [hl] at hno
        cases hno
      · rw [hw] at hno
        cases hno
      · rw [hl, Option.some.injEq] at hl'
        rw [Table.get?_insert, if_pos rfl, Option.some.injEq] at hw
        subst hl' hw
        rw [stepInto_of_present hl hr (hg next v w' r hl hw' hwr), insert_of_get? hr]

/-- Under other keys than that of the walked child nothing changes. -/
theorem Criterion.Holds.tail_of_ne (h : C.Holds (child :: rest) key v w)
    (hkey : key ≠ child.responseKey) : C.Holds rest key v w := by
  have hunder : under key (child :: rest) = under key rest := under_cons_of_ne (Ne.symm hkey)
  exact ⟨hunder ▸ h.same, hunder ▸ h.agrees, hunder ▸ h.thinned, hunder ▸ h.named⟩

/-- What holds for a name holds for the children that remain under the key of the walked one. -/
theorem Criterion.Holds.named_tail (h : C.Holds (child :: rest) child.responseKey v w) :
    ∀ other ∈ under child.responseKey rest, other.name = "name" → C.name v := by
  intro other ho
  refine h.named other ?_
  rw [under_cons_self]
  exact List.mem_cons_of_mem _ ho

/-- A child that leads nowhere can be left out. -/
theorem Criterion.Holds.tail_of_lead_none (h : C.Holds (child :: rest) child.responseKey v w)
    (hnone : C.lead child = none)
    (hlead : ∀ other ∈ under child.responseKey rest, C.lead other = C.lead child) :
    C.Holds rest child.responseKey v w := by
  have hrest : ∀ other ∈ under child.responseKey rest, C.lead other = none :=
    fun other ho => (hlead other ho).trans hnone
  refine ⟨fun _ => h.same ?_, ?_, ?_, h.named_tail⟩
  · rw [under_cons_self]
    rintro other (_ | ⟨_, ho⟩)
    · exact hnone
    · exact hrest other ho
  · intro other ho next hnext
    rw [hrest other ho] at hnext
    cases hnext
  · intro other ho next hnext
    rw [hrest other ho] at hnext
    cases hnext

/-- A child that was walked can be left out if what it leads to now agrees for the others. -/
theorem Criterion.Holds.of_walked (hnext : C.lead child = some next)
    (hlead : ∀ other ∈ under child.responseKey rest, C.lead other = C.lead child)
    (hthin : ∀ other ∈ under child.responseKey rest, ¬ C.thin other)
    (hnil : C.agree child.responseKey [] next v w → v = w)
    (hagree : C.agree child.responseKey (under child.responseKey rest) next v w)
    (hnamed : ∀ other ∈ under child.responseKey rest, other.name = "name" → C.name v) :
    C.Holds rest child.responseKey v w := by
  refine ⟨?_, ?_, fun other ho _ _ ht => absurd ht (hthin other ho), hnamed⟩
  · -- either another child still leads on under this key, or none is left at all
    intro hnone
    cases hu : under child.responseKey rest with
    | nil => exact hnil (hu ▸ hagree)
    | cons other more =>
      have hmem : other ∈ under child.responseKey rest := by
        rw [hu]
        exact List.mem_cons_self
      have hcontra := hnone other hmem
      rw [hlead other hmem, hnext] at hcontra
      cases hcontra
  · intro other ho next' hnext' _
    rw [hlead other ho, hnext, Option.some.injEq] at hnext'
    exact hnext' ▸ hagree

/-- **One child at a time.** If walking what a child leads to takes agreement for it and others to
agreement for the others, then so does the step into the child for a whole object. -/
theorem Criterion.step {a b : Table Json} (hcoherent : Coherent (child :: rest))
    (hlead : ∀ other, other.name = child.name → C.lead other = C.lead child)
    (hthin : ∀ other ∈ child :: rest, other.responseKey = child.responseKey → ¬ C.thin other)
    (hg : ∀ next v w, C.lead child = some next →
      C.agree child.responseKey (child :: under child.responseKey rest) next v w →
      ∃ v' w', g child next v = .ok v' ∧ g child next w = .ok w' ∧
        C.agree child.responseKey (under child.responseKey rest) next v' w')
    (hname : ∀ next v, C.lead child = some next → child.name = "name" → C.name v →
      g child next v = .ok v)
    (hnil : ∀ key next v w, C.agree key [] next v w → v = w)
    (hn : a.keys.Nodup) (h : Aligned (C.Holds (child :: rest)) a b) :
    ∃ a' b', stepInto C.lead g a child = .ok a' ∧ stepInto C.lead g b child = .ok b' ∧
      a'.keys = a.keys ∧ Aligned (C.Holds rest) a' b' := by
  have hnames : ∀ other ∈ under child.responseKey rest, other.name = child.name := by
    intro other ho
    refine hcoherent.name_eq List.mem_cons_self ?_
    rw [under_cons_self]
    exact List.mem_cons_of_mem _ ho
  have hleads : ∀ other ∈ under child.responseKey rest, C.lead other = C.lead child :=
    fun other ho => hlead other (hnames other ho)
  cases hl : C.lead child with
  | none =>
    refine ⟨a, b, stepInto_of_lead_none hl, stepInto_of_lead_none hl, rfl,
      h.imp fun key v w _ hold => ?_⟩
    by_cases hkey : key = child.responseKey
    · subst hkey
      exact hold.tail_of_lead_none hl hleads
    · exact hold.tail_of_ne hkey
  | some next =>
    rcases h.get?_cases child.responseKey with ⟨hv, hw⟩ | ⟨v, w, hv, hw, hold⟩
    · refine ⟨a, b, stepInto_of_absent hl hv, stepInto_of_absent hl hw, rfl,
        h.imp fun key x y hm hold => hold.tail_of_ne ?_⟩
      rintro rfl
      rw [get?_of_mem hn hm] at hv
      cases hv
    · have hagree := hold.agrees child (mem_under.mpr ⟨List.mem_cons_self, rfl⟩) next hl
        (hthin child List.mem_cons_self rfl)
      rw [under_cons_self] at hagree
      obtain ⟨v', w', hv', hw', hrest⟩ := hg next v w hl hagree
      refine ⟨_, _, stepInto_of_present hl hv hv', stepInto_of_present hl hw hw',
        keys_insert_of_get? hv, h.insert hn hv ?_ fun _ _ _ hkey hold => hold.tail_of_ne hkey⟩
      refine .of_walked hl hleads ?_ (hnil _ next v' w') hrest ?_
      · intro other ho
        obtain ⟨ho, hkey⟩ := mem_under.mp ho
        exact hthin other (List.mem_cons_of_mem _ ho) hkey
      · -- a name is no list or object, so that walking it has left it as it was
        intro other ho hother
        have hold' : C.name v := hold.named_tail other ho hother
        have hchild : child.name = "name" := (hnames other ho).symm.trans hother
        rw [hname next v hl hchild hold', Except.ok.injEq] at hv'
        exact hv' ▸ hold'

end Step

/-- **All children of an object in turn.** -/
theorem Criterion.steps {C : Criterion} {g : Field → Kind → Json → Except Failure Json}
    {children others : List Field} {a b : Table Json} (hcoherent : Coherent (children ++ others))
    (hlead : ∀ c d : Field, c.name = d.name → C.lead c = C.lead d)
    (hthin : ∀ c ∈ children, ∀ other ∈ children ++ others, other.responseKey = c.responseKey →
      ¬ C.thin other)
    (hg : ∀ c ∈ children, ∀ fields next v w, C.lead c = some next →
      C.agree c.responseKey (c :: fields) next v w →
      ∃ v' w', g c next v = .ok v' ∧ g c next w = .ok w' ∧
        C.agree c.responseKey fields next v' w')
    (hname : ∀ c next v, C.lead c = some next → c.name = "name" → C.name v →
      g c next v = .ok v)
    (hnil : ∀ key next v w, C.agree key [] next v w → v = w)
    (hn : a.keys.Nodup) (h : Aligned (C.Holds (children ++ others)) a b) :
    ∃ a' b', children.foldlM (stepInto C.lead g) a = .ok a' ∧
      children.foldlM (stepInto C.lead g) b = .ok b' ∧ a'.keys = a.keys ∧
      Aligned (C.Holds others) a' b' := by
  obtain ⟨a', b', ha, hb, -, hkeys, hold⟩ := foldlM_related
    (R := fun rest s t => (∀ c ∈ rest, c ∈ children) ∧ s.keys = a.keys ∧
      Aligned (C.Holds (rest ++ others)) s t)
    (f := stepInto C.lead g) (g := stepInto C.lead g)
    (fun c rest s t ⟨hsub, hkeys, hold⟩ => by
      have hin : ∀ d ∈ c :: (rest ++ others), d ∈ children ++ others := by
        intro d hd
        rcases List.mem_append.mp (show d ∈ (c :: rest) ++ others from hd) with hd | hd
        · exact List.mem_append_left _ (hsub d hd)
        · exact List.mem_append_right _ hd
      have hc := hsub c List.mem_cons_self
      obtain ⟨s', t', hs, ht, hk, hold'⟩ := Criterion.step (hcoherent.subset hin)
        (fun other => hlead other c) (fun other ho => hthin c hc other (hin other ho))
        (fun next v w => hg c hc _ next v w) (hname c) hnil (hkeys ▸ hn) hold
      exact ⟨s', t', hs, ht, fun d hd => hsub d (List.mem_cons_of_mem c hd), hk.trans hkeys,
        hold'⟩)
    (l := children) ⟨fun _ hc => hc, rfl, h⟩
  exact ⟨a', b', ha, hb, hkeys, hold⟩

end SchemaVisibility.Introspection
