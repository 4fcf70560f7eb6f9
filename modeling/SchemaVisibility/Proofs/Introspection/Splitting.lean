import SchemaVisibility.Proofs.Introspection.Gate
import SchemaVisibility.Proofs.Introspection.Walking

/-! # Split selections

Fields with one response key are merged in a result, so what one field selects may as well be
selected by several. `Splitting` says how the fields of one document stand for those of another: the
parts of a field have its key and its name, and what they select together are the parts of what it
selects. It goes by what is collected, so a part may stand in a fragment of its own, and fields may
be split at every depth.

The plainest way to split is to cut the selections of a field in two. `Cut` is this at any number of
places in a selection set, and a document that is cut is split (`CutDocument.splitsInto`).
-/

namespace SchemaVisibility.Introspection

open GraphQL

/-! ### Parts and wholes -/

/-- Whether two fields give one field under one key, and ask for the same type if for any. -/
structure SameField (part whole : Field) : Prop where
  responseKey : part.responseKey = whole.responseKey
  name : part.name = whole.name
  literal : literalTypeName? part = literalTypeName? whole

theorem SameField.rootKind?_eq {part whole : Field} (h : SameField part whole) :
    rootKind? part = rootKind? whole := by
  rw [rootKind?, rootKind?, h.name]

/-- Whether fields are made up of the parts of others: all parts of every whole are there, and
nothing else is. -/
structure Covers (splits : List Field → Field → Prop) (parts wholes : List Field) : Prop where
  joined : ∀ part ∈ parts, ∃ whole ∈ wholes, ∃ group ⊆ parts, part ∈ group ∧ splits group whole
  divided : ∀ whole ∈ wholes, ∃ group ⊆ parts, splits group whole

/-- **A splitting of fields.** The parts of a field give what it gives, and together they select the
parts of what it selects. -/
structure Splitting (fragments others : Fragments) (splits : List Field → Field → Prop) :
    Prop where
  ne_nil {group : List Field} {whole : Field} : splits group whole → group ≠ []
  same {group : List Field} {whole : Field} : splits group whole →
    ∀ part ∈ group, SameField part whole
  children {group : List Field} {whole : Field} : splits group whole →
    Covers splits (childrenOf others group) (collect fragments whole.selections)

/-- Whether the operation that is selected in one document is split in another. -/
structure SplitsInto (document split : Document) (operationName : Option String)
    (splits : List Field → Field → Prop) : Prop where
  fields : Splitting document.fragmentTable split.fragmentTable splits
  roots : Covers splits (rootSelection split operationName)
    (rootSelection document operationName)

variable {fragments others : Fragments} {splits : List Field → Field → Prop}
  {parts wholes : List Field}

theorem childrenOf_subset {few many : List Field} (h : few ⊆ many) :
    childrenOf fragments few ⊆ childrenOf fragments many := by
  intro child hc
  obtain ⟨field, hf, hc⟩ := List.mem_flatMap.mp hc
  exact mem_childrenOf (h hf) hc

namespace Covers

theorem nil : Covers splits [] [] :=
  ⟨nofun, nofun⟩

theorem single {group : List Field} {whole : Field} (h : splits group whole) :
    Covers splits group [whole] where
  joined _ hp := ⟨whole, List.mem_cons_self, group, List.Subset.refl group, hp, h⟩
  divided _ ho := ⟨group, List.Subset.refl group, (List.mem_singleton.mp ho) ▸ h⟩

theorem append {more others : List Field} (h : Covers splits parts wholes)
    (hmore : Covers splits more others) : Covers splits (parts ++ more) (wholes ++ others) where
  joined part hp := by
    rcases List.mem_append.mp hp with hp | hp
    · obtain ⟨whole, hw, group, hsub, hg, hsplits⟩ := h.joined part hp
      exact ⟨whole, List.mem_append_left _ hw, group,
        List.Subset.trans hsub (List.subset_append_left _ _), hg, hsplits⟩
    · obtain ⟨whole, hw, group, hsub, hg, hsplits⟩ := hmore.joined part hp
      exact ⟨whole, List.mem_append_right _ hw, group,
        List.Subset.trans hsub (List.subset_append_right _ _), hg, hsplits⟩
  divided whole hw := by
    rcases List.mem_append.mp hw with hw | hw
    · obtain ⟨group, hsub, hsplits⟩ := h.divided whole hw
      exact ⟨group, List.Subset.trans hsub (List.subset_append_left _ _), hsplits⟩
    · obtain ⟨group, hsub, hsplits⟩ := hmore.divided whole hw
      exact ⟨group, List.Subset.trans hsub (List.subset_append_right _ _), hsplits⟩

/-- Only what is there counts, not how often or in which order. -/
theorem congr {few fewer : List Field} (h : Covers splits parts wholes)
    (hparts : ∀ field, field ∈ few ↔ field ∈ parts)
    (hwholes : ∀ field, field ∈ fewer ↔ field ∈ wholes) : Covers splits few fewer where
  joined part hp := by
    obtain ⟨whole, hw, group, hsub, hg⟩ := h.joined part ((hparts part).mp hp)
    exact ⟨whole, (hwholes whole).mpr hw, group, fun f hf => (hparts f).mpr (hsub hf), hg⟩
  divided whole hw := by
    obtain ⟨group, hsub, hsplits⟩ := h.divided whole ((hwholes whole).mp hw)
    exact ⟨group, fun f hf => (hparts f).mpr (hsub hf), hsplits⟩

/-- What parts and wholes have in common may be asked of both. -/
theorem filter {few fewer : List Field} {P : Field → Prop} (h : Covers splits parts wholes)
    (hP : ∀ group whole, splits group whole → ∀ part ∈ group, (P part ↔ P whole))
    (hparts : ∀ field, field ∈ few ↔ field ∈ parts ∧ P field)
    (hwholes : ∀ field, field ∈ fewer ↔ field ∈ wholes ∧ P field) : Covers splits few fewer where
  joined part hp := by
    obtain ⟨hp, hpart⟩ := (hparts part).mp hp
    obtain ⟨whole, hw, group, hsub, hg, hsplits⟩ := h.joined part hp
    have hwhole : P whole := (hP group whole hsplits part hg).mp hpart
    exact ⟨whole, (hwholes whole).mpr ⟨hw, hwhole⟩, group, fun f hf =>
      (hparts f).mpr ⟨hsub hf, (hP group whole hsplits f hf).mpr hwhole⟩, hg, hsplits⟩
  divided whole hw := by
    obtain ⟨hw, hwhole⟩ := (hwholes whole).mp hw
    obtain ⟨group, hsub, hsplits⟩ := h.divided whole hw
    exact ⟨group, fun f hf =>
      (hparts f).mpr ⟨hsub hf, (hP group whole hsplits f hf).mpr hwhole⟩, hsplits⟩

/-- What stands under one key of the parts are the parts of what stands there of the wholes. -/
theorem under (hsplitting : Splitting fragments others splits) (h : Covers splits parts wholes)
    (key : String) : Covers splits (under key parts) (under key wholes) :=
  h.filter (P := fun field => field.responseKey = key)
    (fun _ _ hsplits part hp => by rw [(hsplitting.same hsplits part hp).responseKey])
    (fun _ => mem_under) fun _ => mem_under

/-- What the parts select are the parts of what the wholes select. -/
theorem childrenOf (hsplitting : Splitting fragments others splits)
    (h : Covers splits parts wholes) :
    Covers splits (childrenOf others parts) (childrenOf fragments wholes) where
  joined child hc := by
    obtain ⟨part, hp, hc⟩ := List.mem_flatMap.mp hc
    obtain ⟨whole, hw, group, hsub, hg, hsplits⟩ := h.joined part hp
    obtain ⟨field, hf, inner, hinner, hmem⟩ :=
      (hsplitting.children hsplits).joined child (mem_childrenOf hg hc)
    exact ⟨field, mem_childrenOf hw hf, inner,
      List.Subset.trans hinner (childrenOf_subset hsub), hmem⟩
  divided child hc := by
    obtain ⟨whole, hw, hc⟩ := List.mem_flatMap.mp hc
    obtain ⟨group, hsub, hsplits⟩ := h.divided whole hw
    obtain ⟨inner, hinner, hmem⟩ := (hsplitting.children hsplits).divided child hc
    exact ⟨inner, List.Subset.trans hinner (childrenOf_subset hsub), hmem⟩

/-- Every part gives what a whole field gives. -/
theorem exists_same (hsplitting : Splitting fragments others splits)
    (h : Covers splits parts wholes) {part : Field} (hp : part ∈ parts) :
    ∃ whole ∈ wholes, SameField part whole := by
  obtain ⟨whole, hw, group, -, hg, hsplits⟩ := h.joined part hp
  exact ⟨whole, hw, hsplitting.same hsplits part hg⟩

/-- Every whole field has a part, and that gives what it gives. -/
theorem exists_part (hsplitting : Splitting fragments others splits)
    (h : Covers splits parts wholes) {whole : Field} (hw : whole ∈ wholes) :
    ∃ part ∈ parts, SameField part whole := by
  obtain ⟨group, hsub, hsplits⟩ := h.divided whole hw
  obtain ⟨part, hp⟩ := List.exists_mem_of_ne_nil group (hsplitting.ne_nil hsplits)
  exact ⟨part, hsub hp, hsplitting.same hsplits part hp⟩

theorem coherent (hsplitting : Splitting fragments others splits)
    (h : Covers splits parts wholes) (hcoherent : Coherent wholes) : Coherent parts := by
  intro a ha b hb hkey
  obtain ⟨whole, hw, hsame⟩ := h.exists_same hsplitting ha
  obtain ⟨other, ho, hsame'⟩ := h.exists_same hsplitting hb
  rw [hsame.name, hsame'.name]
  refine hcoherent whole hw other ho ?_
  rw [← hsame.responseKey, hkey, hsame'.responseKey]

end Covers

/-- Where fragments spread the same, the same spreads lead to the same fragments. -/
theorem leads_of_ownSpreads_eq
    (h : ∀ name, ownSpreads (others.body name) = ownSpreads (fragments.body name))
    {spreads : List String} {name : String} (hled : others.Leads spreads name) :
    fragments.Leads spreads name := by
  induction hled with
  | own hmem => exact .own hmem
  | through _ hnext ih => exact ih.through (h _ ▸ hnext)

/-! ### Selections that are cut -/

/-- **Cutting selections.** At any number of places a field with the selections `a ++ b` is replaced
by one with `a` and one with `b`, which may be cut in turn. What `P` asks of the parts of a field
holds throughout. -/
inductive Cut (P : List Field → Field → Prop) : List Selection → List Selection → Prop
  | nil : Cut P [] []
  | field {head : FieldHead} {inside inner rest more : List Selection} : Cut P inside inner →
      P [⟨head, inside⟩] ⟨head, inner⟩ → Cut P rest more →
      Cut P (.field head inside :: rest) (.field head inner :: more)
  | inline {condition : Option String} {directives : List Directive}
      {inside inner rest more : List Selection} : Cut P inside inner → Cut P rest more →
      Cut P (.inline condition directives inside :: rest)
        (.inline condition directives inner :: more)
  | spread {name : String} {directives : List Directive} {rest more : List Selection} :
      Cut P rest more → Cut P (.spread name directives :: rest) (.spread name directives :: more)
  | cut {head first second : FieldHead} {left right a b rest more : List Selection} :
      SameField ⟨first, left⟩ ⟨head, a ++ b⟩ → SameField ⟨second, right⟩ ⟨head, a ++ b⟩ →
      Cut P left a → Cut P right b → P [⟨first, left⟩, ⟨second, right⟩] ⟨head, a ++ b⟩ →
      Cut P rest more →
      Cut P (.field first left :: .field second right :: rest) (.field head (a ++ b) :: more)

/-- The parts of a field whose selections are cut. -/
inductive CutField (P : List Field → Field → Prop) : List Field → Field → Prop
  | inside {head : FieldHead} {inside inner : List Selection} : Cut P inside inner →
      P [⟨head, inside⟩] ⟨head, inner⟩ → CutField P [⟨head, inside⟩] ⟨head, inner⟩
  | apart {head first second : FieldHead} {left right a b : List Selection} :
      SameField ⟨first, left⟩ ⟨head, a ++ b⟩ → SameField ⟨second, right⟩ ⟨head, a ++ b⟩ →
      Cut P left a → Cut P right b → P [⟨first, left⟩, ⟨second, right⟩] ⟨head, a ++ b⟩ →
      CutField P [⟨first, left⟩, ⟨second, right⟩] ⟨head, a ++ b⟩

variable {P : List Field → Field → Prop}

theorem CutField.asked {group : List Field} {whole : Field} (h : CutField P group whole) :
    P group whole := by
  cases h with
  | inside _ h => exact h
  | apart _ _ _ _ h => exact h

namespace Cut

variable {inside inner : List Selection}

theorem ownFields (h : Cut P inside inner) :
    Covers (CutField P) (ownFields inside) (ownFields inner) := by
  induction h with
  | nil => exact .nil
  | field hinner hP _ _ ih => exact (Covers.single (.inside hinner hP)).append ih
  | inline _ _ ihinner ih =>
    rw [ownFields_inline, ownFields_inline]
    exact ihinner.append ih
  | spread _ ih => exact ih
  | cut hfirst hsecond hleft hright hP _ _ _ ih =>
    exact (Covers.single (.apart hfirst hsecond hleft hright hP)).append ih

/-- Cutting leaves the spreads of a selection set where they are. -/
theorem ownSpreads (h : Cut P inside inner) : ownSpreads inside = ownSpreads inner := by
  induction h with
  | nil => rfl
  | field _ _ _ _ ih => exact ih
  | inline _ _ ihinner ih => rw [ownSpreads_inline, ownSpreads_inline, ihinner, ih]
  | spread _ ih => exact congrArg (List.cons _) ih
  | cut _ _ _ _ _ _ _ _ ih => exact ih

/-- What a selection set that is cut collects are the parts of what it collected before, if the
fragments are cut too. -/
theorem collect (hbody : ∀ name, Cut P (others.body name) (fragments.body name))
    (h : Cut P inside inner) :
    Covers (CutField P) (collect others inside) (collect fragments inner) := by
  have hleads : ∀ name, others.Leads (GraphQL.ownSpreads inside) name ↔
      fragments.Leads (GraphQL.ownSpreads inner) name := by
    rw [h.ownSpreads]
    exact fun _ => ⟨leads_of_ownSpreads_eq fun name => (hbody name).ownSpreads,
      leads_of_ownSpreads_eq fun name => (hbody name).ownSpreads.symm⟩
  constructor
  · intro part hp
    rcases mem_collect_iff.mp hp with hp | ⟨name, hled, hp⟩
    · obtain ⟨whole, hw, group, hsub, hg⟩ := h.ownFields.joined part hp
      exact ⟨whole, mem_collect_iff.mpr (Or.inl hw), group,
        fun f hf => mem_collect_iff.mpr (Or.inl (hsub hf)), hg⟩
    · obtain ⟨whole, hw, group, hsub, hg⟩ := (hbody name).ownFields.joined part hp
      exact ⟨whole, mem_collect_iff.mpr (Or.inr ⟨name, (hleads name).mp hled, hw⟩), group,
        fun f hf => mem_collect_iff.mpr (Or.inr ⟨name, hled, hsub hf⟩), hg⟩
  · intro whole hw
    rcases mem_collect_iff.mp hw with hw | ⟨name, hled, hw⟩
    · obtain ⟨group, hsub, hg⟩ := h.ownFields.divided whole hw
      exact ⟨group, fun f hf => mem_collect_iff.mpr (Or.inl (hsub hf)), hg⟩
    · obtain ⟨group, hsub, hg⟩ := (hbody name).ownFields.divided whole hw
      exact ⟨group, fun f hf => mem_collect_iff.mpr
        (Or.inr ⟨name, (hleads name).mpr hled, hsub hf⟩), hg⟩

/-- **Cutting selections splits fields.** -/
theorem splitting (hbody : ∀ name, Cut P (others.body name) (fragments.body name)) :
    Splitting fragments others (CutField P) where
  ne_nil h := by cases h <;> exact List.cons_ne_nil _ _
  same h part hp := by
    cases h with
    | inside _ _ => exact List.mem_singleton.mp hp ▸ ⟨rfl, rfl, rfl⟩
    | apart hfirst hsecond _ _ _ =>
      rcases List.mem_cons.mp hp with rfl | hp
      · exact hfirst
      · exact List.mem_singleton.mp hp ▸ hsecond
  children h := by
    cases h with
    | inside h _ => simpa [childrenOf] using h.collect hbody
    | apart _ _ hleft hright _ =>
      refine ((hleft.collect hbody).append (hright.collect hbody)).congr (fun f => ?_) fun f => ?_
      · simp [childrenOf]
      · rw [mem_collect_append, List.mem_append]

end Cut

/-! ### Documents that are cut -/

/-- Whether the operations and the fragments of a document are those of another with some selections
cut. -/
structure CutDocument (P : List Field → Field → Prop) (split document : Document) : Prop where
  operations : List.Forall₂ (fun a b => a.name = b.name ∧ Cut P a.selections b.selections)
    split.operations document.operations
  fragments : List.Forall₂ (fun a b => a.name = b.name ∧ Cut P a.selections b.selections)
    split.fragments document.fragments

namespace CutDocument

variable {document split : Document}

theorem body (h : CutDocument P split document) (name : String) :
    Cut P (split.fragmentTable.body name) (document.fragmentTable.body name) := by
  rw [Fragments.body, Fragments.body, get?_fragmentTable, get?_fragmentTable, Document.fragment?,
    Document.fragment?]
  have hnamed := fun (a b : Fragment) (hab : a.name = b.name ∧ Cut P a.selections b.selections) =>
    congrArg (fun other => decide (other = name)) hab.1
  rcases find?_cases_of_forall₂ (List.rel_reverse h.fragments) hnamed with
    ⟨ha, hb⟩ | ⟨a, b, ha, hb, hab⟩
  · rw [ha, hb]
    exact .nil
  · rw [ha, hb]
    exact hab.2

/-- The same operation is selected, if any is. -/
theorem selectedOperation? (h : CutDocument P split document) (operationName : Option String) :
    (split.selectedOperation? operationName = none ∧
        document.selectedOperation? operationName = none) ∨
      ∃ a b, split.selectedOperation? operationName = some a ∧
        document.selectedOperation? operationName = some b ∧ Cut P a.selections b.selections :=
  selectedOperation?_cases h.operations operationName

/-- **A document that is cut is split.** -/
theorem splitsInto (h : CutDocument P split document) (operationName : Option String) :
    SplitsInto document split operationName (CutField P) where
  fields := Cut.splitting h.body
  roots := by
    rw [rootSelection, rootSelection]
    rcases h.selectedOperation? operationName with ⟨ha, hb⟩ | ⟨a, b, ha, hb, hab⟩
    · rw [ha, hb]
      exact .nil
    · rw [ha, hb]
      exact hab.collect h.body

end CutDocument

end SchemaVisibility.Introspection
