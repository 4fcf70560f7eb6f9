import SchemaVisibility.GraphQL.Collection
import SchemaVisibility.Proofs.Tables

/-! # What is collected from a selection set

Collecting the fields of a selection set goes through the fragments that it spreads, each at most
once. `Search` is how that goes on, with the names that were met and without a bound: it always
comes to an end, and to what is collected (`search_collect`). `Explored` is what holds when a part
of the search is done: the fields found are those of the part itself and of the fragments that were
new, and every fragment that these spread was met. At the end of the whole search this makes
`Search.reaches`: the names met are those of the fragments that the selection set leads to, and what
was found are the fields that stand in the selection set itself and those of each of these
fragments, once a fragment. `mem_collect_iff` is the same for a single field.
-/

namespace SchemaVisibility.GraphQL

mutual

/-- The fields and spreads that stand in a selection itself, where inline fragments do not count. -/
def Selection.leaves : Selection → List Selection
  | .field head selections => [.field head selections]
  | .inline _ _ selections => Selection.leavesOfAll selections
  | .spread fragment directives => [.spread fragment directives]

/-- The fields and spreads that stand in selections themselves. -/
def Selection.leavesOfAll : List Selection → List Selection
  | [] => []
  | selection :: rest => Selection.leaves selection ++ Selection.leavesOfAll rest

end

/-- The field that a selection is. -/
def Selection.field? : Selection → Option Field
  | .field head selections => some ⟨head, selections⟩
  | _ => none

/-- The name of the fragment that a selection spreads. -/
def Selection.spread? : Selection → Option String
  | .spread fragment _ => some fragment
  | _ => none

/-- The fields that stand in a selection set itself. -/
def ownFields (selections : List Selection) : List Field :=
  (Selection.leavesOfAll selections).filterMap Selection.field?

/-- The names of the fragments that a selection set itself spreads. -/
def ownSpreads (selections : List Selection) : List String :=
  (Selection.leavesOfAll selections).filterMap Selection.spread?

theorem leavesOfAll_append (selections more : List Selection) :
    Selection.leavesOfAll (selections ++ more) =
      Selection.leavesOfAll selections ++ Selection.leavesOfAll more := by
  induction selections with
  | nil => rfl
  | cons selection rest ih =>
    rw [List.cons_append, Selection.leavesOfAll, ih, Selection.leavesOfAll, List.append_assoc]

theorem ownFields_append (selections more : List Selection) :
    ownFields (selections ++ more) = ownFields selections ++ ownFields more := by
  rw [ownFields, leavesOfAll_append, List.filterMap_append, ownFields, ownFields]

theorem ownSpreads_append (selections more : List Selection) :
    ownSpreads (selections ++ more) = ownSpreads selections ++ ownSpreads more := by
  rw [ownSpreads, leavesOfAll_append, List.filterMap_append, ownSpreads, ownSpreads]

theorem ownFields_inline (condition : Option String) (directives : List Directive)
    (inside rest : List Selection) :
    ownFields (.inline condition directives inside :: rest) =
      ownFields inside ++ ownFields rest := by
  rw [ownFields, Selection.leavesOfAll, Selection.leaves, List.filterMap_append, ownFields,
    ownFields]

theorem ownSpreads_inline (condition : Option String) (directives : List Directive)
    (inside rest : List Selection) :
    ownSpreads (.inline condition directives inside :: rest) =
      ownSpreads inside ++ ownSpreads rest := by
  rw [ownSpreads, Selection.leavesOfAll, Selection.leaves, List.filterMap_append, ownSpreads,
    ownSpreads]

namespace Fragments

/-- The selection set of a fragment, empty if there is no fragment of the name. -/
def body (fragments : Fragments) (name : String) : List Selection :=
  (Table.get? fragments name).getD []

/-- The fragments that are still to be spread after some were met. -/
def without (fragments : Fragments) (met : List String) : Fragments :=
  fragments.filter fun entry => entry.1 ∉ met

/-- The fragments that spreads lead to, directly or through others. -/
inductive Leads (fragments : Fragments) (spreads : List String) : String → Prop
  | own {name : String} : name ∈ spreads → Leads fragments spreads name
  | through {name next : String} : Leads fragments spreads name →
      next ∈ ownSpreads (fragments.body name) → Leads fragments spreads next

variable {fragments : Fragments} {met : List String}

theorem get?_without (fragments : Fragments) (met : List String) (name : String) :
    Table.get? (fragments.without met) name =
      if name ∈ met then none else Table.get? fragments name := by
  induction fragments with
  | nil => simp [without]
  | cons entry rest ih =>
    obtain ⟨key, selections⟩ := entry
    rw [without] at ih ⊢
    by_cases hk : key ∈ met
    · rw [List.filter_cons_of_neg (by simpa using hk), ih, Table.get?]
      by_cases h : key = name
      · subst h
        rw [if_pos hk, if_pos hk]
      · rw [if_neg h]
    · rw [List.filter_cons_of_pos (by simpa using hk), Table.get?, ih, Table.get?]
      by_cases h : key = name
      · subst h
        rw [if_pos rfl, if_pos rfl, if_neg hk]
      · rw [if_neg h, if_neg h]

theorem without_erase (name : String) :
    Table.erase (fragments.without met) name = fragments.without (met ++ [name]) := by
  rw [Table.erase, without, List.filter_filter, without]
  refine List.filter_congr fun entry _ => ?_
  by_cases h : entry.1 = name <;> simp [h]

theorem without_nil : fragments.without [] = fragments := by
  simp [without]

theorem length_without_erase {name : String} {n : Nat} {selections : List Selection}
    (h : Table.get? (fragments.without met) name = some selections)
    (hn : (fragments.without met).length ≤ n + 1) :
    (fragments.without (met ++ [name])).length ≤ n := by
  have hmem := Table.mem_of_get? h
  have hlt : (Table.erase (fragments.without met) name).length <
      (fragments.without met).length := by
    rw [Table.erase, List.length_filter_lt_length_iff_exists]
    exact ⟨_, hmem, by simp⟩
  rw [without_erase] at hlt
  omega

theorem Leads.trans {spreads inner : List String} {name : String}
    (h : ∀ next ∈ inner, fragments.Leads spreads next) (hname : fragments.Leads inner name) :
    fragments.Leads spreads name := by
  induction hname with
  | own hmem => exact h _ hmem
  | through _ hnext ih => exact ih.through hnext

theorem leads_append {spreads more : List String} {name : String} :
    fragments.Leads (spreads ++ more) name ↔
      fragments.Leads spreads name ∨ fragments.Leads more name := by
  constructor
  · intro h
    induction h with
    | own hmem => exact (List.mem_append.mp hmem).imp .own .own
    | through _ hnext ih => exact ih.imp (.through · hnext) (.through · hnext)
  · rintro (h | h)
    · exact h.trans fun _ hnext => .own (List.mem_append_left _ hnext)
    · exact h.trans fun _ hnext => .own (List.mem_append_right _ hnext)

end Fragments

/-- What holds of a part of the search that starts after `met` were met: its result holds `fields`
and the fields of the fragments `names`, which are new, and all spreads of these were met. -/
structure Explored (fragments : Fragments) (met : List String) (fields : List Field)
    (spreads : List String) (result : List Field × Fragments) (names : List String) : Prop where
  found : result.1.Perm
    (fields ++ names.flatMap fun name => ownFields (fragments.body name))
  rest : result.2 = fragments.without (met ++ names)
  nodup : names.Nodup
  new : ∀ name ∈ names, name ∉ met ∧ Table.get? fragments name ≠ none
  met : ∀ name, name ∈ spreads ∨
    (∃ outer ∈ names, name ∈ ownSpreads (fragments.body outer)) →
    Table.get? fragments name = none ∨ name ∈ met ++ names
  led : ∀ name ∈ names, fragments.Leads spreads name

namespace Explored

variable {fragments : Fragments} {met : List String}

/-- A part without spreads is done when its fields are found. -/
theorem own (fields : List Field) :
    Explored fragments met fields [] (fields, fragments.without met) [] where
  found := by simp
  rest := by rw [List.append_nil]
  nodup := List.nodup_nil
  new := nofun
  met := by simp
  led := nofun

/-- A spread whose fragment was met or does not exist is done at once. -/
theorem skip {name : String} (h : Table.get? fragments name = none ∨ name ∈ met) :
    Explored fragments met [] [name] ([], fragments.without met) [] where
  found := .refl _
  rest := by rw [List.append_nil]
  nodup := List.nodup_nil
  new := nofun
  met := by
    rintro other (ho | ⟨outer, ho, -⟩)
    · rwa [List.mem_singleton.mp ho, List.append_nil]
    · cases ho
  led := nofun

/-- A spread of a new fragment is done when the selections of the fragment are. -/
theorem enter {name : String} {selections : List Selection} {result : List Field × Fragments}
    {names : List String} (hnew : name ∉ met)
    (hbody : Table.get? fragments name = some selections)
    (h : Explored fragments (met ++ [name]) (ownFields selections)
      (ownSpreads selections) result names) :
    Explored fragments met [] [name] result (name :: names) where
  found := by
    rw [List.flatMap_cons, Fragments.body, hbody]
    exact h.found
  rest := by rw [h.rest, List.append_assoc, List.singleton_append]
  nodup := List.nodup_cons.mpr ⟨fun hmem => (h.new name hmem).1 (by simp), h.nodup⟩
  new := by
    intro other ho
    rcases List.mem_cons.mp ho with rfl | ho
    · exact ⟨hnew, by simp [hbody]⟩
    · exact ⟨fun hmet => (h.new other ho).1 (List.mem_append_left _ hmet), (h.new other ho).2⟩
  met := by
    rw [List.append_cons]
    rintro other (ho | ⟨outer, houter, ho⟩)
    · exact Or.inr (by simp [List.mem_singleton.mp ho])
    · rcases List.mem_cons.mp houter with rfl | houter
      · rw [Fragments.body, hbody] at ho
        exact h.met other (Or.inl ho)
      · exact h.met other (Or.inr ⟨outer, houter, ho⟩)
  led := by
    intro other ho
    rcases List.mem_cons.mp ho with rfl | ho
    · exact .own List.mem_cons_self
    · refine .trans (fun next hnext => .through (.own List.mem_cons_self) ?_) (h.led other ho)
      rwa [Fragments.body, hbody]

/-- Parts that are done one after the other are done together. -/
theorem append {fields more : List Field} {spreads others : List String}
    {first second : List Field × Fragments} {names further : List String}
    (h : Explored fragments met fields spreads first names)
    (hmore : Explored fragments (met ++ names) more others second further) :
    Explored fragments met (fields ++ more) (spreads ++ others) (first.1 ++ second.1, second.2)
      (names ++ further) where
  found := by
    rw [List.flatMap_append, List.append_assoc]
    refine (h.found.append hmore.found).trans ?_
    rw [List.append_assoc]
    exact (List.perm_append_comm_assoc _ _ _).append_left _
  rest := by rw [hmore.rest, List.append_assoc]
  nodup := by
    refine List.nodup_append.mpr ⟨h.nodup, hmore.nodup, ?_⟩
    rintro name hn _ hf rfl
    exact (hmore.new name hf).1 (List.mem_append_right _ hn)
  new := by
    intro name hn
    rcases List.mem_append.mp hn with hn | hn
    · exact h.new name hn
    · exact ⟨fun hmet => (hmore.new name hn).1 (List.mem_append_left _ hmet), (hmore.new name hn).2⟩
  met := by
    rw [← List.append_assoc]
    intro name hname
    have hfirst : (name ∈ spreads ∨
        ∃ outer ∈ names, name ∈ ownSpreads (fragments.body outer)) →
        Table.get? fragments name = none ∨ name ∈ met ++ names ++ further :=
      fun hname => (h.met name hname).imp_right (List.mem_append_left _)
    rcases hname with hname | ⟨outer, houter, hname⟩
    · rcases List.mem_append.mp hname with hname | hname
      · exact hfirst (Or.inl hname)
      · exact hmore.met name (Or.inl hname)
    · rcases List.mem_append.mp houter with houter | houter
      · exact hfirst (Or.inr ⟨outer, houter, hname⟩)
      · exact hmore.met name (Or.inr ⟨outer, houter, hname⟩)
  led := by
    intro name hn
    rcases List.mem_append.mp hn with hn | hn
    · exact .trans (fun next hnext => .own (List.mem_append_left _ hnext)) (h.led name hn)
    · exact .trans (fun next hnext => .own (List.mem_append_right _ hnext)) (hmore.led name hn)

end Explored

/-! ### Collecting, one selection at a time -/

section Steps

variable (n : Nat) (head : FieldHead) (condition : Option String) (directives : List Directive)
  (inside rest : List Selection) (pending : Fragments)

theorem collectWithin_nil : collectWithin n [] pending = ([], pending) := by
  cases n <;> rfl

theorem collectWithin_field :
    collectWithin n (.field head inside :: rest) pending =
      (⟨head, inside⟩ :: (collectWithin n rest pending).1, (collectWithin n rest pending).2) := by
  cases n <;> rfl

theorem collectWithin_inline :
    collectWithin n (.inline condition directives inside :: rest) pending =
      ((collectWithin n inside pending).1 ++
        (collectWithin n rest (collectWithin n inside pending).2).1,
        (collectWithin n rest (collectWithin n inside pending).2).2) := by
  cases n <;> rfl

variable {n pending} {name : String} {body : List Selection}

theorem collectWithin_spread_of_none (h : pending.get? name = none) :
    collectWithin n (.spread name directives :: rest) pending = collectWithin n rest pending := by
  cases n with
  | zero => rfl
  | succ n =>
    simp only [collectWithin, Selection.flattenAll, Selection.flatten, h]
    rfl

theorem collectWithin_spread_of_some (h : pending.get? name = some body) :
    collectWithin (n + 1) (.spread name directives :: rest) pending =
      ((collectWithin n body (pending.erase name)).1 ++
        (collectWithin (n + 1) rest (collectWithin n body (pending.erase name)).2).1,
        (collectWithin (n + 1) rest (collectWithin n body (pending.erase name)).2).2) := by
  simp only [collectWithin, Selection.flattenAll, Selection.flatten, h]

end Steps

/-! ### The search -/

/-- **The search for fields** as it goes on, without a bound: from a selection set and the names
that were met before, it comes to fields and to the names that were met afterwards. A fragment is
met before its selections are searched, and is passed over from then on. -/
inductive Search (fragments : Fragments) :
    List String → List Selection → List Field → List String → Prop
  | nil {met : List String} : Search fragments met [] [] met
  | field {met after : List String} {head : FieldHead} {inside rest : List Selection}
      {fields : List Field} : Search fragments met rest fields after →
      Search fragments met (.field head inside :: rest) (⟨head, inside⟩ :: fields) after
  | inline {met between after : List String} {condition : Option String}
      {directives : List Directive} {inside rest : List Selection} {found fields : List Field} :
      Search fragments met inside found between → Search fragments between rest fields after →
      Search fragments met (.inline condition directives inside :: rest) (found ++ fields) after
  | skip {met after : List String} {name : String} {directives : List Directive}
      {rest : List Selection} {fields : List Field} :
      Table.get? fragments name = none ∨ name ∈ met → Search fragments met rest fields after →
      Search fragments met (.spread name directives :: rest) fields after
  | enter {met between after : List String} {name : String} {directives : List Directive}
      {body rest : List Selection} {found fields : List Field} : name ∉ met →
      Table.get? fragments name = some body → Search fragments (met ++ [name]) body found between →
      Search fragments between rest fields after →
      Search fragments met (.spread name directives :: rest) (found ++ fields) after

namespace Search

variable {fragments : Fragments} {met after : List String} {selections : List Selection}
  {fields : List Field}

/-- A search comes to one result only. -/
theorem unique {others : List Field} {last : List String}
    (h : Search fragments met selections fields after)
    (g : Search fragments met selections others last) : others = fields ∧ last = after := by
  induction h generalizing others last with
  | nil =>
    cases g
    exact ⟨rfl, rfl⟩
  | field _ ih =>
    cases g with
    | field hrest =>
      obtain ⟨rfl, rfl⟩ := ih hrest
      exact ⟨rfl, rfl⟩
  | inline _ _ ihinside ih =>
    cases g with
    | inline hinside hrest =>
      obtain ⟨rfl, rfl⟩ := ihinside hinside
      obtain ⟨rfl, rfl⟩ := ih hrest
      exact ⟨rfl, rfl⟩
  | skip hno _ ih =>
    cases g with
    | skip _ hrest => exact ih hrest
    | enter hnew hbody _ _ =>
      rcases hno with hnone | hmet
      · rw [hnone] at hbody
        cases hbody
      · exact absurd hmet hnew
  | enter hnew hbody _ _ ihbody ih =>
    cases g with
    | skip hno _ =>
      rcases hno with hnone | hmet
      · rw [hnone] at hbody
        cases hbody
      · exact absurd hmet hnew
    | enter _ hbody' hinside hrest =>
      rw [hbody, Option.some.injEq] at hbody'
      subst hbody'
      obtain ⟨rfl, rfl⟩ := ihbody hinside
      obtain ⟨rfl, rfl⟩ := ih hrest
      exact ⟨rfl, rfl⟩

/-- A search explores its selection set. -/
theorem explored (h : Search fragments met selections fields after) :
    ∃ names, after = met ++ names ∧
      Explored fragments met (ownFields selections) (ownSpreads selections)
        (fields, fragments.without after) names := by
  induction h with
  | @nil met => exact ⟨[], (List.append_nil met).symm, .own []⟩
  | @field met _ head inside rest fields _ ih =>
    obtain ⟨names, rfl, hrest⟩ := ih
    have hnext : Explored fragments (met ++ []) (ownFields rest) (ownSpreads rest)
        (fields, fragments.without (met ++ names)) names := by rwa [List.append_nil]
    exact ⟨names, rfl, (Explored.own [⟨head, inside⟩]).append hnext⟩
  | inline _ _ ihinside ih =>
    obtain ⟨names, rfl, hinside⟩ := ihinside
    obtain ⟨further, rfl, hrest⟩ := ih
    rw [ownFields_inline, ownSpreads_inline]
    exact ⟨names ++ further, List.append_assoc _ _ _, hinside.append hrest⟩
  | @skip met _ name _ rest fields hno _ ih =>
    obtain ⟨names, rfl, hrest⟩ := ih
    have hnext : Explored fragments (met ++ []) (ownFields rest) (ownSpreads rest)
        (fields, fragments.without (met ++ names)) names := by rwa [List.append_nil]
    exact ⟨names, rfl, (Explored.skip hno).append hnext⟩
  | @enter met _ _ name _ _ rest _ fields hnew hbody _ _ ihbody ih =>
    obtain ⟨names, rfl, hinside⟩ := ihbody
    obtain ⟨further, rfl, hrest⟩ := ih
    have hnext : Explored fragments (met ++ name :: names) (ownFields rest) (ownSpreads rest)
        (fields, fragments.without (met ++ [name] ++ names ++ further)) further := by
      rwa [List.append_cons]
    exact ⟨name :: names ++ further, by simp, (Explored.enter hnew hbody hinside).append hnext⟩

end Search

theorem Fragments.length_without_append {fragments : Fragments} (met names : List String) :
    (fragments.without (met ++ names)).length ≤ (fragments.without met).length := by
  have h : fragments.without (met ++ names) =
      (fragments.without met).filter fun entry => entry.1 ∉ names := by
    rw [without, without, List.filter_filter]
    refine List.filter_congr fun entry _ => ?_
    by_cases hm : entry.1 ∈ met <;> simp [hm]
  rw [h]
  exact List.length_filter_le _ _

/-- The search comes to an end, and what is collected within a bound is its result if the bound
allows for all fragments still to be spread. -/
theorem search_collectWithin {fragments : Fragments} :
    ∀ (n : Nat) (selections : List Selection) (met : List String),
      (fragments.without met).length ≤ n →
        ∃ names, Search fragments met selections
            (collectWithin n selections (fragments.without met)).1 (met ++ names) ∧
          (collectWithin n selections (fragments.without met)).2 =
            fragments.without (met ++ names)
  | n, [], met, _ => by
    refine ⟨[], ?_, ?_⟩ <;> rw [collectWithin_nil, List.append_nil]
    exact .nil
  | n, .field head inside :: rest, met, hn => by
    obtain ⟨names, hrest, hafter⟩ := search_collectWithin n rest met hn
    rw [collectWithin_field]
    exact ⟨names, .field hrest, hafter⟩
  | n, .inline condition directives inside :: rest, met, hn => by
    obtain ⟨names, hinside, hbetween⟩ := search_collectWithin n inside met hn
    obtain ⟨further, hrest, hafter⟩ := search_collectWithin n rest (met ++ names)
      (Nat.le_trans (Fragments.length_without_append met names) hn)
    rw [collectWithin_inline, hbetween]
    rw [List.append_assoc] at hrest hafter
    exact ⟨names ++ further, .inline hinside hrest, hafter⟩
  | n, .spread name directives :: rest, met, hn => by
    have hpending := Fragments.get?_without fragments met name
    cases hbody : Table.get? (fragments.without met) name with
    | none =>
      obtain ⟨names, hrest, hafter⟩ := search_collectWithin n rest met hn
      have hno : Table.get? fragments name = none ∨ name ∈ met := by
        by_cases hmet : name ∈ met
        · exact Or.inr hmet
        · rw [hbody, if_neg hmet] at hpending
          exact Or.inl hpending.symm
      rw [collectWithin_spread_of_none _ _ hbody]
      exact ⟨names, .skip hno hrest, hafter⟩
    | some body =>
      have hmet : name ∉ met := by
        intro hmet
        rw [hbody, if_pos hmet] at hpending
        cases hpending
      rw [hbody, if_neg hmet] at hpending
      obtain ⟨m, hm⟩ : ∃ m, n = m + 1 := by
        refine Nat.exists_eq_add_one.mpr (Nat.lt_of_lt_of_le ?_ hn)
        exact List.length_pos_of_mem (Table.mem_of_get? hbody)
      obtain ⟨names, hinside, hbetween⟩ := search_collectWithin m body (met ++ [name])
        (Fragments.length_without_erase hbody (hm ▸ hn))
      rw [← List.append_cons] at hinside hbetween
      obtain ⟨further, hrest, hafter⟩ := search_collectWithin n rest (met ++ name :: names)
        (Nat.le_trans (Fragments.length_without_append met _) hn)
      subst hm
      rw [collectWithin_spread_of_some _ _ hbody, Fragments.without_erase, hbetween]
      rw [List.append_assoc] at hrest hafter
      exact ⟨name :: names ++ further, .enter hmet hpending.symm hinside hrest, hafter⟩
termination_by n selections => (n, sizeOf selections)

/-- The search explores a selection set if its bound allows for all fragments still to be spread. -/
theorem explored_collectWithin {fragments : Fragments} (n : Nat) (selections : List Selection)
    (met : List String) (hn : (fragments.without met).length ≤ n) :
    ∃ names, Explored fragments met (ownFields selections) (ownSpreads selections)
      (collectWithin n selections (fragments.without met)) names := by
  obtain ⟨names, hsearch, hafter⟩ := search_collectWithin n selections met hn
  obtain ⟨others, hnames, h⟩ := hsearch.explored
  obtain rfl := List.append_cancel_left hnames
  rw [← hafter] at h
  exact ⟨names, h⟩

/-- What is collected is what the search comes to. -/
theorem search_collect (fragments : Fragments) (selections : List Selection) :
    ∃ names, Search fragments [] selections (collect fragments selections) names := by
  obtain ⟨names, hsearch, -⟩ := search_collectWithin fragments.length selections []
    (Nat.le_of_eq (congrArg List.length fragments.without_nil))
  rw [Fragments.without_nil] at hsearch
  exact ⟨names, hsearch⟩

/-- **What a search comes to.** The fragments that it meets are those that the selection set leads
to, and it finds the fields of the selection set itself and of each of them, once a fragment. -/
theorem Search.reaches {fragments : Fragments} {selections : List Selection} {fields : List Field}
    {names : List String} (h : Search fragments [] selections fields names) :
    names.Nodup ∧
      (∀ name, name ∈ names ↔ Table.get? fragments name ≠ none ∧
        fragments.Leads (ownSpreads selections) name) ∧
      fields.Perm (ownFields selections ++
        names.flatMap fun name => ownFields (fragments.body name)) := by
  obtain ⟨names, rfl, h⟩ := h.explored
  refine ⟨h.nodup, fun name => ⟨fun hn => ⟨(h.new name hn).2, h.led name hn⟩, ?_⟩, h.found⟩
  rintro ⟨hdefined, hled⟩
  induction hled with
  | own hmem => exact (h.met _ (Or.inl hmem)).resolve_left hdefined
  | @through outer next _ hnext ih =>
    refine (h.met _ (Or.inr ⟨outer, ih ?_, hnext⟩)).resolve_left hdefined
    intro hnone
    rw [Fragments.body, hnone] at hnext
    cases hnext

/-- A field is collected if it stands in the selection set itself or in a fragment that this leads
to. -/
theorem mem_collect_iff {fragments : Fragments} {selections : List Selection} {field : Field} :
    field ∈ collect fragments selections ↔ field ∈ ownFields selections ∨
      ∃ name, fragments.Leads (ownSpreads selections) name ∧
        field ∈ ownFields (fragments.body name) := by
  obtain ⟨names, hsearch⟩ := search_collect fragments selections
  obtain ⟨-, hnames, hperm⟩ := hsearch.reaches
  rw [hperm.mem_iff, List.mem_append, List.mem_flatMap]
  refine or_congr_right (exists_congr fun name => ?_)
  refine ⟨fun ⟨hn, hf⟩ => ⟨((hnames name).mp hn).2, hf⟩, fun ⟨hled, hf⟩ => ⟨?_, hf⟩⟩
  refine (hnames name).mpr ⟨fun hnone => ?_, hled⟩
  rw [Fragments.body, hnone] at hf
  cases hf

/-- What two selection sets collect together, each does on its own. -/
theorem mem_collect_append {fragments : Fragments} {selections more : List Selection}
    {field : Field} :
    field ∈ collect fragments (selections ++ more) ↔
      field ∈ collect fragments selections ∨ field ∈ collect fragments more := by
  simp only [mem_collect_iff, ownFields_append, ownSpreads_append, Fragments.leads_append,
    List.mem_append, or_and_right, exists_or]
  exact or_or_or_comm

theorem leaves_subset {selection : Selection} {selections : List Selection}
    (h : selection ∈ selections) : selection.leaves ⊆ Selection.leavesOfAll selections := by
  induction selections with
  | nil => cases h
  | cons first rest ih =>
    rw [Selection.leavesOfAll]
    rcases List.mem_cons.mp h with rfl | h
    · exact List.subset_append_left _ _
    · exact List.Subset.trans (ih h) (List.subset_append_right _ _)

/-- What a selection set collects grows with its leaves. -/
theorem collect_subset {fragments : Fragments} {inner outer : List Selection}
    (h : Selection.leavesOfAll inner ⊆ Selection.leavesOfAll outer) :
    collect fragments inner ⊆ collect fragments outer := by
  intro field hf
  rw [mem_collect_iff] at hf ⊢
  rcases hf with hf | ⟨name, hled, hf⟩
  · exact Or.inl (List.filterMap_subset _ h hf)
  · exact Or.inr ⟨name, .trans (fun next hn => .own (List.filterMap_subset _ h hn)) hled, hf⟩

/-- What a fragment collects is collected wherever it is spread. -/
theorem collect_body_subset {fragments : Fragments} {name : String} {selections : List Selection}
    (h : name ∈ ownSpreads selections) :
    collect fragments (fragments.body name) ⊆ collect fragments selections := by
  intro field hf
  rw [mem_collect_iff] at hf ⊢
  rcases hf with hf | ⟨next, hled, hf⟩
  · exact Or.inr ⟨name, .own h, hf⟩
  · exact Or.inr ⟨next, .trans (fun _ hn => .through (.own h) hn) hled, hf⟩

end SchemaVisibility.GraphQL
