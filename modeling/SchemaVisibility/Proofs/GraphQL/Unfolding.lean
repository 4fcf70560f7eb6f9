import SchemaVisibility.Proofs.GraphQL.Collection
import SchemaVisibility.Proofs.Repetition

/-! # Unfolded selections

Selections are unfolded when every spread in them, at any depth, is replaced by an inline fragment
with what the fragment selects, unfolded in its turn. `Unfolds` is an inductive relation: selections
have an unfolding just if every fragment that they reach is defined and does not reach itself.

Collecting fields spreads a fragment once in a selection set, while the unfolded selections repeat
its fields wherever it was spread. A spread of a fragment that was met before adds nothing new: the
fragment is not one that is still being searched, since it would lead to itself (`not_leads_self`),
so its search is over, and that found all its fields and those of the fragments it leads to
(`Fragments.Finished`). Hence what is collected from the unfolded selections repeats what is
collected from the selections (`Unfolds.repeats`).
-/

namespace SchemaVisibility.GraphQL

variable {fragments : Fragments}

/-! ### Finished fragments -/

/-- Whether the search of every fragment that was met and that spreads lead to is over: its fields
were seen and the fragments that it spreads were met. -/
def Fragments.Finished (fragments : Fragments) (met : List String) (seen : List Field)
    (spreads : List String) : Prop :=
  ∀ name ∈ met, fragments.Leads spreads name →
    ownFields (fragments.body name) ⊆ seen ∧ ownSpreads (fragments.body name) ⊆ met

namespace Fragments.Finished

variable {met spreads others : List String} {seen more : List Field}

theorem of_leads (h : fragments.Finished met seen spreads)
    (hled : ∀ name ∈ others, fragments.Leads spreads name) : fragments.Finished met seen others :=
  fun name hmet hname => h name hmet (.trans hled hname)

theorem mono (h : fragments.Finished met seen spreads) (hsub : seen ⊆ more) :
    fragments.Finished met more spreads :=
  fun name hmet hname => ⟨List.Subset.trans (h name hmet hname).1 hsub, (h name hmet hname).2⟩

/-- All that a finished fragment collects was seen. -/
theorem collect_subset {name : String} (h : fragments.Finished met seen spreads)
    (hmet : name ∈ met) (hname : name ∈ spreads) :
    collect fragments (fragments.body name) ⊆ seen := by
  have hall : ∀ next, fragments.Leads (ownSpreads (fragments.body name)) next → next ∈ met ∧
      fragments.Leads spreads next := by
    intro next hnext
    induction hnext with
    | own hmem => exact ⟨(h name hmet (.own hname)).2 hmem, .through (.own hname) hmem⟩
    | through _ hmem ih => exact ⟨(h _ ih.1 ih.2).2 hmem, .through ih.2 hmem⟩
  intro field hfield
  rcases mem_collect_iff.mp hfield with hfield | ⟨next, hnext, hfield⟩
  · exact (h name hmet (.own hname)).1 hfield
  · exact (h next (hall next hnext).1 (hall next hnext).2).1 hfield

/-- Fragments that were finished are so in a fragment that is searched next, which is not among them
there if it does not lead to itself. -/
theorem enter {name : String} (h : fragments.Finished met seen spreads) (hname : name ∈ spreads)
    (hself : ¬ fragments.Leads (ownSpreads (fragments.body name)) name) :
    fragments.Finished (met ++ [name]) seen (ownSpreads (fragments.body name)) := by
  intro next hnext hled
  rcases List.mem_append.mp hnext with hmet | hlast
  · obtain ⟨hfields, hspreads⟩ :=
      h next hmet (.trans (fun _ hown => .through (.own hname) hown) hled)
    exact ⟨hfields, List.Subset.trans hspreads (List.subset_append_left _ _)⟩
  · exact absurd (List.mem_singleton.mp hlast ▸ hled) hself

/-- A part of the search finishes the fragments that it meets, if it leads to defined ones only. -/
theorem explored {fields : List Field} {inner : List String} {result : List Field × Fragments}
    {names : List String} (h : fragments.Finished met seen spreads)
    (hpart : Explored fragments met fields inner result names)
    (hdefined : ∀ name, fragments.Leads inner name → Table.get? fragments name ≠ none) :
    fragments.Finished (met ++ names) (result.1 ++ seen) spreads := by
  intro name hname hled
  rcases List.mem_append.mp hname with hmet | hnew
  · obtain ⟨hfields, hspreads⟩ := h name hmet hled
    exact ⟨List.Subset.trans hfields (List.subset_append_right _ _),
      List.Subset.trans hspreads (List.subset_append_left _ _)⟩
  · constructor
    · intro field hfield
      refine List.mem_append_left _ (hpart.found.mem_iff.mpr (List.mem_append_right _ ?_))
      exact List.mem_flatMap.mpr ⟨name, hnew, hfield⟩
    · intro next hnext
      exact (hpart.met next (Or.inr ⟨name, hnew, hnext⟩)).resolve_left
        (hdefined next ((hpart.led name hnew).through hnext))

end Fragments.Finished

/-! ### Unfolding -/

/-- **Unfolded selections.** Every spread of a fragment is replaced by an inline fragment with the
unfolded selections of that fragment. -/
inductive Unfolds (fragments : Fragments) : List Selection → List Selection → Prop
  | nil : Unfolds fragments [] []
  | field {head : FieldHead} {inside inner rest more : List Selection} :
      Unfolds fragments inside inner → Unfolds fragments rest more →
      Unfolds fragments (.field head inside :: rest) (.field head inner :: more)
  | inline {condition : Option String} {directives : List Directive}
      {inside inner rest more : List Selection} :
      Unfolds fragments inside inner → Unfolds fragments rest more →
      Unfolds fragments (.inline condition directives inside :: rest)
        (.inline condition directives inner :: more)
  | spread {name : String} {condition : Option String} {directives : List Directive}
      {body inner rest more : List Selection} : Table.get? fragments name = some body →
      Unfolds fragments body inner → Unfolds fragments rest more →
      Unfolds fragments (.spread name directives :: rest)
        (.inline condition directives inner :: more)

mutual

/-- The names of the fragments that are spread in a selection, at any depth. -/
def Selection.spreadNames : Selection → List String
  | .field _ selections => Selection.spreadNamesOfAll selections
  | .inline _ _ selections => Selection.spreadNamesOfAll selections
  | .spread fragment _ => [fragment]

/-- The names of the fragments that are spread in selections, at any depth. -/
def Selection.spreadNamesOfAll : List Selection → List String
  | [] => []
  | selection :: rest => Selection.spreadNames selection ++ Selection.spreadNamesOfAll rest

end

mutual

/-- A selection with what a map makes of the spreads in it, at any depth. -/
def Selection.mapSpreads (f : String → List Directive → Selection) : Selection → Selection
  | .field head selections => .field head (Selection.mapSpreadsAll f selections)
  | .inline condition directives selections =>
    .inline condition directives (Selection.mapSpreadsAll f selections)
  | .spread fragment directives => f fragment directives

/-- Selections with what a map makes of the spreads in them, at any depth. -/
def Selection.mapSpreadsAll (f : String → List Directive → Selection) :
    List Selection → List Selection
  | [] => []
  | selection :: rest => Selection.mapSpreads f selection :: Selection.mapSpreadsAll f rest

end

/-- Whether a map replaces the spreads of a fragment by its unfolded selections. -/
def Fragments.UnfoldsAt (fragments : Fragments) (f : String → List Directive → Selection)
    (name : String) : Prop :=
  ∀ directives, ∃ condition body inner, f name directives = .inline condition directives inner ∧
    Table.get? fragments name = some body ∧ Unfolds fragments body inner

mutual

theorem unfolds_mapSpreads {f : String → List Directive → Selection} :
    ∀ selection : Selection, (∀ name ∈ selection.spreadNames, fragments.UnfoldsAt f name) →
      ∀ {rest more : List Selection}, Unfolds fragments rest more →
        Unfolds fragments (selection :: rest) (selection.mapSpreads f :: more)
  | .field _ selections, hf, _, _, hrest => .field (unfolds_mapSpreadsAll selections hf) hrest
  | .inline _ _ selections, hf, _, _, hrest => .inline (unfolds_mapSpreadsAll selections hf) hrest
  | .spread name directives, hf, _, _, hrest => by
    obtain ⟨condition, body, inner, heq, hbody, hinner⟩ := hf name List.mem_cons_self directives
    rw [Selection.mapSpreads, heq]
    exact .spread hbody hinner hrest

/-- A map that unfolds each fragment that is spread unfolds the selections. -/
theorem unfolds_mapSpreadsAll {f : String → List Directive → Selection} :
    ∀ selections : List Selection,
      (∀ name ∈ Selection.spreadNamesOfAll selections, fragments.UnfoldsAt f name) →
        Unfolds fragments selections (Selection.mapSpreadsAll f selections)
  | [], _ => .nil
  | selection :: rest, hf => by
    refine unfolds_mapSpreads selection (fun name hname => ?_) (unfolds_mapSpreadsAll rest ?_)
    · exact hf name (List.mem_append_left _ hname)
    · exact fun name hname => hf name (List.mem_append_right _ hname)

end

/-- Unfolded selections spread nothing, at any depth. -/
theorem Unfolds.spreadNames_eq_nil {selections unfolded : List Selection}
    (h : Unfolds fragments selections unfolded) : Selection.spreadNamesOfAll unfolded = [] := by
  induction h with
  | nil => rfl
  | field _ _ ihinside ih | inline _ _ ihinside ih | spread _ _ _ ihinside ih =>
    rw [Selection.spreadNamesOfAll, Selection.spreadNames, ihinside, ih, List.append_nil]

/-- Whether a field is another one with its selections unfolded. -/
def UnfoldsField (fragments : Fragments) (field other : Field) : Prop :=
  other.head = field.head ∧ Unfolds fragments field.selections other.selections

namespace Unfolds

variable {selections unfolded : List Selection} {name : String}

theorem of_mem_ownSpreads (h : Unfolds fragments selections unfolded)
    (hname : name ∈ ownSpreads selections) :
    ∃ body inner, Table.get? fragments name = some body ∧ Unfolds fragments body inner := by
  induction h with
  | nil => cases hname
  | field _ _ _ ih => exact ih hname
  | inline _ _ ihinside ih =>
    rw [ownSpreads_inline] at hname
    exact (List.mem_append.mp hname).elim ihinside ih
  | spread hbody hinner _ _ ih =>
    rcases List.mem_cons.mp hname with rfl | hname
    · exact ⟨_, _, hbody, hinner⟩
    · exact ih hname

/-- Selections that are unfolded lead only to fragments that are defined. -/
theorem defined (h : Unfolds fragments selections unfolded)
    (hname : fragments.Leads (ownSpreads selections) name) :
    Table.get? fragments name ≠ none := by
  have hbody : ∃ body inner,
      Table.get? fragments name = some body ∧ Unfolds fragments body inner := by
    induction hname with
    | own hmem => exact h.of_mem_ownSpreads hmem
    | through _ hnext ih =>
      obtain ⟨body, inner, hbody, hinner⟩ := ih
      rw [Fragments.body, hbody] at hnext
      exact hinner.of_mem_ownSpreads hnext
  obtain ⟨body, -, hbody, -⟩ := hbody
  rw [hbody]
  exact Option.some_ne_none body

/-- From the fragments that unfolded selections spread, spreads cannot be followed forever. -/
theorem acc (h : Unfolds fragments selections unfolded) (hname : name ∈ ownSpreads selections) :
    Acc (fun next outer => next ∈ ownSpreads (fragments.body outer)) name := by
  induction h generalizing name with
  | nil => cases hname
  | field _ _ _ ih => exact ih hname
  | inline _ _ ihinside ih =>
    rw [ownSpreads_inline] at hname
    exact (List.mem_append.mp hname).elim ihinside ih
  | spread hbody _ _ ihbody ih =>
    rcases List.mem_cons.mp hname with rfl | hname
    · refine .intro _ fun next hnext => ihbody ?_
      rwa [Fragments.body, hbody] at hnext
    · exact ih hname

end Unfolds

/-- A fragment from which spreads cannot be followed forever does not lead to itself. -/
theorem not_leads_self {name : String}
    (h : Acc (fun next outer => next ∈ ownSpreads (fragments.body outer)) name) :
    ¬ fragments.Leads (ownSpreads (fragments.body name)) name := by
  induction h with
  | intro name _ ih =>
    intro hled
    -- the way back to `name` starts with a spread, and that fragment leads to itself too
    have hfirst : ∀ last, fragments.Leads (ownSpreads (fragments.body name)) last →
        ∃ next ∈ ownSpreads (fragments.body name),
          next = last ∨ fragments.Leads (ownSpreads (fragments.body next)) last := by
      intro last hlast
      induction hlast with
      | own hmem => exact ⟨_, hmem, Or.inl rfl⟩
      | through _ hmem ihlast =>
        obtain ⟨next, hnext, rfl | hinner⟩ := ihlast
        · exact ⟨next, hnext, Or.inr (.own hmem)⟩
        · exact ⟨next, hnext, Or.inr (hinner.through hmem)⟩
    obtain ⟨next, hnext, rfl | hback⟩ := hfirst name hled
    · exact ih next hnext hled
    · exact ih next hnext (hback.through hnext)

namespace Unfolds

variable {selections unfolded : List Selection}

/-! ### What unfolded selections collect -/

/-- Every field of unfolded selections unfolds one that the selections collect. -/
theorem exists_collected (h : Unfolds fragments selections unfolded) {other : Field}
    (hother : other ∈ ownFields unfolded) :
    ∃ field ∈ collect fragments selections, UnfoldsField fragments field other := by
  induction h with
  | nil => cases hother
  | field hinner _ _ ih =>
    rcases List.mem_cons.mp hother with rfl | hother
    · exact ⟨_, mem_collect_iff.mpr (Or.inl List.mem_cons_self), rfl, hinner⟩
    · obtain ⟨field, hfield, hunfolds⟩ := ih hother
      exact ⟨field, collect_subset (List.subset_cons_self _ _) hfield, hunfolds⟩
  | inline _ _ ihinside ih =>
    rw [ownFields_inline] at hother
    rcases List.mem_append.mp hother with hother | hother
    · obtain ⟨field, hfield, hunfolds⟩ := ihinside hother
      exact ⟨field, collect_subset (List.subset_append_left _ _) hfield, hunfolds⟩
    · obtain ⟨field, hfield, hunfolds⟩ := ih hother
      exact ⟨field, collect_subset (List.subset_append_right _ _) hfield, hunfolds⟩
  | @spread name _ _ body _ _ _ hbody _ _ ihbody ih =>
    rw [ownFields_inline] at hother
    rcases List.mem_append.mp hother with hother | hother
    · obtain ⟨field, hfield, hunfolds⟩ := ihbody hother
      have hsame : fragments.body name = body := by rw [Fragments.body, hbody]; rfl
      exact ⟨field, collect_body_subset List.mem_cons_self (hsame ▸ hfield), hunfolds⟩
    · obtain ⟨field, hfield, hunfolds⟩ := ih hother
      exact ⟨field, collect_subset (List.subset_cons_self _ _) hfield, hunfolds⟩

/-- The fields of a fragment that was met and is finished were all seen. -/
theorem repeats_of_met {name : String} {met spreads : List String} {seen : List Field}
    {inner : List Selection} (h : Unfolds fragments (fragments.body name) inner)
    (hfinished : fragments.Finished met seen spreads) (hmet : name ∈ met)
    (hname : name ∈ spreads) : Repeats (UnfoldsField fragments) seen [] (ownFields inner) := by
  refine .of_seen fun other hother => ?_
  obtain ⟨field, hfield, hunfolds⟩ := h.exists_collected hother
  exact ⟨field, hfinished.collect_subset hmet hname hfield, hunfolds⟩

/-- A search that starts after some fragments were met collects what the unfolded selections repeat,
if those that the selections lead to are finished. -/
theorem repeats_within (h : Unfolds fragments selections unfolded) :
    ∀ (n : Nat) (met : List String) (seen : List Field), (fragments.without met).length ≤ n →
      fragments.Finished met seen (ownSpreads selections) →
      Repeats (UnfoldsField fragments) seen
        (collectWithin n selections (fragments.without met)).1 (ownFields unfolded) := by
  induction h with
  | nil =>
    intro n met seen _ _
    rw [collectWithin_nil]
    exact .nil
  | field hinner _ _ ih =>
    intro n met seen hn hfinished
    rw [collectWithin_field]
    exact .first ⟨rfl, hinner⟩ (ih n met _ hn (hfinished.mono (List.subset_cons_self _ _)))
  | @inline condition directives inside _ rest _ hinner _ ihinside ih =>
    intro n met seen hn hfinished
    obtain ⟨names, hpart⟩ := explored_collectWithin n inside met hn
    rw [ownSpreads_inline] at hfinished
    have hinside : fragments.Finished met seen (ownSpreads inside) :=
      hfinished.of_leads fun _ hname => .own (List.mem_append_left _ hname)
    have hrest : fragments.Finished met seen (ownSpreads rest) :=
      hfinished.of_leads fun _ hname => .own (List.mem_append_right _ hname)
    rw [collectWithin_inline, ownFields_inline, hpart.rest]
    exact (ihinside n met seen hn hinside).append
      (ih n (met ++ names) _ (Nat.le_trans (Fragments.length_without_append met names) hn)
        (hrest.explored hpart fun _ => hinner.defined))
  | @spread name condition directives body inner rest more hbody hinner hmore ihbody ih =>
    intro n met seen hn hfinished
    obtain rfl : fragments.body name = body := by rw [Fragments.body, hbody]; rfl
    have hself : Unfolds fragments (.spread name directives :: rest)
        (.inline condition directives inner :: more) := .spread hbody hinner hmore
    have hrest : fragments.Finished met seen (ownSpreads rest) :=
      hfinished.of_leads fun _ hname => .own (List.mem_cons_of_mem _ hname)
    have hpending := Fragments.get?_without fragments met name
    rw [ownFields_inline]
    -- what a fragment that was met adds was seen before, a new one is searched before the rest
    by_cases hmet : name ∈ met
    · rw [if_pos hmet] at hpending
      rw [collectWithin_spread_of_none _ _ hpending]
      exact (hinner.repeats_of_met hfinished hmet List.mem_cons_self).append
        (ih n met seen hn hrest)
    · rw [if_neg hmet, hbody] at hpending
      cases n with
      | zero =>
        rw [List.eq_nil_of_length_eq_zero (Nat.le_zero.mp hn)] at hpending
        cases hpending
      | succ n =>
        have hless := Fragments.length_without_erase hpending hn
        obtain ⟨names, hpart⟩ :=
          explored_collectWithin n (fragments.body name) (met ++ [name]) hless
        have hwhole : Explored fragments met [] [name] _ (name :: names) := .enter hmet hbody hpart
        have hinside := hfinished.enter List.mem_cons_self
          (not_leads_self (hself.acc List.mem_cons_self))
        have hdefined : ∀ next, fragments.Leads [name] next → Table.get? fragments next ≠ none := by
          refine fun next hled => hself.defined (.trans (fun _ hown => .own ?_) hled)
          exact List.mem_singleton.mp hown ▸ List.mem_cons_self
        rw [collectWithin_spread_of_some _ _ hpending, Fragments.without_erase, hwhole.rest]
        exact (ihbody n (met ++ [name]) seen hless hinside).append
          (ih (n + 1) (met ++ name :: names) _
            (Nat.le_trans (Fragments.length_without_append met _) hn)
            (hrest.explored hwhole hdefined))

/-- Unfolded selections have no spreads: their fields are their own, whatever spreads come to. -/
theorem flattenAll_unfolded (h : Unfolds fragments selections unfolded) (expand : Expansion)
    (pending : Fragments) :
    Selection.flattenAll expand unfolded pending = (ownFields unfolded, pending) := by
  induction h with
  | nil => rfl
  | field _ _ _ ih =>
    rw [Selection.flattenAll, Selection.flatten]
    simp only [ih]
    rfl
  | inline _ _ ihinside ih | spread _ _ _ ihinside ih =>
    rw [Selection.flattenAll, Selection.flatten]
    simp only [ihinside, ih, ownFields_inline]

theorem collect_unfolded (h : Unfolds fragments selections unfolded) (others : Fragments) :
    collect others unfolded = ownFields unfolded := by
  rw [collect]
  cases others.length with
  | zero => rw [collectWithin, h.flattenAll_unfolded]
  | succ n => rw [collectWithin, h.flattenAll_unfolded]

/-- **What is collected from unfolded selections** repeats what is collected from the selections. -/
theorem repeats (h : Unfolds fragments selections unfolded) (others : Fragments) :
    Repeats (UnfoldsField fragments) [] (collect fragments selections)
      (collect others unfolded) := by
  have hwithin := h.repeats_within fragments.length [] []
    (Nat.le_of_eq (congrArg List.length Fragments.without_nil)) fun _ hname => nomatch hname
  rw [Fragments.without_nil] at hwithin
  rw [h.collect_unfolded, collect]
  exact hwithin

end Unfolds

end SchemaVisibility.GraphQL
