import Mathlib.Data.List.Perm.Subperm
import SchemaVisibility.Proofs.GraphQL.Unfolding
import SchemaVisibility.Proofs.Introspection.Translation

/-! # Redaction with unfolded documents

A document is unfolded when each spread in it, at any depth, is replaced by an inline fragment with
the selections of its fragment, where spreads are replaced in turn (`Document.unfolded`). This comes
to an end if the spreads that the operations reach are resolved: their fragments are defined, and
none of them reaches itself (`Document.Resolves`). A chain of spreads then names different fragments
all along, so it is no longer than there are fragments (`unfolds_unfoldWithin`).

Unfolded documents are translated ones: they collect what the document collects, in the same order,
and repeat the fields of a fragment wherever it was spread again. So redaction makes the same of
their data (`redact_unfolded`).
-/

namespace SchemaVisibility

open GraphQL

namespace GraphQL

/-! ### Unfolded documents -/

/-- Selections with each spread replaced by an inline fragment, nested at most as deep as the
bound. -/
def Document.unfoldWithin (document : Document) : Nat → List Selection → List Selection
  | 0 => Selection.mapSpreadsAll .spread
  | n + 1 => Selection.mapSpreadsAll fun name directives =>
    match document.fragment? name with
    | none => .spread name directives
    | some fragment =>
      .inline (some fragment.condition) directives (document.unfoldWithin n fragment.selections)

/-- A document with each spread replaced by an inline fragment, at any depth. -/
def Document.unfolded (document : Document) : Document :=
  document.mapSelections (document.unfoldWithin document.fragments.length)

/-- The fragments that selections reach through spreads, at any depth. -/
inductive Document.Reaches (document : Document) (selections : List Selection) : String → Prop
  | spread {name : String} : name ∈ Selection.spreadNamesOfAll selections →
      Reaches document selections name
  | through {outer name : String} {fragment : Fragment} : Reaches document selections outer →
      document.fragment? outer = some fragment →
      name ∈ Selection.spreadNamesOfAll fragment.selections → Reaches document selections name

/-- Whether the fragments that selections reach are defined and do not reach themselves. -/
structure Document.Resolves (document : Document) (selections : List Selection) : Prop where
  defined {name : String} : document.Reaches selections name →
    ∃ fragment, document.fragment? name = some fragment
  acyclic {name : String} {fragment : Fragment} : document.Reaches selections name →
    document.fragment? name = some fragment → ¬ document.Reaches fragment.selections name

variable {document : Document} {selections : List Selection}

theorem Document.Reaches.of_fragment {name next : String} {fragment : Fragment}
    (hname : document.Reaches selections name) (hfragment : document.fragment? name = some fragment)
    (hnext : document.Reaches fragment.selections next) : document.Reaches selections next := by
  induction hnext with
  | spread hmem => exact .through hname hfragment hmem
  | through _ hinner hmem ih => exact ih.through hinner hmem

theorem Document.Resolves.of_fragment {name : String} {fragment : Fragment}
    (h : document.Resolves selections) (hname : document.Reaches selections name)
    (hfragment : document.fragment? name = some fragment) :
    document.Resolves fragment.selections where
  defined hnext := h.defined (hname.of_fragment hfragment hnext)
  acyclic hnext := h.acyclic (hname.of_fragment hfragment hnext)

/-- Selections are resolved if the fragments that they spread can be ranked, such that each of these
is defined and spreads only fragments of lower rank. -/
theorem Document.resolves_of_rank {names : List String} (rank : String → Nat)
    (hown : Selection.spreadNamesOfAll selections ⊆ names)
    (hnames : ∀ name ∈ names, ∃ fragment ∈ document.fragment? name,
      ∀ next ∈ Selection.spreadNamesOfAll fragment.selections,
        next ∈ names ∧ rank next < rank name) :
    document.Resolves selections := by
  have hstep : ∀ {outer next : String} {fragment : Fragment}, outer ∈ names →
      document.fragment? outer = some fragment →
      next ∈ Selection.spreadNamesOfAll fragment.selections →
      next ∈ names ∧ rank next < rank outer := by
    intro outer next fragment houter hfragment hnext
    obtain ⟨other, hsame, hlower⟩ := hnames outer houter
    rw [hfragment, Option.mem_some] at hsame
    exact hlower next (hsame ▸ hnext)
  have hmem : ∀ {name}, document.Reaches selections name → name ∈ names := by
    intro name hname
    induction hname with
    | spread hin => exact hown hin
    | through _ hfragment hin ih => exact (hstep ih hfragment hin).1
  constructor
  · intro name hname
    obtain ⟨fragment, hfragment, -⟩ := hnames name (hmem hname)
    exact ⟨fragment, hfragment⟩
  · intro name fragment hname hfragment hself
    have hlower : ∀ {next}, document.Reaches fragment.selections next →
        next ∈ names ∧ rank next < rank name := by
      intro next hnext
      induction hnext with
      | spread hin => exact hstep (hmem hname) hfragment hin
      | through _ hinner hin ih =>
        obtain ⟨hnext, hlt⟩ := hstep ih.1 hinner hin
        exact ⟨hnext, Nat.lt_trans hlt ih.2⟩
    exact Nat.lt_irrefl _ (hlower hself).2

end GraphQL

namespace Introspection

variable {document : Document}

theorem name_mem_of_fragment? {name : String} {fragment : Fragment}
    (h : document.fragment? name = some fragment) :
    name ∈ document.fragments.map Fragment.name := by
  have hmem := List.mem_reverse.mp (List.mem_of_find?_eq_some h)
  exact List.mem_map.mpr ⟨fragment, hmem, by simpa using List.find?_some h⟩

/-- Resolved selections are unfolded if the bound allows for all fragments but those on the way to
them, which they do not reach. -/
theorem unfolds_unfoldWithin : ∀ (n : Nat) {selections : List Selection} {path : List String},
    document.Resolves selections → path.Nodup → path ⊆ document.fragments.map Fragment.name →
    (∀ name, document.Reaches selections name → name ∉ path) →
    document.fragments.length ≤ path.length + n →
    Unfolds document.fragmentTable selections (document.unfoldWithin n selections) := by
  intro n
  induction n with
  | zero =>
    intro selections path hresolves hnodup hpath hnew hlength
    refine unfolds_mapSpreadsAll selections fun name hname => ?_
    -- a further fragment on the way would be one more than there are
    have hreached : document.Reaches selections name := .spread hname
    obtain ⟨fragment, hfragment⟩ := hresolves.defined hreached
    have hlonger := (List.subperm_of_subset (List.nodup_cons.mpr ⟨hnew name hreached, hnodup⟩)
      (List.cons_subset.mpr ⟨name_mem_of_fragment? hfragment, hpath⟩)).length_le
    rw [List.length_cons, List.length_map] at hlonger
    omega
  | succ n ih =>
    intro selections path hresolves hnodup hpath hnew hlength
    refine unfolds_mapSpreadsAll selections fun name hname directives => ?_
    have hreached : document.Reaches selections name := .spread hname
    obtain ⟨fragment, hfragment⟩ := hresolves.defined hreached
    have hlonger : (name :: path).Nodup := List.nodup_cons.mpr ⟨hnew name hreached, hnodup⟩
    have hdefined : name :: path ⊆ document.fragments.map Fragment.name :=
      List.cons_subset.mpr ⟨name_mem_of_fragment? hfragment, hpath⟩
    have hfurther : ∀ next, document.Reaches fragment.selections next → next ∉ name :: path := by
      intro next hnext hmem
      rcases List.mem_cons.mp hmem with rfl | hmem
      · exact hresolves.acyclic hreached hfragment hnext
      · exact hnew next (hreached.of_fragment hfragment hnext) hmem
    have hbody : Table.get? document.fragmentTable name = some fragment.selections := by
      rw [get?_fragmentTable, hfragment]
      rfl
    refine ⟨some fragment.condition, fragment.selections, _, by rw [hfragment], hbody, ?_⟩
    refine ih (hresolves.of_fragment hreached hfragment) hlonger hdefined hfurther ?_
    rw [List.length_cons]
    omega

theorem unfolds_of_resolves {selections : List Selection} (h : document.Resolves selections) :
    Unfolds document.fragmentTable selections
      (document.unfoldWithin document.fragments.length selections) :=
  unfolds_unfoldWithin document.fragments.length h List.nodup_nil (List.nil_subset _)
    (fun _ _ => List.not_mem_nil) (Nat.le_add_left _ _)

/-! ### Redaction -/

/-- **Unfolding translates a document**, and keeps the response keys. -/
theorem translates_unfolded (h : ∀ op ∈ document.operations, document.Resolves op.selections) :
    Translates id (UnfoldsField document.fragmentTable) document document.unfolded := by
  refine .mapSelections ?_ fun op hop => (unfolds_of_resolves (h op hop)).repeats _
  exact
    { responseKey := fun hfield => by rw [Field.responseKey, hfield.1]; rfl
      name := fun hfield => by rw [Field.name, hfield.1]; rfl
      literal := fun hfield => by
        rw [literalTypeName?, literalTypeName?, Field.name, Field.name, hfield.1]
      children := fun hfield => hfield.2.repeats _ }

/-- **Fragments are transparent to redaction.** If all spreads that the operations of a document
reach are resolved, the unfolded document has no spread left in its operations, and redaction
returns the same with it, or fails for the same reason, whatever the data are; and the one counts as
introspection if the other does. -/
theorem redact_unfolded (document : Document)
    (h : ∀ op ∈ document.operations, document.Resolves op.selections) (registry : Registry)
    (operationName : Option String) (data : Json) :
    (∀ op ∈ document.unfolded.operations, Selection.spreadNamesOfAll op.selections = []) ∧
      redact registry document.unfolded operationName data =
        redact registry document operationName data ∧
      selectsIntrospection document.unfolded = selectsIntrospection document := by
  refine ⟨fun op hop => ?_, ?_, (translates_unfolded h).selectsIntrospection_eq⟩
  · rw [Document.unfolded, operations_mapSelections, List.mem_map] at hop
    obtain ⟨before, hbefore, rfl⟩ := hop
    exact (unfolds_of_resolves (h before hbefore)).spreadNames_eq_nil
  · have hredact := (translates_unfolded h).redact_eq Function.injective_id registry operationName
      data
    rw [Json.rekeyed_id] at hredact
    rw [hredact]
    cases redact registry document operationName data with
    | error failure => rfl
    | ok result => exact congrArg Except.ok (Json.rekeyed_id result)

/-- The fragment that selects the schema is spread twice, and so is the one with the name of a type,
once through another fragment. At the root the unfolded document collects twice what the document
collects once, and with both redaction removes the same field. -/
theorem redact_unfolded_of_repeated_spreads :
    ∃ (document : Document) (registry : Registry) (data result : Json),
      (∀ op ∈ document.operations, document.Resolves op.selections) ∧
      (rootSelection document none).length = 1 ∧
      (rootSelection document.unfolded none).length = 2 ∧
      redact registry document none data = .ok result ∧ result ≠ data ∧
      (∀ op ∈ document.unfolded.operations, Selection.spreadNamesOfAll op.selections = []) ∧
      redact registry document.unfolded none data = .ok result ∧
      selectsIntrospection document.unfolded = true := by
  let select (inside : String) : String := "\x7b " ++ inside ++ " \x7d "
  let query := select "...Schema ...Schema" ++
    "fragment Schema on Query " ++
      select ("__schema" ++ select ("types" ++ select "...Members ...Name")) ++
    "fragment Members on __Type " ++ select ("...Name fields" ++ select "...Member") ++
    "fragment Name on __Type " ++ select "name" ++
    "fragment Member on __Field " ++ select "name"
  let registry : Registry := .ofRecords [⟨"A", "secret"⟩]
  let data (names : List String) : Json := .obj [("__schema", .obj [("types", .arr [.obj
    [("name", .str "A"), ("fields", .arr (names.map fun name => .obj [("name", .str name)]))]])])]
  let order := ["Member", "Name", "Members", "Schema"]
  have hdocument : ∃ document ∈ document? query,
      (∀ op ∈ document.operations, Selection.spreadNamesOfAll op.selections ⊆ order) ∧
      (∀ name ∈ order, ∃ fragment ∈ document.fragment? name,
        ∀ next ∈ Selection.spreadNamesOfAll fragment.selections,
          next ∈ order ∧ order.idxOf next < order.idxOf name) ∧
      (rootSelection document none).length = 1 ∧
      (rootSelection document.unfolded none).length = 2 ∧
      (redact registry document none (data ["open", "secret"])).toOption = some (data ["open"]) ∧
      selectsIntrospection document = true := by decide +kernel
  obtain ⟨document, -, hown, horder, hroot, hunfolded, hredact, hselects⟩ := hdocument
  rw [Fallible.toOption_eq_some] at hredact
  have hresolves : ∀ op ∈ document.operations, document.Resolves op.selections :=
    fun op hop => document.resolves_of_rank order.idxOf (hown op hop) horder
  obtain ⟨hnone, hsame, hgate⟩ :=
    redact_unfolded document hresolves registry none (data ["open", "secret"])
  exact ⟨document, registry, _, _, hresolves, hroot, hunfolded, hredact, by decide +kernel, hnone,
    hsame.trans hredact, hgate.trans hselects⟩

end Introspection

end SchemaVisibility
