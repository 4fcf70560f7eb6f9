import Mathlib.Logic.Equiv.Basic
import SchemaVisibility.Proofs.Introspection.Translation

/-! # Redaction under other response keys

A document is renamed when each of its fields, at any depth and in every fragment, gets an alias
such that its new response key is the old one under a map. What is collected from the renamed
selections are the renamed fields, in the same order (`collect_renamed`): spreads and inline
fragments stay as they are, and so does whatever else tells fields apart.

Renamed documents are translated ones. If the map is injective, so that it never makes one key of
two, redaction takes the same decisions whatever the keys are, and be it that an alias spells the
name of a field that it looks for (`redact_renamed`).
-/

namespace SchemaVisibility

open GraphQL Fallible

namespace GraphQL

/-! ### Renamed documents -/

/-- The head of a field with an alias that puts its response key under a map. -/
def FieldHead.renamed (r : String → String) (head : FieldHead) : FieldHead :=
  { head with rename := some (r (head.rename.getD head.name)) }

mutual

/-- A selection with all fields in it renamed. -/
def Selection.renamed (r : String → String) : Selection → Selection
  | .field head selections => .field (head.renamed r) (Selection.renamedAll r selections)
  | .inline condition directives selections =>
    .inline condition directives (Selection.renamedAll r selections)
  | .spread fragment directives => .spread fragment directives

/-- Selections with all fields in them renamed. -/
def Selection.renamedAll (r : String → String) : List Selection → List Selection
  | [] => []
  | selection :: rest => Selection.renamed r selection :: Selection.renamedAll r rest

end

/-- A field that is renamed, with all fields below it. -/
def Field.renamed (r : String → String) (field : Field) : Field :=
  ⟨field.head.renamed r, Selection.renamedAll r field.selections⟩

/-- A document with all fields in it renamed. -/
def Document.renamed (r : String → String) (document : Document) : Document :=
  document.mapSelections (Selection.renamedAll r)

variable {r : String → String}

theorem fragmentTable_renamed (document : Document) :
    (document.renamed r).fragmentTable =
      Table.mapValues (Selection.renamedAll r) document.fragmentTable := by
  have h := Table.insertAll_mapValues (Selection.renamedAll r)
    (document.fragments.map fun fragment => (fragment.name, fragment.selections)) []
  rw [List.map_map] at h
  rw [Document.fragmentTable, Table.ofList, Document.renamed,
    fragments_mapSelections, List.map_map]
  exact h

/-! ### What renamed selections collect -/

section Search

variable {expand other : Expansion}

mutual

theorem flatten_renamed (h : ∀ name pending,
      other name (Table.mapValues (Selection.renamedAll r) pending) =
        (expand name pending).map (List.map (Field.renamed r))
          (Table.mapValues (Selection.renamedAll r))) :
    ∀ (selection : Selection) (pending : Fragments),
      (selection.renamed r).flatten other (Table.mapValues (Selection.renamedAll r) pending) =
        (selection.flatten expand pending).map (List.map (Field.renamed r))
          (Table.mapValues (Selection.renamedAll r))
  | .field _ _, _ => rfl
  | .inline _ _ selections, pending => flattenAll_renamed h selections pending
  | .spread fragment _, pending => h fragment pending

theorem flattenAll_renamed (h : ∀ name pending,
      other name (Table.mapValues (Selection.renamedAll r) pending) =
        (expand name pending).map (List.map (Field.renamed r))
          (Table.mapValues (Selection.renamedAll r))) :
    ∀ (selections : List Selection) (pending : Fragments),
      Selection.flattenAll other (Selection.renamedAll r selections)
          (Table.mapValues (Selection.renamedAll r) pending) =
        (Selection.flattenAll expand selections pending).map (List.map (Field.renamed r))
          (Table.mapValues (Selection.renamedAll r))
  | [], _ => rfl
  | selection :: rest, pending => by
    rw [Selection.renamedAll, Selection.flattenAll, flatten_renamed h selection pending]
    simp only [Prod.map_fst, Prod.map_snd, flattenAll_renamed h rest]
    rw [Selection.flattenAll, Prod.map_apply, List.map_append]

end

end Search

theorem collectWithin_renamed (n : Nat) (selections : List Selection) (pending : Fragments) :
    collectWithin n (Selection.renamedAll r selections)
        (Table.mapValues (Selection.renamedAll r) pending) =
      (collectWithin n selections pending).map (List.map (Field.renamed r))
        (Table.mapValues (Selection.renamedAll r)) := by
  induction n generalizing selections pending with
  | zero => exact flattenAll_renamed (fun _ _ => rfl) selections pending
  | succ n ih =>
    refine flattenAll_renamed (fun name pending => ?_) selections pending
    rw [Table.get?_mapValues, Table.erase_mapValues]
    cases pending.get? name with
    | none => rfl
    | some selections => exact ih selections _

/-- What is collected from renamed selections are the renamed fields. -/
theorem collect_renamed (fragments : Fragments) (selections : List Selection) :
    collect (Table.mapValues (Selection.renamedAll r) fragments)
        (Selection.renamedAll r selections) =
      (collect fragments selections).map (Field.renamed r) := by
  rw [collect, collectWithin_renamed, Table.mapValues, List.length_map, collect]
  rfl

end GraphQL

namespace Introspection

variable {r : String → String}

/-! ### Redaction -/

theorem repeats_renamed (document : Document) (selections : List Selection) :
    Repeats (fun field other => other = field.renamed r) []
      (collect document.fragmentTable selections)
      (collect (document.renamed r).fragmentTable (Selection.renamedAll r selections)) := by
  rw [fragmentTable_renamed, collect_renamed]
  exact .of_forall₂ (List.forall₂_map_right_iff.mpr (List.forall₂_same.mpr fun _ _ => rfl))

/-- **Renaming translates a document.** -/
theorem translates_renamed (r : String → String) (document : Document) :
    Translates r (fun field other => other = field.renamed r) document (document.renamed r) := by
  refine .mapSelections ?_ fun op _ => repeats_renamed document op.selections
  exact
    { responseKey := fun hfield => by rw [hfield]; rfl
      name := fun hfield => by rw [hfield]; rfl
      literal := fun hfield => by rw [hfield]; rfl
      children := fun {field other} hfield => by
        rw [hfield]
        exact repeats_renamed document field.selections }

/-- **Aliases are transparent to redaction.** If every response key of a document and every key of
its data goes through an injective map, redaction returns what it returned with its keys under the
map, or fails for the same reason; and the document counts as introspection if it did before. -/
theorem redact_renamed (r : String → String) (hr : Function.Injective r) (registry : Registry)
    (document : Document) (operationName : Option String) (data : Json) :
    redact registry (document.renamed r) operationName (data.rekeyed r) =
        (redact registry document operationName data).map (Json.rekeyed r) ∧
      selectsIntrospection (document.renamed r) = selectsIntrospection document :=
  ⟨(translates_renamed r document).redact_eq hr registry operationName data,
    (translates_renamed r document).selectsIntrospection_eq⟩

/-- A map that makes `__schema` and `types` change places, and `name` and `fields` too. Redaction
removes the private field from the list that now stands under `name`. -/
theorem redact_renamed_of_swapped :
    ∃ (r : String → String) (registry : Registry) (document : Document) (data result : Json),
      Function.Injective r ∧ redact registry document none data = .ok result ∧ result ≠ data ∧
      (["__schema", "types", "name", "fields"].map r = ["types", "__schema", "fields", "name"]) ∧
      redact registry (document.renamed r) none (data.rekeyed r) = .ok (result.rekeyed r) ∧
      result.rekeyed r ≠ data.rekeyed r ∧
      selectsIntrospection (document.renamed r) = true := by
  let r : String → String := Equiv.swap "__schema" "types" ∘ Equiv.swap "name" "fields"
  let registry : Registry := .ofRecords [⟨"A", "secret"⟩]
  let query := "\x7b __schema \x7b types \x7b name fields \x7b name \x7d \x7d \x7d \x7d"
  let data (names : List String) : Json := .obj [("__schema", .obj [("types", .arr [.obj
    [("name", .str "A"), ("fields", .arr (names.map fun name => .obj [("name", .str name)]))]])])]
  have hr : Function.Injective r := (Equiv.injective _).comp (Equiv.injective _)
  have hdocument : ∃ document ∈ document? query,
      (redact registry document none (data ["open", "secret"])).toOption = some (data ["open"]) ∧
      selectsIntrospection document = true := by decide +kernel
  obtain ⟨document, -, hredact, hselects⟩ := hdocument
  rw [toOption_eq_some] at hredact
  obtain ⟨hrenamed, hgate⟩ :=
    redact_renamed r hr registry document none (data ["open", "secret"])
  exact ⟨r, registry, document, _, _, hr, hredact, by decide +kernel, by decide +kernel,
    by rw [hrenamed, hredact]; rfl, by decide +kernel, hgate.trans hselects⟩

end Introspection

end SchemaVisibility
