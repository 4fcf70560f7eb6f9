import SchemaVisibility.GraphQL.Document
import SchemaVisibility.Table

/-! # Field collection

A selection set flattens to the fields that a response object is made of: inline fragments are
looked through whatever their condition, and a spread stands for the fields of its fragment. Within
one selection set every fragment contributes once, at its first spread, and a spread of a fragment
that is not defined contributes nothing. So the fragments that are still to be spread are carried
along; their number bounds how deep spreads can nest.
-/

namespace SchemaVisibility.GraphQL

/-- The selection sets of fragments, by name. -/
abbrev Fragments := Table (List Selection)

/-- The fragments of a document; of several with one name the last counts. -/
def Document.fragmentTable (document : Document) : Fragments :=
  Table.ofList (document.fragments.map fun fragment => (fragment.name, fragment.selections))

/-- What a spread contributes while the given fragments are still to be spread, and which are so
afterwards. -/
abbrev Expansion := String → Fragments → List Field × Fragments

mutual

/-- The fields of one selection. -/
def Selection.flatten (expand : Expansion) : Selection → Fragments → List Field × Fragments
  | .field head selections, pending => ([⟨head, selections⟩], pending)
  | .inline _ _ selections, pending => Selection.flattenAll expand selections pending
  | .spread fragment _, pending => expand fragment pending

/-- The fields of selections, one after the other. -/
def Selection.flattenAll (expand : Expansion) :
    List Selection → Fragments → List Field × Fragments
  | [], pending => ([], pending)
  | selection :: rest, pending =>
    let (fields, pending) := Selection.flatten expand selection pending
    let (more, pending) := Selection.flattenAll expand rest pending
    (fields ++ more, pending)

end

/-- The fields of a selection set, with spreads nested at most as deep as the bound. -/
def collectWithin : Nat → List Selection → Fragments → List Field × Fragments
  | 0 => Selection.flattenAll fun _ pending => ([], pending)
  | n + 1 => Selection.flattenAll fun fragment pending =>
    match pending.get? fragment with
    | none => ([], pending)
    | some selections => collectWithin n selections (pending.erase fragment)

/-- The fields of a selection set. -/
def collect (fragments : Fragments) (selections : List Selection) : List Field :=
  (collectWithin fragments.length selections fragments).1

/-- The selection set of a definition, empty if it has none. -/
def Definition.selections : Definition → List Selection
  | .operation op => op.selections
  | .fragment named => named.selections
  | _ => []

end SchemaVisibility.GraphQL
