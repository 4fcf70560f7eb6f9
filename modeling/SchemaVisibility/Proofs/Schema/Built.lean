import Mathlib.Data.List.Nodup
import SchemaVisibility.Proofs.Fallible
import SchemaVisibility.Proofs.Tables
import SchemaVisibility.Schema.Validity

/-! # Schemas that were built

A schema that was built from a document declares each of its types once, under a name that is not
standard, and its type map shows all of them (`ofDocument_regular`). Flagging declarations as
private changes none of this, since it only changes extension data.
-/

namespace SchemaVisibility

open GraphQL

/-! ### Names that are declared once -/

namespace Rules

theorem nodup_of_repeatedNames {names : List String} (h : repeatedNames names = []) :
    names.Nodup := by
  induction names with
  | nil => exact List.nodup_nil
  | cons name rest ih =>
    rw [repeatedNames] at h
    by_cases hname : rest.contains name = true
    · rw [if_pos hname] at h
      cases h
    · rw [if_neg hname] at h
      exact List.nodup_cons.mpr ⟨fun hmem => hname (List.contains_iff_mem.mpr hmem), ih h⟩

/-- A document without violations declares each of its types once. -/
theorem nodup_declaredTypes {document : Document} (h : violations document = []) :
    (document.declaredTypes.map TypeDefinition.name).Nodup := by
  simp only [violations, repeatedDefinitions, List.append_eq_nil_iff] at h
  have hnames := h.1.1.1.1.1.1.1.1.2
  rw [repetitions, List.map_eq_nil_iff] at hnames
  exact nodup_of_repeatedNames hnames

end Rules

namespace Schema

theorem extended_name (extensions : List TypeDefinition) (type : TypeDefinition) :
    (extended extensions type).name = type.name := by
  rw [extended]
  induction extensions.filter fun extension => extension.name = type.name generalizing type with
  | nil => rfl
  | cons extension rest ih => exact ih _

/-! ### The type map -/

variable {find : String → Option TypeDefinition}

/-- Steps that only add names keep those that were there. -/
theorem subset_foldl {step : List String → String → List String}
    (h : ∀ met name, met ⊆ step met name) (names met : List String) :
    met ⊆ names.foldl step met := by
  induction names generalizing met with
  | nil => exact List.Subset.refl met
  | cons first rest ih => exact List.Subset.trans (h met first) (ih _)

theorem subset_visit {pending : List String} : ∀ (n : Nat) (met : List String) (name : String),
    met ⊆ visit find pending n met name := by
  intro n
  induction n with
  | zero => exact fun met _ => List.Subset.refl met
  | succ n ih =>
    intro met name
    rw [visit]
    split
    · exact List.Subset.refl met
    · cases find name with
      | none => exact List.Subset.refl met
      | some type =>
        exact List.Subset.trans (List.subset_append_left met [name]) (subset_foldl ih _ _)

/-- A name whose turn it is is met. -/
theorem mem_visit {pending met : List String} {n : Nat} {name : String} (hname : name ∉ pending)
    (hfind : find name ≠ none) : name ∈ visit find pending (n + 1) met name := by
  rw [visit]
  by_cases hmet : name ∈ met
  · rw [if_pos (by simp [hmet])]
    exact hmet
  · rw [if_neg (by simp [hmet, hname])]
    cases h : find name with
    | none => exact absurd h hfind
    | some type => exact subset_foldl (subset_visit n) _ _ (by simp)

theorem subset_visitDeclared (bound : Nat) (declared met : List String) :
    met ⊆ visitDeclared find bound declared met := by
  induction declared generalizing met with
  | nil => exact List.Subset.refl met
  | cons name pending ih => exact List.Subset.trans (subset_visit bound met name) (ih _)

/-- Every declared name that stands for a type is met. -/
theorem mem_visitDeclared {n : Nat} {declared : List String} {name : String}
    (h : name ∈ declared) (hfind : find name ≠ none) (met : List String) :
    name ∈ visitDeclared find (n + 1) declared met := by
  induction declared generalizing met with
  | nil => cases h
  | cons first pending ih =>
    rw [visitDeclared]
    by_cases hpending : name ∈ pending
    · exact ih hpending _
    · obtain rfl := (List.mem_cons.mp h).resolve_right hpending
      exact subset_visitDeclared _ _ _ (mem_visit hpending hfind)

theorem mem_typeOrder {declared roots : List String} {directives : List DirectiveDefinition}
    {name : String} (h : name ∈ declared) (hfind : find name ≠ none) :
    name ∈ typeOrder find declared roots directives :=
  subset_foldl (subset_visit _) _ _ (mem_visitDeclared h hfind [])

/-! ### Built schemas -/

/-- The declared types of a document with their extensions. -/
def declared (document : Document) : List TypeDefinition :=
  document.declaredTypes.map (extended document.typeExtensions)

theorem map_name_declared (document : Document) :
    (declared document).map TypeDefinition.name =
      document.declaredTypes.map TypeDefinition.name := by
  rw [declared, List.map_map]
  exact List.map_congr_left fun type _ => extended_name document.typeExtensions type

/-- What building a schema from a document takes and gives. -/
theorem ofDocument_ok {document : Document} {schema : Schema}
    (h : ofDocument document = .ok schema) :
    Rules.violations document = [] ∧
      schema.types = (declared document).filter (fun type => !Standard.isStandard type.name) ∧
      ∃ roots, schema.entries = (typeOrder schema.definition?
        ((declared document).map TypeDefinition.name) roots schema.directives).map
          fun name => (name, .known) := by
  unfold ofDocument at h
  simp only [] at h
  split at h
  · cases h
  · next hviolations =>
    split at h
    · cases h
    · obtain ⟨_, -, h⟩ := Fallible.bind_eq_ok.mp h
      obtain rfl := (Fallible.pure_eq_ok.mp h).symm
      refine ⟨?_, rfl, _, rfl⟩
      cases hlist : Rules.violations document with
      | nil => rfl
      | cons violation rest => exact absurd hlist (hviolations violation rest)

/-- Types of their own names that the type map shows, beside standard ones, and nothing of unknown
kind. -/
structure Regular (schema : Schema) : Prop where
  nodup : (schema.types.map TypeDefinition.name).Nodup
  own : ∀ type ∈ schema.types, Standard.type? type.name = none
  shown : ∀ type ∈ schema.types, (type.name, .known) ∈ schema.entries
  known : ∀ entry ∈ schema.entries, entry.2 = .known

/-- **A schema that was built is regular.** -/
theorem ofDocument_regular {document : Document} {schema : Schema}
    (h : ofDocument document = .ok schema) : schema.Regular := by
  obtain ⟨hviolations, htypes, roots, hentries⟩ := ofDocument_ok h
  have hdeclared : ∀ type ∈ schema.types, type ∈ declared document ∧
      Standard.type? type.name = none := by
    intro type ht
    rw [htypes] at ht
    obtain ⟨hd, hstandard⟩ := List.mem_filter.mp ht
    rw [Standard.isStandard, Bool.not_eq_true', Option.isSome_eq_false_iff,
      Option.isNone_iff_eq_none] at hstandard
    exact ⟨hd, hstandard⟩
  refine ⟨?_, fun type ht => (hdeclared type ht).2, fun type ht => ?_, fun entry he => ?_⟩
  · rw [htypes]
    refine (List.filter_sublist.map TypeDefinition.name).nodup ?_
    rw [map_name_declared]
    exact Rules.nodup_declaredTypes hviolations
  · rw [hentries]
    refine List.mem_map.mpr ⟨type.name, mem_typeOrder ?_ ?_, rfl⟩
    · exact List.mem_map_of_mem (hdeclared type ht).1
    · rw [definition?, (hdeclared type ht).2, Option.none_or, ne_eq, List.find?_eq_none]
      exact fun hnone => hnone type ht (by simp)
  · rw [hentries] at he
    obtain ⟨name, -, rfl⟩ := List.mem_map.mp he
    rfl

/-- A schema that was built from a document, whatever was flagged since. -/
def IsBuilt (schema : Schema) : Prop :=
  ∃ document base, ofDocument document = .ok base ∧
    schema = { base with extensions := schema.extensions }

theorem IsBuilt.regular {schema : Schema} (h : schema.IsBuilt) : schema.Regular := by
  obtain ⟨document, base, hbase, hschema⟩ := h
  rw [hschema]
  exact { ofDocument_regular hbase with }

/-! ### Types by name -/

variable {schema : Schema} {name : String} {type : TypeDefinition}

theorem name_of_definition? (h : schema.definition? name = some type) : type.name = name := by
  rw [definition?, Option.or_eq_some_iff] at h
  rcases h with h | ⟨-, h⟩
  · simpa using List.find?_some h
  · simpa using List.find?_some h

/-- What a name stands for is standard or declared. -/
theorem standard_or_mem_types (h : schema.definition? name = some type) :
    type ∈ Standard.types ∨ type ∈ schema.types := by
  rw [definition?, Option.or_eq_some_iff] at h
  rcases h with h | ⟨-, h⟩
  · exact Or.inl (List.mem_of_find?_eq_some h)
  · exact Or.inr (List.mem_of_find?_eq_some h)

/-- The standard types with fields are those of introspection. -/
theorem isIntrospection_of_composite (h : type ∈ Standard.types)
    (hcomposite : type.isComposite = true) : Standard.isIntrospection type.name = true := by
  have hall : ∀ type ∈ Standard.types, type.isComposite = true →
      Standard.isIntrospection type.name = true := by
    decide
  exact hall type h hcomposite

/-- A composite type that is not of introspection is declared. -/
theorem mem_types_of_composite (h : schema.definition? name = some type)
    (hcomposite : type.isComposite = true)
    (hname : Standard.isIntrospection type.name = false) : type ∈ schema.types := by
  rcases standard_or_mem_types h with hstandard | hmem
  · rw [isIntrospection_of_composite hstandard hcomposite] at hname
    cases hname
  · exact hmem

theorem reservedNames_eq_nil_iff {names : List String} :
    reservedNames names = [] ↔ ∀ name ∈ names, isReserved name = false := by
  simp [reservedNames]

namespace Regular

theorem definition?_eq (h : schema.Regular) (ht : type ∈ schema.types) :
    schema.definition? type.name = some type := by
  rw [definition?, h.own type ht, Option.none_or]
  cases hfind : schema.types.find? fun other => other.name = type.name with
  | none => exact absurd (List.find?_eq_none.mp hfind type ht) (by simp)
  | some other =>
    have hname : other.name = type.name := by simpa using List.find?_some hfind
    rw [List.inj_on_of_nodup_map h.nodup (List.mem_of_find?_eq_some hfind) ht hname]

theorem not_isIntrospection (h : schema.Regular) (ht : type ∈ schema.types) :
    Standard.isIntrospection type.name = false := by
  have hall : ∀ other ∈ Standard.introspectionTypes, other ∈ Standard.types :=
    fun other ho => List.mem_append_right _ ho
  rw [Standard.isIntrospection, List.any_eq_false]
  intro other ho hname
  have hnone := h.own type ht
  rw [Standard.type?, List.find?_eq_none] at hnone
  exact hnone other (hall other ho) hname

/-- The types of a valid schema have no reserved names. -/
theorem not_isReserved (h : schema.Regular) (hvalid : schema.isValid = true)
    (ht : type ∈ schema.types) : isReserved type.name = false := by
  rw [isValid_iff] at hvalid
  simp only [flaws, List.append_eq_nil_iff] at hvalid
  have hkey : type.name ∈ schema.entries.keys :=
    List.mem_map.mpr ⟨_, h.shown type ht, rfl⟩
  exact reservedNames_eq_nil_iff.mp hvalid.1.2 type.name
    (List.mem_filter.mpr ⟨hkey, by simp [h.not_isIntrospection ht]⟩)

/-- The members of a valid schema's types have no reserved names. -/
theorem not_isReserved_member {member : String} (h : schema.Regular)
    (hvalid : schema.isValid = true) (ht : type ∈ schema.types)
    (hmember : member ∈ Rules.memberNames type) : isReserved member = false := by
  have hshown : schema.entries.get? type.name = some .known := by
    cases hentry : schema.entries.get? type.name with
    | none =>
      rw [Table.get?_eq_none_iff] at hentry
      exact absurd (List.mem_map.mpr ⟨_, h.shown type ht, rfl⟩) hentry
    | some entry => exact congrArg some (h.known _ (Table.mem_of_get? hentry))
  rw [isValid_iff] at hvalid
  simp only [flaws, List.append_eq_nil_iff, List.flatMap_eq_nil_iff] at hvalid
  have hflaws := hvalid.2 type (List.mem_filter.mpr ⟨ht, by simp [hshown]⟩)
  simp only [typeFlaws, List.append_eq_nil_iff] at hflaws
  exact reservedNames_eq_nil_iff.mp hflaws.1.2 member hmember

end Regular

end Schema

end SchemaVisibility
