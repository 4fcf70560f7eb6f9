import SchemaVisibility.Proofs.GraphQL.Naming
import SchemaVisibility.Proofs.Schema.Distinct

/-! # Schemas with names of the language

The standard types bear names of the language, and so do the types of a document that was read.
Hence the type map of a schema that was built from a text holds such names only, and all members of
its types have such names (`ofText_spelled`).
-/

namespace SchemaVisibility.Schema

open GraphQL Text

/-- **The names of a schema are names of the language**: those of its type map and those of the
members of its types. -/
structure Spelled (schema : Schema) : Prop where
  types : ∀ name ∈ schema.entries.keys, IsName name
  members : ∀ name type, schema.definition? name = some type →
    ∀ member ∈ Rules.memberNames type, IsName member

variable {schema : Schema} {document : Document}

theorem spelled_standard {type : TypeDefinition} (h : type ∈ Standard.types) : type.Spelled := by
  have hall : ∀ type ∈ Standard.types, IsName type.name ∧
      ∀ member ∈ Rules.memberNames type, IsName member := by
    decide +kernel
  exact hall type h

/-- An extended type is spelled as its definition and its extensions are. -/
theorem spelled_of_mem_declared (h : document.Spelled) {type : TypeDefinition}
    (ht : type ∈ declared document) : type.Spelled := by
  have hall : ∀ node, node ∈ document.declaredTypes ∨ node ∈ document.typeExtensions →
      node.Spelled := by
    intro node hnode
    refine h node ?_
    rw [← document.perm_allTypes.mem_iff, List.mem_append]
    exact hnode
  obtain ⟨bare, hbare, rfl⟩ := List.mem_map.mp ht
  obtain ⟨hname, hmembers⟩ := hall bare (Or.inl hbare)
  refine ⟨(extended_name document.typeExtensions bare).symm ▸ hname, fun member hmember => ?_⟩
  rcases List.mem_append.mp ((memberNames_extended_sublist _ bare).subset hmember) with
    hown | hadded
  · exact hmembers member hown
  · obtain ⟨extension, hextension, hadded⟩ := List.mem_flatMap.mp hadded
    exact (hall extension (Or.inr (List.mem_filter.mp hextension).1)).2 member hadded

/-- **A schema of a well-spelled document is well-spelled.** -/
theorem ofDocument_spelled (hdocument : document.Spelled) (h : ofDocument document = .ok schema) :
    schema.Spelled := by
  obtain ⟨-, htypes, roots, hentries⟩ := ofDocument_ok h
  have hspelled : ∀ {name : String} {type : TypeDefinition},
      schema.definition? name = some type → type.Spelled := by
    intro name type hdefined
    rcases standard_or_mem_types hdefined with hstandard | hdeclared
    · exact spelled_standard hstandard
    · rw [htypes] at hdeclared
      exact spelled_of_mem_declared hdocument (List.mem_of_mem_filter hdeclared)
  refine ⟨fun name hname => ?_, fun name type hdefined => (hspelled hdefined).2⟩
  rw [hentries, Table.keys, List.map_map] at hname
  obtain ⟨_, hmet, rfl⟩ := List.mem_map.mp hname
  obtain ⟨type, hdefined⟩ := Option.ne_none_iff_exists'.mp (find_of_mem_typeOrder hmet)
  have htype := (hspelled hdefined).1
  rwa [name_of_definition? hdefined] at htype

/-- A schema of a text is that of a document with names of the language. -/
theorem ofText_ok {text : String} (h : ofText text = .ok schema) :
    ∃ document : Document, document.Spelled ∧ ofDocument document = .ok schema := by
  rw [ofText] at h
  cases hparse : Document.parse text with
  | error error =>
    rw [hparse] at h
    cases h
  | ok document =>
    rw [hparse] at h
    exact ⟨document, Document.spelled_of_parse hparse, h⟩

theorem ofText_isBuilt {text : String} (h : ofText text = .ok schema) : schema.IsBuilt := by
  obtain ⟨document, -, hdocument⟩ := ofText_ok h
  exact ⟨document, schema, hdocument, rfl⟩

/-- **A schema of a text is well-spelled.** -/
theorem ofText_spelled {text : String} (h : ofText text = .ok schema) : schema.Spelled := by
  obtain ⟨document, hspelled, hdocument⟩ := ofText_ok h
  exact ofDocument_spelled hspelled hdocument

end SchemaVisibility.Schema
