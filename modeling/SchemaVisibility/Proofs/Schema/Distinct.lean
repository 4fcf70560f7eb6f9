import SchemaVisibility.Proofs.Marking.Exactness

/-! # Names that tell declarations apart

The type map of a schema, the members of a type and the arguments of a field are dictionaries: no
name stands in one of them twice. `Schema.Distinct` says so of a schema. Every schema that was built
has this property (`IsBuilt.distinct`), since the rules forbid repeated names and the type map takes
up a name once, and it stays if entries of the type map are replaced or taken out.
-/

namespace SchemaVisibility

open GraphQL

/-- Among items of their own names each is found by its name. -/
theorem find?_of_mem {α : Type} {name : α → String} {items : List α} (h : (items.map name).Nodup)
    {item : α} (hitem : item ∈ items) :
    (items.find? fun other => name other = name item) = some item := by
  cases hfind : items.find? fun other => name other = name item with
  | none => exact absurd (List.find?_eq_none.mp hfind item hitem) (by simp)
  | some other =>
    have hname : name other = name item := by simpa using List.find?_some hfind
    rw [List.inj_on_of_nodup_map h (List.mem_of_find?_eq_some hfind) hitem hname]

namespace Schema

/-- **Names are not repeated** in the type map, among the members of a type and among the arguments
of a field. -/
structure Distinct (schema : Schema) : Prop where
  entries : schema.entries.keys.Nodup
  members : ∀ name type, schema.definition? name = some type → (Rules.memberNames type).Nodup
  arguments : ∀ name type, schema.definition? name = some type → ∀ field ∈ type.fields?.getD [],
    (field.arguments.map InputDefinition.name).Nodup

/-! ### The type map -/

section TypeMap

variable {find : String → Option TypeDefinition}

/-- What holds of names that were met and survives every step holds after all steps. -/
theorem foldl_keeps {P : List String → Prop} {step : List String → String → List String}
    (h : ∀ met name, P met → P (step met name)) :
    ∀ (names met : List String), P met → P (names.foldl step met) := by
  intro names
  induction names with
  | nil => exact fun met hmet => hmet
  | cons first rest ih => exact fun met hmet => ih _ (h met first hmet)

section Keeping

variable {P : List String → Prop}
  (hadd : ∀ met name, find name ≠ none → name ∉ met → P met → P (met ++ [name]))

include hadd

theorem visit_keeps {pending : List String} : ∀ (n : Nat) (met : List String) (name : String),
    P met → P (visit find pending n met name) := by
  intro n
  induction n with
  | zero => exact fun met _ hmet => hmet
  | succ n ih =>
    intro met name hmet
    rw [visit]
    split
    · exact hmet
    · next hnew =>
      rw [Bool.or_eq_true, not_or, List.contains_iff_mem, List.contains_iff_mem] at hnew
      cases hfind : find name with
      | none => exact hmet
      | some type => exact foldl_keeps ih _ _ (hadd met name (by simp [hfind]) hnew.2 hmet)

theorem visitDeclared_keeps (n : Nat) (declared met : List String) (h : P met) :
    P (visitDeclared find n declared met) := by
  induction declared generalizing met with
  | nil => exact h
  | cons name pending ih => exact ih _ (visit_keeps hadd n met name h)

/-- What survives taking up a new name of a type holds of the whole type map. -/
theorem typeOrder_keeps (declared roots : List String) (directives : List DirectiveDefinition)
    (h : P []) : P (typeOrder find declared roots directives) :=
  foldl_keeps (visit_keeps hadd _) _ _ (visitDeclared_keeps hadd _ _ _ h)

end Keeping

/-- The type map takes up each name once. -/
theorem nodup_typeOrder (declared roots : List String) (directives : List DirectiveDefinition) :
    (typeOrder find declared roots directives).Nodup := by
  refine typeOrder_keeps (fun met name _ hnew hmet => ?_) declared roots directives List.nodup_nil
  rw [← List.concat_eq_append]
  exact hmet.concat hnew

/-- The type map takes up only names of types. -/
theorem find_of_mem_typeOrder {declared roots : List String} {directives : List DirectiveDefinition}
    {name : String} (h : name ∈ typeOrder find declared roots directives) : find name ≠ none := by
  have hall : ∀ name ∈ typeOrder find declared roots directives, find name ≠ none := by
    refine typeOrder_keeps (P := fun met => ∀ name ∈ met, find name ≠ none)
      (fun met name hfind _ hmet => ?_) declared roots directives (List.forall_mem_nil _)
    exact List.forall_mem_append.mpr ⟨hmet, List.forall_mem_singleton.mpr hfind⟩
  exact hall name h

end TypeMap

/-! ### The arguments of a field -/

variable {schema : Schema}

/-- An extension adds at most its own fields. -/
theorem mem_fields_append {type extension : TypeDefinition} {directives : List Directive}
    {field : FieldDefinition} (h : field ∈ ({ type with
      directives := directives
      content := type.content.append extension.content } : TypeDefinition).fields?.getD []) :
    field ∈ type.fields?.getD [] ∨ field ∈ extension.fields?.getD [] := by
  obtain ⟨name, written, content⟩ := type
  obtain ⟨other, more, added⟩ := extension
  cases content with
  | object i f =>
    cases added with
    | object j g => exact List.mem_append.mp h
    | _ => exact Or.inl h
  | interface i f =>
    cases added with
    | interface j g => exact List.mem_append.mp h
    | _ => exact Or.inl h
  | scalar | union | enum | input => cases added <;> exact Or.inl h

/-- A field of an extended type is a field of the type or of one of its extensions. -/
theorem mem_fields_extended {extensions : List TypeDefinition} {type : TypeDefinition}
    {field : FieldDefinition} (h : field ∈ (extended extensions type).fields?.getD []) :
    field ∈ type.fields?.getD [] ∨
      ∃ extension ∈ extensions, field ∈ extension.fields?.getD [] := by
  have hown : ∀ extension ∈ extensions.filter fun extension => extension.name = type.name,
      extension ∈ extensions := fun extension he => (List.mem_filter.mp he).1
  rw [extended] at h
  generalize (extensions.filter fun extension => extension.name = type.name) = own at h hown
  induction own generalizing type with
  | nil => exact Or.inl h
  | cons extension rest ih =>
    rw [List.foldl_cons] at h
    obtain ⟨hfirst, hrest⟩ := List.forall_mem_cons.mp hown
    rcases ih h hrest with hadded | hlater
    · exact (mem_fields_append hadded).imp_right fun hf => ⟨extension, hfirst, hf⟩
    · exact Or.inr hlater

/-- In a document without violations the arguments of a field have names of their own. -/
theorem nodup_arguments {document : Document} (h : Rules.violations document = [])
    {type : TypeDefinition} (ht : type ∈ document.allTypes) {field : FieldDefinition}
    (hf : field ∈ type.fields?.getD []) :
    (field.arguments.map InputDefinition.name).Nodup := by
  simp only [Rules.violations, Rules.repeatedMembers, List.append_eq_nil_iff,
    List.flatMap_eq_nil_iff] at h
  have harguments := h.1.1.1.1.1.1.2.2
  refine Rules.nodup_of_repetitions (harguments field.arguments (List.mem_append_left _ ?_))
  exact List.mem_flatMap.mpr ⟨type, ht, List.mem_map_of_mem hf⟩

/-! ### Built schemas -/

/-- The standard types keep their names apart. -/
theorem distinct_standard {type : TypeDefinition} (h : type ∈ Standard.types) :
    (Rules.memberNames type).Nodup ∧ ∀ field ∈ type.fields?.getD [],
      (field.arguments.map InputDefinition.name).Nodup := by
  have hall : ∀ type ∈ Standard.types, (Rules.memberNames type).Nodup ∧
      ∀ field ∈ type.fields?.getD [], (field.arguments.map InputDefinition.name).Nodup := by
    decide +kernel
  exact hall type h

/-- **A schema that was built keeps its names apart**, whatever was flagged since. -/
theorem IsBuilt.distinct (h : schema.IsBuilt) : schema.Distinct := by
  have hmembers : ∀ type ∈ schema.types, (Rules.memberNames type).Nodup :=
    fun type ht => nodup_memberNames h ht
  obtain ⟨document, base, hbase, hschema⟩ := h
  obtain ⟨hviolations, htypes, roots, hentries⟩ := ofDocument_ok hbase
  have harguments : ∀ type ∈ schema.types, ∀ field ∈ type.fields?.getD [],
      (field.arguments.map InputDefinition.name).Nodup := by
    intro type ht field hf
    rw [hschema] at ht
    have hdeclared : type ∈ declared document := by
      rw [htypes] at ht
      exact List.mem_of_mem_filter ht
    obtain ⟨bare, hbare, rfl⟩ := List.mem_map.mp hdeclared
    have hall : ∀ node, node ∈ document.declaredTypes ∨ node ∈ document.typeExtensions →
        node ∈ document.allTypes := by
      intro node hnode
      rw [← document.perm_allTypes.mem_iff, List.mem_append]
      exact hnode
    rcases mem_fields_extended hf with hown | ⟨extension, hextension, hadded⟩
    · exact nodup_arguments hviolations (hall bare (Or.inl hbare)) hown
    · exact nodup_arguments hviolations (hall extension (Or.inr hextension)) hadded
  refine ⟨?_, fun name type hdefined => ?_, fun name type hdefined => ?_⟩
  · rw [hschema]
    change base.entries.keys.Nodup
    rw [hentries, Table.keys, List.map_map]
    exact (List.map_id _).symm ▸ nodup_typeOrder _ _ _
  · rcases standard_or_mem_types hdefined with hstandard | hdeclared
    · exact (distinct_standard hstandard).1
    · exact hmembers type hdeclared
  · rcases standard_or_mem_types hdefined with hstandard | hdeclared
    · exact (distinct_standard hstandard).2
    · exact harguments type hdeclared

namespace Distinct

theorem addUnknownKind (h : schema.Distinct) (name : String) :
    (schema.addUnknownKind name).Distinct := by
  refine ⟨?_, h.members, h.arguments⟩
  change (schema.entries.insert name .unknownKind).keys.Nodup
  rw [Table.keys_insert]
  split
  · exact h.entries
  · next hnew =>
    rw [← List.concat_eq_append]
    exact h.entries.concat hnew

theorem removeEntry (h : schema.Distinct) (name : String) : (schema.removeEntry name).Distinct := by
  refine ⟨?_, h.members, h.arguments⟩
  change (schema.entries.erase name).keys.Nodup
  exact (List.filter_sublist.map Prod.fst).nodup h.entries

end Distinct

end Schema

end SchemaVisibility
