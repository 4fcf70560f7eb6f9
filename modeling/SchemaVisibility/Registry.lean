import SchemaVisibility.Table

/-! # Private records and their registry

A record names one private declaration by its owner and its own name. A registry holds records in
the order of their scan and, beside them, the names of each owner. `Index.mem_ofRecords` says that
the two agree: a name stands under an owner exactly if the records hold that pair.
-/

namespace SchemaVisibility

/-- One private declaration. -/
structure Record where
  /-- What the declaration belongs to: a type, or for an argument its field. -/
  owner : String
  /-- The declaration's own name. -/
  name : String
  deriving DecidableEq, Repr, Inhabited

/-- The owner of whole types, a name that no type of a schema may have. -/
def Record.topLevel : String := "__root__"

/-- The names that stand under each owner. -/
abbrev Index := Table (List String)

namespace Index

/-- The names under an owner. -/
def names (index : Index) (owner : String) : List String :=
  (Table.get? index owner).getD []

/-- Puts a name under its owner, once. -/
def add (index : Index) (record : Record) : Index :=
  let names := index.names record.owner
  if record.name ∈ names then index else Table.insert index record.owner (names ++ [record.name])

/-- Groups records by owner. -/
def ofRecords (records : List Record) : Index :=
  records.foldl add []

theorem mem_names_add (index : Index) (record : Record) (owner name : String) :
    name ∈ (index.add record).names owner ↔
      name ∈ index.names owner ∨ (record.owner = owner ∧ record.name = name) := by
  unfold add
  by_cases ho : record.owner = owner
  · subst ho
    by_cases hm : record.name ∈ index.names record.owner
    · simp only [hm, if_true]
      constructor
      · exact Or.inl
      · rintro (h | ⟨-, rfl⟩)
        · exact h
        · exact hm
    · simp only [hm, if_false]
      simp [names, Table.get?_insert, eq_comm]
  · by_cases hm : record.name ∈ index.names record.owner
    · simp [hm, ho]
    · simp only [hm, if_false]
      simp [names, Table.get?_insert, ho]

theorem mem_names_foldl_add (records : List Record) (index : Index) (owner name : String) :
    name ∈ (records.foldl add index).names owner ↔
      name ∈ index.names owner ∨ ⟨owner, name⟩ ∈ records := by
  induction records generalizing index with
  | nil => simp
  | cons record records ih =>
    rw [List.foldl_cons, ih, mem_names_add, List.mem_cons, or_assoc]
    refine or_congr_right (or_congr_left ?_)
    obtain ⟨o, n⟩ := record
    simp [eq_comm]

/-- The index of records holds exactly their pairs. -/
theorem mem_ofRecords (records : List Record) (owner name : String) :
    name ∈ (ofRecords records).names owner ↔ ⟨owner, name⟩ ∈ records := by
  rw [ofRecords, mem_names_foldl_add]
  simp [names]

end Index

/-- The private declarations of one schema, in the order of their scan and by owner. -/
structure Registry where
  records : List Record
  index : Index := Index.ofRecords records
  index_eq : index = Index.ofRecords records := by rfl

namespace Registry

/-- The registry of a list of records. -/
def ofRecords (records : List Record) : Registry :=
  { records }

/-- The registry without records. -/
def empty : Registry :=
  ofRecords []

instance : Inhabited Registry := ⟨empty⟩

/-- The registry with other records in the place of its own. -/
def replace (_ : Registry) (records : List Record) : Registry :=
  ofRecords records

/-- The private names under an owner, each once. -/
def privateNames (registry : Registry) (owner : String) : List String :=
  registry.index.names owner

/-- Whether a name is private under an owner. -/
def isPrivate (registry : Registry) (owner name : String) : Bool :=
  (registry.privateNames owner).contains name

/-- The private names of all owners, whole types apart. -/
def memberNames (registry : Registry) : List String :=
  ((registry.records.filter fun record => record.owner != Record.topLevel).map
    Record.name).eraseDups

/-- Whether the registry holds a record; what is no record is never held. -/
def holds (registry : Registry) : Option Record → Bool
  | some record => registry.isPrivate record.owner record.name
  | none => false

/-- The number of records, repeated ones counted each time. -/
def size (registry : Registry) : Nat :=
  registry.records.length

/-- A one-line description. -/
def summary (registry : Registry) : String :=
  s!"<VisibilityRegistry records={registry.size}>"

theorem mem_privateNames (registry : Registry) (owner name : String) :
    name ∈ registry.privateNames owner ↔ ⟨owner, name⟩ ∈ registry.records := by
  rw [privateNames, registry.index_eq, Index.mem_ofRecords]

theorem isPrivate_iff (registry : Registry) (owner name : String) :
    registry.isPrivate owner name = true ↔ ⟨owner, name⟩ ∈ registry.records := by
  rw [isPrivate, List.contains_iff_mem, mem_privateNames]

theorem mem_memberNames (registry : Registry) (name : String) :
    name ∈ registry.memberNames ↔
      ∃ owner, owner ≠ Record.topLevel ∧ ⟨owner, name⟩ ∈ registry.records := by
  rw [memberNames, List.mem_eraseDups, List.mem_map]
  constructor
  · rintro ⟨⟨owner, _⟩, hr, rfl⟩
    obtain ⟨hr, howner⟩ := List.mem_filter.mp hr
    exact ⟨owner, by simpa using howner, hr⟩
  · rintro ⟨owner, howner, hr⟩
    exact ⟨⟨owner, name⟩, List.mem_filter.mpr ⟨hr, by simpa using howner⟩, rfl⟩

end Registry

/-- Names in the order of their characters' codes. -/
def sortNames (names : List String) : List String :=
  names.mergeSort fun a b => decide (a ≤ b)

end SchemaVisibility
