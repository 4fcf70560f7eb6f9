import SchemaVisibility.Registry

/-! # Registries, rules and their bindings

A plugin creates registries, the records of which are replaced later on, and access rules, each of
which reads one registry. Both are known by reference: who holds one finds, whenever it is looked
at, the records of that time (`Heap`). A schema is bound to a registry and to a rule that reads it
(`Store`).

A store only ever has bindings of things that were created, and no two of its schemas share a
registry; a `Store` carries the proofs of that. Publishing the records of a schema binds the schema
if it has no binding, and else keeps the one that it has (`Store.bind`).
-/

namespace SchemaVisibility

/-- A registry, by the place at which it was created. -/
@[ext]
structure RegistryRef where
  index : Nat
  deriving DecidableEq, Repr

/-- An access rule, by the place at which it was created. -/
structure RuleRef where
  index : Nat
  deriving DecidableEq, Repr

/-- The registry of one schema and the rule that reads it. -/
structure Binding where
  registry : RegistryRef
  rule : RuleRef
  deriving DecidableEq, Repr

/-- The registries and the rules that were created. A rule is the registry that it reads. -/
structure Heap where
  registries : List Registry
  rules : List RegistryRef

namespace Heap

/-- Where nothing was created yet. -/
def empty : Heap :=
  ⟨[], []⟩

/-- What a registry holds now. -/
def registryAt (heap : Heap) (registry : RegistryRef) : Registry :=
  (heap.registries[registry.index]?).getD .empty

/-- The registry that a rule reads. -/
def target? (heap : Heap) (rule : RuleRef) : Option RegistryRef :=
  heap.rules[rule.index]?

/-- What a rule reads now. -/
def readBy (heap : Heap) (rule : RuleRef) : Registry :=
  ((heap.target? rule).map heap.registryAt).getD .empty

/-- Creates a registry without records and a rule that reads it. -/
def create (heap : Heap) : Binding × Heap :=
  let registry : RegistryRef := ⟨heap.registries.length⟩
  (⟨registry, ⟨heap.rules.length⟩⟩,
    { registries := heap.registries ++ [.empty], rules := heap.rules ++ [registry] })

/-- Replaces the records of a registry. -/
def replace (heap : Heap) (registry : RegistryRef) (records : List Record) : Heap :=
  { heap with registries := heap.registries.modify registry.index (·.replace records) }

/-- Both parts of a binding were created, and its rule reads its registry. -/
structure Holds (heap : Heap) (binding : Binding) : Prop where
  created : binding.registry.index < heap.registries.length
  reads : heap.target? binding.rule = some binding.registry

variable {heap : Heap} {binding : Binding} {records : List Record}

theorem Holds.readBy_eq (h : heap.Holds binding) :
    heap.readBy binding.rule = heap.registryAt binding.registry := by
  rw [readBy, h.reads]
  rfl

/-! ### Creating -/

theorem registryAt_create (h : heap.Holds binding) :
    heap.create.2.registryAt binding.registry = heap.registryAt binding.registry := by
  simp only [registryAt, create, List.getElem?_append_left h.created]

/-- A rule reads on what it has read, whatever is created after it. -/
theorem target?_create {rule : RuleRef} {registry : RegistryRef}
    (h : heap.target? rule = some registry) : heap.create.2.target? rule = some registry := by
  obtain ⟨hlt, -⟩ := List.getElem?_eq_some_iff.mp h
  rw [target?, create, List.getElem?_append_left hlt]
  exact h

theorem Holds.create (h : heap.Holds binding) : heap.create.2.Holds binding := by
  refine ⟨Nat.lt_of_lt_of_le h.created ?_, target?_create h.reads⟩
  simp [Heap.create]

theorem holds_created (heap : Heap) : heap.create.2.Holds heap.create.1 := by
  constructor
  · simp [Heap.create]
  · simp [Heap.create, target?]

/-- A new registry is none of those that there were. -/
theorem Holds.ne_created (h : heap.Holds binding) : binding.registry ≠ heap.create.1.registry := by
  intro heq
  have hlt := h.created
  rw [heq] at hlt
  exact Nat.lt_irrefl _ hlt

/-! ### Replacing -/

theorem Holds.replace (h : heap.Holds binding) (registry : RegistryRef) (records : List Record) :
    (heap.replace registry records).Holds binding :=
  ⟨by simpa only [Heap.replace, List.length_modify] using h.created, h.reads⟩

theorem registryAt_replace_self (h : heap.Holds binding) :
    (heap.replace binding.registry records).registryAt binding.registry = .ofRecords records := by
  rw [registryAt, replace, List.getElem?_modify_eq, List.getElem?_eq_getElem h.created]
  rfl

theorem registryAt_replace_of_ne {registry other : RegistryRef} (h : other ≠ registry) :
    (heap.replace registry records).registryAt other = heap.registryAt other := by
  have hindex : registry.index ≠ other.index := fun heq => h (RegistryRef.ext heq.symm)
  rw [registryAt, replace, List.getElem?_modify_ne _ _ hindex]
  rfl

end Heap

/-- What a plugin has created, and the bindings of its schemas. -/
structure Store where
  heap : Heap
  /-- The bindings of the schemas, by key. -/
  bindings : Table Binding
  /-- The binding of the schema that changed last. -/
  current : Binding
  holds_of_bound : ∀ {key : String} {binding : Binding},
    bindings.get? key = some binding → heap.Holds binding
  holds_current : heap.Holds current
  /-- Schemas that share a registry are one. -/
  key_eq : ∀ {key other : String} {binding found : Binding}, bindings.get? key = some binding →
    bindings.get? other = some found → binding.registry = found.registry → key = other

namespace Store

/-- A store without schemas. Its current binding belongs to none. -/
def start : Store where
  heap := Heap.empty.create.2
  bindings := []
  current := Heap.empty.create.1
  holds_of_bound := nofun
  holds_current := Heap.holds_created .empty
  key_eq := nofun

/-- The binding of a schema, if it has one. -/
def binding? (store : Store) (key : String) : Option Binding :=
  store.bindings.get? key

/-- Binds a schema to a new registry and a new rule. -/
def allocate (store : Store) (key : String) : Store where
  heap := store.heap.create.2
  bindings := store.bindings.insert key store.heap.create.1
  current := store.current
  holds_of_bound := by
    intro other binding h
    rw [Table.get?_insert] at h
    split at h
    · cases h
      exact store.heap.holds_created
    · exact (store.holds_of_bound h).create
  holds_current := store.holds_current.create
  key_eq := by
    intro first second binding found hfirst hsecond hsame
    rw [Table.get?_insert] at hfirst hsecond
    split at hfirst <;> split at hsecond
    · next h h' => exact h.symm.trans h'
    · cases hfirst
      exact absurd hsame.symm (store.holds_of_bound hsecond).ne_created
    · cases hsecond
      exact absurd hsame (store.holds_of_bound hfirst).ne_created
    · exact store.key_eq hfirst hsecond hsame

/-- The binding of a schema, which is kept if there is one and else made. -/
def bind (store : Store) (key : String) : Binding × Store :=
  match store.binding? key with
  | some binding => (binding, store)
  | none => (store.heap.create.1, store.allocate key)

/-- Replaces the records of a registry. -/
def replace (store : Store) (registry : RegistryRef) (records : List Record) : Store where
  heap := store.heap.replace registry records
  bindings := store.bindings
  current := store.current
  holds_of_bound := fun h => (store.holds_of_bound h).replace registry records
  holds_current := store.holds_current.replace registry records
  key_eq := store.key_eq

/-- Makes the binding of a schema the current one. -/
def select (store : Store) (key : String) (binding : Binding)
    (h : store.binding? key = some binding) : Store where
  heap := store.heap
  bindings := store.bindings
  current := binding
  holds_of_bound := store.holds_of_bound
  holds_current := store.holds_of_bound h
  key_eq := store.key_eq

theorem binding?_bind (store : Store) (key : String) :
    (store.bind key).2.binding? key = some (store.bind key).1 := by
  unfold bind
  split
  · next binding h => exact h
  · exact (Table.get?_insert ..).trans (if_pos rfl)

/-- Publishes the records of a schema: it is bound, its registry gets the records, and its binding
is the current one. -/
def publish (store : Store) (key : String) (records : List Record) : Binding × Store :=
  let binding := (store.bind key).1
  (binding, ((store.bind key).2.replace binding.registry records).select key binding
    (store.binding?_bind key))

end Store

end SchemaVisibility
