import SchemaVisibility.Plugin.Store

/-! # What a store keeps

Whoever was handed a binding may hold it for as long as he likes. Publishing the records of a schema
takes no binding away and gives no rule another registry to read (`Extends`); of the records it
replaces only those of this schema (`registryAt_publish`).
-/

namespace SchemaVisibility.Store

/-- Whatever there was, is there as it was: the bindings of schemas, and the registries that rules
read. -/
structure Extends (before after : Store) : Prop where
  binding : ∀ {key : String} {binding : Binding},
    before.binding? key = some binding → after.binding? key = some binding
  target : ∀ {rule : RuleRef} {registry : RegistryRef},
    before.heap.target? rule = some registry → after.heap.target? rule = some registry

namespace Extends

theorem refl (store : Store) : store.Extends store :=
  ⟨id, id⟩

theorem trans {first second third : Store} (h : first.Extends second) (g : second.Extends third) :
    first.Extends third :=
  ⟨fun hbound => g.binding (h.binding hbound), fun hreads => g.target (h.target hreads)⟩

end Extends

variable {store : Store} {key other : String} {binding : Binding} {records : List Record}

/-! ### Binding a schema -/

theorem bind_of_some (h : store.binding? key = some binding) :
    store.bind key = (binding, store) := by
  rw [bind, h]

theorem bind_of_none (h : store.binding? key = none) :
    store.bind key = (store.heap.create.1, store.allocate key) := by
  rw [bind, h]

theorem binding?_bind_of_ne (h : other ≠ key) :
    (store.bind key).2.binding? other = store.binding? other := by
  unfold bind
  split
  · rfl
  · exact (Table.get?_insert ..).trans (if_neg (Ne.symm h))

theorem extends_bind (store : Store) (key : String) : store.Extends (store.bind key).2 := by
  cases hkey : store.binding? key with
  | some binding =>
    rw [bind_of_some hkey]
    exact .refl store
  | none =>
    rw [bind_of_none hkey]
    refine ⟨fun {other binding} hbound => ?_, Heap.target?_create⟩
    have hne : other ≠ key := by
      rintro rfl
      rw [hkey] at hbound
      cases hbound
    exact (Table.get?_insert ..).trans ((if_neg (Ne.symm hne)).trans hbound)

/-- A schema that is bound finds in its registry what it found before. -/
theorem registryAt_bind (h : store.binding? other = some binding) :
    (store.bind key).2.heap.registryAt binding.registry =
      store.heap.registryAt binding.registry := by
  unfold bind
  split
  · rfl
  · exact Heap.registryAt_create (store.holds_of_bound h)

/-! ### Publishing records -/

/-- The schema is bound then. -/
theorem binding?_publish (store : Store) (key : String) (records : List Record) :
    (store.publish key records).2.binding? key = some (store.publish key records).1 :=
  store.binding?_bind key

/-- No other schema gets a binding. -/
theorem binding?_publish_of_ne (h : other ≠ key) :
    (store.publish key records).2.binding? other = store.binding? other :=
  binding?_bind_of_ne h

theorem extends_publish (store : Store) (key : String) (records : List Record) :
    store.Extends (store.publish key records).2 :=
  ⟨(store.extends_bind key).binding, (store.extends_bind key).target⟩

theorem registryAt_publish (store : Store) (key : String) (records : List Record) :
    (store.publish key records).2.heap.registryAt (store.publish key records).1.registry =
      .ofRecords records :=
  Heap.registryAt_replace_self ((store.bind key).2.holds_of_bound (store.binding?_bind key))

/-- The registries of other schemas keep their records. -/
theorem registryAt_publish_of_ne (hne : other ≠ key) (h : store.binding? other = some binding) :
    (store.publish key records).2.heap.registryAt binding.registry =
      store.heap.registryAt binding.registry := by
  have hother : (store.bind key).2.binding? other = some binding :=
    (store.extends_bind key).binding h
  have hregistry : binding.registry ≠ (store.bind key).1.registry := fun hsame =>
    hne ((store.bind key).2.key_eq hother (store.binding?_bind key) hsame)
  exact (Heap.registryAt_replace_of_ne hregistry).trans (registryAt_bind h)

end SchemaVisibility.Store
