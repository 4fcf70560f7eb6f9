/-! # Tables: named entries in insertion order

A table is a list of pairs. The first pair of a name is the one that counts; `insert` gives an
existing name its new value in place and puts a new name at the end, so the order of a table is the
order in which its names were first written. `keys_insert` states that order, `get?_insert` what is
read back.
-/

namespace SchemaVisibility

/-- Named entries in the order in which their names were first written. -/
abbrev Table (α : Type) := List (String × α)

namespace Table

variable {α : Type}

/-- The entry of a name, if there is one. -/
def get? : Table α → String → Option α
  | [], _ => none
  | (k, v) :: rest, key => if k = key then some v else get? rest key

/-- Gives `key` the value `value`: in its place if the name is known, else at the end. -/
def insert : Table α → String → α → Table α
  | [], key, value => [(key, value)]
  | (k, v) :: rest, key, value =>
    if k = key then (k, value) :: rest else (k, v) :: insert rest key value

/-- The table without the entries of `key`. -/
def erase (t : Table α) (key : String) : Table α :=
  t.filter fun entry => entry.1 ≠ key

/-- The names in order. -/
def keys (t : Table α) : List String :=
  t.map Prod.fst

/-- Enters every pair of `entries` in turn, so that a later value of a name wins. -/
def insertAll (t : Table α) (entries : List (String × α)) : Table α :=
  entries.foldl (fun t entry => t.insert entry.1 entry.2) t

/-- The table of a list of pairs, one entry a name. -/
def ofList (entries : List (String × α)) : Table α :=
  insertAll [] entries

@[simp] theorem get?_nil (key : String) : get? ([] : Table α) key = none := rfl

@[simp] theorem insert_nil (key : String) (value : α) :
    insert [] key value = [(key, value)] := rfl

theorem get?_insert (t : Table α) (key other : String) (value : α) :
    (t.insert key value).get? other = if key = other then some value else t.get? other := by
  induction t with
  | nil => rfl
  | cons entry rest ih =>
    obtain ⟨k, v⟩ := entry
    by_cases hk : k = key
    · subst hk
      by_cases ho : k = other <;> simp [insert, get?, ho]
    · by_cases ho : k = other
      · subst ho
        simp [insert, get?, hk, Ne.symm hk]
      · simp [insert, get?, hk, ho, ih]

/-- A known name keeps its place, a new one comes last. -/
theorem keys_insert (t : Table α) (key : String) (value : α) :
    (t.insert key value).keys = if key ∈ t.keys then t.keys else t.keys ++ [key] := by
  induction t with
  | nil => simp [keys]
  | cons entry rest ih =>
    obtain ⟨k, v⟩ := entry
    simp only [keys] at ih
    by_cases hk : k = key
    · simp [insert, keys, hk]
    · by_cases hm : key ∈ rest.map Prod.fst <;>
        simp_all [insert, keys, eq_comm]

theorem get?_eq_none_iff (t : Table α) (key : String) : t.get? key = none ↔ key ∉ t.keys := by
  induction t with
  | nil => simp [keys]
  | cons entry rest ih =>
    obtain ⟨k, v⟩ := entry
    by_cases hk : k = key <;> simp_all [get?, keys, eq_comm]

end Table

end SchemaVisibility
