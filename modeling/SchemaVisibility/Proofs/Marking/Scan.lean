import SchemaVisibility.Marking.Scan
import SchemaVisibility.Proofs.Schema.Built

/-! # What a scan records

A scan that meets no type of unknown kind records every marked declaration of every type that the
type map shows, apart from types with reserved names (`scan_eq`). In a valid schema that was built
this holds of all its types (`exists_scan`).
-/

namespace SchemaVisibility.Schema

open GraphQL

variable {schema : Schema} {shared : Extensions}

/-- The records of the marked declarations of a type, none if its name is reserved. -/
def recordsOf (schema : Schema) (shared : Extensions) (name : String) : List Record :=
  if isReserved name then []
  else ((((schema.definition? name).map TypeDefinition.declarations).getD []).filter
    (schema.isPrivate shared)).map Declaration.record

theorem scanEntries_eq {entries : Table Entry}
    (h : ∀ entry ∈ entries, isReserved entry.1 = false → entry.2 = .known) :
    schema.scanEntries shared entries =
      .ok (entries.flatMap fun entry => schema.recordsOf shared entry.1) := by
  induction entries with
  | nil => rfl
  | cons entry rest ih =>
    obtain ⟨name, kind⟩ := entry
    have hentry : schema.scanEntry shared (name, kind) = .ok (schema.recordsOf shared name) := by
      by_cases hname : isReserved name = true
      · rw [recordsOf, if_pos hname]
        exact if_pos hname
      · obtain rfl : kind = .known :=
          h (name, kind) List.mem_cons_self (Bool.eq_false_iff.mpr hname)
        rw [recordsOf, if_neg hname]
        exact if_neg hname
    rw [scanEntries, hentry, ih fun other ho => h other (List.mem_cons_of_mem _ ho),
      List.flatMap_cons]
    rfl

/-- **The scan of a type map without types of unknown kind.** -/
theorem scan_eq (h : ∀ entry ∈ schema.entries, isReserved entry.1 = false → entry.2 = .known) :
    schema.scan shared =
      .ok (schema.entries.flatMap fun entry => schema.recordsOf shared entry.1) :=
  scanEntries_eq h

/-- In a valid schema that was built, a scan records every marked declaration of every type. -/
theorem exists_scan (h : schema.Regular) (hvalid : schema.isValid = true) (shared : Extensions) :
    ∃ records, schema.scan shared = .ok records ∧
      ∀ type ∈ schema.types, ∀ declaration ∈ type.declarations,
        schema.isPrivate shared declaration = true → declaration.record ∈ records := by
  refine ⟨_, scan_eq fun entry he _ => h.known entry he, fun type ht declaration hd hp => ?_⟩
  refine List.mem_flatMap.mpr ⟨_, h.shown type ht, ?_⟩
  rw [recordsOf, h.not_isReserved hvalid ht, h.definition?_eq ht]
  exact List.mem_map_of_mem (List.mem_filter.mpr ⟨hd, hp⟩)

end SchemaVisibility.Schema
