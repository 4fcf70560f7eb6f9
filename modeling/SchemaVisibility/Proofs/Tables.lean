import Mathlib.Data.List.Forall2
import SchemaVisibility.Table

/-! # Entries of tables

Where the entries of a table come from, and tables whose entries stand side by side: `Aligned`
tables have the same names in the same order, with related values. Putting related values in place
keeps them aligned (`Aligned.insert`).
-/

namespace SchemaVisibility.Table

variable {α : Type}

theorem mem_of_get? {t : Table α} {key : String} {v : α} (h : t.get? key = some v) :
    (key, v) ∈ t := by
  induction t with
  | nil => simp at h
  | cons entry rest ih =>
    obtain ⟨k, w⟩ := entry
    rw [get?] at h
    split at h
    · next hk => cases h; subst hk; exact List.mem_cons_self
    · exact List.mem_cons_of_mem _ (ih h)

theorem mem_of_mem_insert {t : Table α} {key : String} {v : α} {entry : String × α}
    (h : entry ∈ t.insert key v) : entry = (key, v) ∨ entry ∈ t := by
  induction t with
  | nil =>
    rw [insert_nil, List.mem_singleton] at h
    exact Or.inl h
  | cons first rest ih =>
    obtain ⟨k, w⟩ := first
    rw [insert] at h
    split at h
    · next hk =>
      rcases List.mem_cons.mp h with rfl | h
      · exact Or.inl (by rw [hk])
      · exact Or.inr (List.mem_cons_of_mem _ h)
    · rcases List.mem_cons.mp h with rfl | h
      · exact Or.inr List.mem_cons_self
      · exact (ih h).imp_right (List.mem_cons_of_mem _)

theorem get?_of_mem {t : Table α} (hn : t.keys.Nodup) {key : String} {v : α}
    (h : (key, v) ∈ t) : t.get? key = some v := by
  induction t with
  | nil => cases h
  | cons entry rest ih =>
    obtain ⟨k, w⟩ := entry
    rw [keys, List.map_cons, List.nodup_cons] at hn
    rw [get?]
    rcases List.mem_cons.mp h with he | h
    · cases he; rw [if_pos rfl]
    · have hk : k ≠ key := by
        rintro rfl
        exact hn.1 (List.mem_map.mpr ⟨(k, v), h, rfl⟩)
      rw [if_neg hk]
      exact ih hn.2 h

/-- Of several entries with one name the last counts. -/
theorem get?_insertAll (entries : List (String × α)) (t : Table α) (key : String) :
    (t.insertAll entries).get? key =
      ((entries.reverse.find? fun entry => entry.1 = key).map Prod.snd).or (t.get? key) := by
  induction entries generalizing t with
  | nil => rfl
  | cons entry rest ih =>
    rw [insertAll, List.foldl_cons, ← insertAll, ih, get?_insert, List.reverse_cons,
      List.find?_append]
    cases rest.reverse.find? fun entry => entry.1 = key with
    | some found => rfl
    | none => by_cases h : entry.1 = key <;> simp [h]

theorem keys_insert_of_get? {t : Table α} {key : String} {v w : α} (h : t.get? key = some v) :
    (t.insert key w).keys = t.keys := by
  have hk : key ∈ t.keys := by
    by_contra hk
    rw [(get?_eq_none_iff t key).mpr hk] at h
    cases h
  rw [keys_insert, if_pos hk]

/-- Putting a value where it stands already changes nothing. -/
theorem insert_of_get? {t : Table α} {key : String} {v : α} (h : t.get? key = some v) :
    t.insert key v = t := by
  induction t with
  | nil => cases h
  | cons entry rest ih =>
    obtain ⟨k, w⟩ := entry
    rw [get?] at h
    rw [insert]
    split at h
    · next hk => cases h; rw [if_pos hk, hk]
    · next hk => rw [if_neg hk, ih h]

/-- Entering a value twice is entering it once. -/
theorem insert_insert (t : Table α) (key : String) (v : α) :
    (t.insert key v).insert key v = t.insert key v := by
  refine insert_of_get? ?_
  rw [get?_insert, if_pos rfl]

/-- A value that can be put in place without a change stands there already. -/
theorem get?_of_insert_eq {t : Table α} {key : String} {v : α} (h : t.insert key v = t) :
    t.get? key = some v := by
  rw [← h, get?_insert, if_pos rfl]

/-- A name that is new is put at the end. -/
theorem insert_of_not_mem {t : Table α} {key : String} (h : key ∉ t.keys) (v : α) :
    t.insert key v = t ++ [(key, v)] := by
  induction t with
  | nil => rfl
  | cons entry rest ih =>
    obtain ⟨k, w⟩ := entry
    rw [keys, List.map_cons, List.mem_cons, not_or] at h
    rw [insert, if_neg (Ne.symm h.1), ih h.2, List.cons_append]

theorem insertAll_of_nodup {t : Table α} {entries : List (String × α)}
    (h : (t ++ entries : Table α).keys.Nodup) : t.insertAll entries = t ++ entries := by
  induction entries generalizing t with
  | nil => rw [List.append_nil, insertAll, List.foldl_nil]
  | cons entry rest ih =>
    obtain ⟨key, v⟩ := entry
    have hkey : key ∉ t.keys := by
      rw [keys, List.map_append] at h
      exact fun hmem => (List.nodup_append.mp h).2.2 key hmem key List.mem_cons_self rfl
    rw [List.append_cons] at h
    rw [insertAll, List.foldl_cons, ← insertAll, insert_of_not_mem hkey, ih h,
      List.append_assoc, List.singleton_append]

/-- Entries with a name each are a table as they are. -/
theorem ofList_of_nodup {entries : List (String × α)} (h : (keys entries).Nodup) :
    ofList entries = entries :=
  insertAll_of_nodup h

/-! ### Tables with other values -/

variable {β : Type}

/-- The table with what a map makes of its values. -/
def mapValues (f : α → β) (t : Table α) : Table β :=
  t.map fun entry => (entry.1, f entry.2)

theorem get?_mapValues (f : α → β) (t : Table α) (key : String) :
    (t.mapValues f).get? key = (t.get? key).map f := by
  induction t with
  | nil => rfl
  | cons entry rest ih =>
    obtain ⟨k, v⟩ := entry
    simp only [mapValues] at ih
    simp only [mapValues, List.map_cons, get?, ih]
    split <;> rfl

theorem insert_mapValues (f : α → β) (t : Table α) (key : String) (value : α) :
    (t.mapValues f).insert key (f value) = (t.insert key value).mapValues f := by
  induction t with
  | nil => rfl
  | cons entry rest ih =>
    obtain ⟨k, v⟩ := entry
    simp only [mapValues] at ih
    simp only [mapValues, List.map_cons, insert, ih]
    split <;> rfl

theorem insertAll_mapValues (f : α → β) (entries : List (String × α)) (t : Table α) :
    (t.mapValues f).insertAll (entries.map fun entry => (entry.1, f entry.2)) =
      (t.insertAll entries).mapValues f := by
  rw [insertAll, insertAll, List.foldl_map]
  exact List.foldl_hom (mapValues f) fun t entry => insert_mapValues f t entry.1 entry.2

theorem erase_mapValues (f : α → β) (t : Table α) (key : String) :
    (t.mapValues f).erase key = (t.erase key).mapValues f :=
  List.filter_map

/-! ### Tables side by side -/

/-- Two tables have the same names in the same order, with related values. -/
def Aligned (E : String → α → β → Prop) (t : Table α) (u : Table β) : Prop :=
  List.Forall₂ (fun a b => a.1 = b.1 ∧ E a.1 a.2 b.2) t u

namespace Aligned

variable {E F : String → α → β → Prop} {t : Table α} {u : Table β}

theorem imp (himp : ∀ key v w, (key, v) ∈ t → E key v w → F key v w) (h : Aligned E t u) :
    Aligned F t u := by
  induction h with
  | nil => exact .nil
  | cons hab _ ih =>
    exact .cons ⟨hab.1, himp _ _ _ List.mem_cons_self hab.2⟩
      (ih fun key v w hm => himp key v w (List.mem_cons_of_mem _ hm))

/-- What a name stands for in the two tables. -/
theorem get?_cases (h : Aligned E t u) (key : String) :
    (t.get? key = none ∧ u.get? key = none) ∨
      ∃ v w, t.get? key = some v ∧ u.get? key = some w ∧ E key v w := by
  induction h with
  | nil => exact Or.inl ⟨rfl, rfl⟩
  | @cons a b _ _ hab _ ih =>
    obtain ⟨k, v⟩ := a
    obtain ⟨k', w⟩ := b
    obtain ⟨rfl, hE⟩ := hab
    by_cases hk : k = key
    · subst hk
      exact Or.inr ⟨v, w, if_pos rfl, if_pos rfl, hE⟩
    · rw [get?, get?, if_neg hk, if_neg hk]
      exact ih

/-- What a name stands for in both tables is related. -/
theorem get?_related (h : Aligned E t u) {key : String} {v : α} {w : β}
    (hv : t.get? key = some v) (hw : u.get? key = some w) : E key v w := by
  rcases h.get?_cases key with ⟨hv', -⟩ | ⟨v', w', hv', hw', hE⟩
  · rw [hv'] at hv
    cases hv
  · rw [hv', Option.some.injEq] at hv
    rw [hw', Option.some.injEq] at hw
    rwa [← hv, ← hw]

/-- Related values in place of the old ones keep tables aligned. -/
theorem insert (h : Aligned E t u) (hn : t.keys.Nodup) {key : String} {v v' : α} {w' : β}
    (hv : t.get? key = some v) (hF : F key v' w')
    (hrest : ∀ k v w, k ≠ key → E k v w → F k v w) :
    Aligned F (t.insert key v') (u.insert key w') := by
  induction h with
  | nil => cases hv
  | @cons a b rest more hab hr ih =>
    obtain ⟨k, x⟩ := a
    obtain ⟨k', y⟩ := b
    obtain ⟨rfl, hE⟩ := hab
    rw [keys, List.map_cons, List.nodup_cons] at hn
    by_cases hk : k = key
    · subst hk
      rw [Table.insert, Table.insert, if_pos rfl, if_pos rfl]
      refine .cons ⟨rfl, hF⟩ (imp (fun k₁ v₁ w₁ hm => hrest k₁ v₁ w₁ ?_) hr)
      rintro rfl
      exact hn.1 (List.mem_map.mpr ⟨(k₁, v₁), hm, rfl⟩)
    · rw [get?, if_neg hk] at hv
      rw [Table.insert, Table.insert, if_neg hk, if_neg hk]
      exact .cons ⟨rfl, hrest k x y hk hE⟩ (ih hn.2 hv)

/-- Related values under one key keep tables aligned in the same way, whatever stood there. -/
theorem put (h : Aligned E t u) {key : String} {v : α} {w : β} (hvw : E key v w) :
    Aligned E (t.insert key v) (u.insert key w) := by
  induction h with
  | nil => exact .cons ⟨rfl, hvw⟩ .nil
  | @cons a b _ _ hab hrest ih =>
    obtain ⟨k, x⟩ := a
    obtain ⟨k', y⟩ := b
    obtain ⟨rfl, hE⟩ := hab
    by_cases hk : k = key
    · subst hk
      rw [Table.insert, Table.insert, if_pos rfl, if_pos rfl]
      exact .cons ⟨rfl, hvw⟩ hrest
    · rw [Table.insert, Table.insert, if_neg hk, if_neg hk]
      exact .cons ⟨rfl, hE⟩ ih

theorem refl {E : String → α → α → Prop} (hrefl : ∀ key v, E key v v) (t : Table α) :
    Aligned E t t :=
  List.forall₂_same.mpr fun entry _ => ⟨rfl, hrefl entry.1 entry.2⟩

theorem trans {E F G : String → α → α → Prop} {t u s : Table α}
    (htrans : ∀ key v w x, E key v w → F key w x → G key v x) (h : Aligned E t u)
    (g : Aligned F u s) : Aligned G t s := by
  induction h generalizing s with
  | nil => cases g; exact .nil
  | cons hab _ ih =>
    cases g with
    | @cons _ c _ _ hbc hrest =>
      exact .cons ⟨hab.1.trans hbc.1, htrans _ _ _ _ hab.2 (hab.1 ▸ hbc.2)⟩ (ih hrest)

/-- A table is aligned with itself after a related value was put in place of the old one. -/
theorem of_insert {E : String → α → α → Prop} (hrefl : ∀ key v, E key v v) {t : Table α}
    {key : String} {v w : α} (hv : t.get? key = some v) (hE : E key v w) :
    Aligned E t (t.insert key w) := by
  induction t with
  | nil => cases hv
  | cons entry rest ih =>
    obtain ⟨k, x⟩ := entry
    rw [get?] at hv
    rw [Table.insert]
    split at hv
    · next hk =>
      cases hv
      rw [if_pos hk]
      exact .cons ⟨rfl, hk ▸ hE⟩ (refl hrefl rest)
    · next hk =>
      rw [if_neg hk]
      exact .cons ⟨rfl, hrefl k x⟩ (ih hv)

theorem antisymm {t u : Table α} {E : String → α → α → Prop} (h : Aligned E t u)
    (g : Aligned E u t) (hantisymm : ∀ key v w, E key v w → E key w v → v = w) : t = u := by
  induction h with
  | nil => rfl
  | @cons a b _ _ hab _ ih =>
    cases g with
    | cons hba hrest =>
      obtain ⟨k, v⟩ := a
      obtain ⟨k', w⟩ := b
      obtain ⟨rfl, hvw⟩ := hab
      rw [hantisymm k v w hvw hba.2, ih hrest]

theorem eq_of_eq {t u : Table α} {E : String → α → α → Prop} (h : Aligned E t u)
    (heq : ∀ key v w, E key v w → v = w) : t = u := by
  induction h with
  | nil => rfl
  | @cons a b _ _ hab _ ih =>
    obtain ⟨k, v⟩ := a
    obtain ⟨k', w⟩ := b
    obtain ⟨rfl, hE⟩ := hab
    rw [heq k v w hE, ih]

end Aligned

end SchemaVisibility.Table
