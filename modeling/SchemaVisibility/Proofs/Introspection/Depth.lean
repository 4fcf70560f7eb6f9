import SchemaVisibility.Introspection.Redaction
import SchemaVisibility.Proofs.Fallible
import SchemaVisibility.Proofs.Tables

/-! # Redaction and depth

A walk goes down at most as deep as its bound, and `redact` takes the depth of the data for it. The
bound does not matter as long as it is not below that depth: redaction never makes a value deeper
(`walk_depth_le`), so a larger bound gives the same walk (`walk_eq_of_depth_le`) and the same
redaction of a whole result
(`redact_obj_eq`).
-/

namespace SchemaVisibility.Json

theorem depthItems_le_iff {items : List Json} {n : Nat} :
    depthItems items ≤ n ↔ ∀ v ∈ items, v.depth ≤ n := by
  induction items with
  | nil => simp [depthItems]
  | cons v rest ih => rw [depthItems, Nat.max_le, ih, List.forall_mem_cons]

theorem depthMembers_le_iff {members : Table Json} {n : Nat} :
    depthMembers members ≤ n ↔ ∀ entry ∈ members, entry.2.depth ≤ n := by
  induction members with
  | nil => simp [depthMembers]
  | cons entry rest ih =>
    obtain ⟨k, v⟩ := entry
    rw [depthMembers, Nat.max_le, ih, List.forall_mem_cons]

theorem depth_le_of_get? {members : Table Json} {n : Nat} {key : String} {v : Json}
    (h : depthMembers members ≤ n) (hv : Table.get? members key = some v) : v.depth ≤ n :=
  depthMembers_le_iff.mp h (key, v) (Table.mem_of_get? hv)

theorem depthMembers_insert_le {members : Table Json} {n : Nat} {key : String} {v : Json}
    (h : depthMembers members ≤ n) (hv : v.depth ≤ n) :
    depthMembers (Table.insert members key v) ≤ n := by
  rw [depthMembers_le_iff]
  intro entry he
  rcases Table.mem_of_mem_insert he with rfl | he
  · exact hv
  · exact depthMembers_le_iff.mp h entry he

end SchemaVisibility.Json

namespace SchemaVisibility.Introspection.Redaction

open GraphQL Fallible

variable {registry : Registry} {fragments : Fragments}

/-! ### Filtering -/

/-- What stays in a member list stood there, in the same order. -/
theorem keptEntries_sublist {hidden : List String} {children : List Field} :
    ∀ {entries kept : List Json}, keptEntries hidden children entries = .ok kept →
      kept.Sublist entries := by
  intro entries
  induction entries with
  | nil =>
    intro kept h
    rw [keptEntries, Except.ok.injEq] at h
    exact h ▸ List.Sublist.refl []
  | cons entry rest ih =>
    intro kept h
    rw [keptEntries, bind_eq_ok] at h
    obtain ⟨stays, _, h⟩ := h
    obtain ⟨more, hmore, h⟩ := bind_eq_ok.mp h
    rw [pure_eq_ok] at h
    subst h
    by_cases hs : stays
    · rw [if_pos hs]; exact (ih hmore).cons_cons entry
    · rw [if_neg hs]; exact (ih hmore).cons entry

theorem filterMembers_depth_le {hidden : List String} {n : Nat} {child : Field}
    {object result : Table Json} (hd : Json.depthMembers object ≤ n)
    (h : filterMembers fragments hidden object child = .ok result) :
    Json.depthMembers result ≤ n := by
  rw [filterMembers] at h
  split at h
  · split at h
    · next entries hget =>
      obtain ⟨kept, hkept, h⟩ := bind_eq_ok.mp h
      rw [pure_eq_ok] at h
      subst h
      have hentries := Json.depth_le_of_get? hd hget
      refine Json.depthMembers_insert_le hd ?_
      rw [Json.depth] at hentries ⊢
      have hsub : Json.depthItems kept ≤ Json.depthItems entries := by
        rw [Json.depthItems_le_iff]
        intro v hv
        exact Json.depthItems_le_iff.mp (Nat.le_refl _) v ((keptEntries_sublist hkept).subset hv)
      omega
    · rw [pure_eq_ok] at h; exact h ▸ hd
  · rw [pure_eq_ok] at h; exact h ▸ hd

theorem descriptor_depth_le {n : Nat} {children : List Field} {literal : Option String}
    {object result : Table Json} (hd : Json.depthMembers object ≤ n)
    (h : descriptor registry fragments children literal object = .ok result) :
    Json.depthMembers result ≤ n := by
  rw [descriptor, bind_eq_ok] at h
  obtain ⟨hidden, _, h⟩ := h
  split at h
  · rw [pure_eq_ok] at h; exact h ▸ hd
  · exact foldlM_keeps (P := fun object => Json.depthMembers object ≤ n)
      (fun _ _ _ _ => filterMembers_depth_le) hd h

/-! ### Walking -/

theorem walk_arr (n : Nat) (literal : Option String) (kind : Kind) (field : Field)
    (items : List Json) :
    walk registry fragments (n + 1) literal kind field (.arr items) =
      (do return .arr (← items.mapM (walk registry fragments n literal kind field))) := rfl

/-- An object before its members are walked: a descriptor is filtered, others are as they are. -/
def opened (registry : Registry) (fragments : Fragments) (literal : Option String) (kind : Kind)
    (field : Field) (object : Table Json) : Except Failure (Table Json) :=
  if kind = .type then
    descriptor registry fragments (collect fragments field.selections) literal object
  else .ok object

/-- The members of an object after its children were walked one after the other. -/
def visited (registry : Registry) (fragments : Fragments) (n : Nat) (kind : Kind) (field : Field)
    (object : Table Json) : Except Failure (Table Json) :=
  (collect fragments field.selections).foldlM (visit (walk registry fragments n none) kind) object

theorem walk_obj (n : Nat) (literal : Option String) (kind : Kind) (field : Field)
    (object : Table Json) :
    walk registry fragments (n + 1) literal kind field (.obj object) =
      (do
        let object ← opened registry fragments literal kind field object
        return .obj (← visited registry fragments n kind field object)) := by
  rw [walk, opened]
  split <;> rfl

theorem visit_depth_le {go : Kind → Field → Json → Except Failure Json} {n : Nat}
    (hgo : ∀ next child v w, v.depth ≤ n → go next child v = .ok w → w.depth ≤ n)
    {kind : Kind} {child : Field} {object result : Table Json}
    (hd : Json.depthMembers object ≤ n) (h : visit go kind object child = .ok result) :
    Json.depthMembers result ≤ n := by
  rw [visit] at h
  split at h
  · cases h
  · split at h
    · next next value _ hget =>
      obtain ⟨w, hw, h⟩ := bind_eq_ok.mp h
      rw [pure_eq_ok] at h
      subst h
      exact Json.depthMembers_insert_le hd (hgo _ _ _ _ (Json.depth_le_of_get? hd hget) hw)
    · cases h; exact hd

theorem opened_depth_le {n : Nat} {literal : Option String} {kind : Kind} {field : Field}
    {object result : Table Json} (hd : Json.depthMembers object ≤ n)
    (h : opened registry fragments literal kind field object = .ok result) :
    Json.depthMembers result ≤ n := by
  rw [opened] at h
  split at h
  · exact descriptor_depth_le hd h
  · cases h; exact hd

/-- **A walk makes no value deeper.** -/
theorem walk_depth_le : ∀ (n : Nat) {m : Nat} {literal : Option String} {kind : Kind}
    {field : Field} {v w : Json}, v.depth ≤ m →
    walk registry fragments n literal kind field v = .ok w → w.depth ≤ m := by
  intro n
  induction n with
  | zero => intro m literal kind field v w hv h; cases h; exact hv
  | succ n ih =>
    intro m literal kind field v w hv h
    cases v with
    | arr items =>
      rw [walk_arr] at h
      obtain ⟨results, hr, h⟩ := bind_eq_ok.mp h
      cases h
      cases m with
      | zero => simp [Json.depth] at hv
      | succ m =>
        rw [Json.depth, Nat.succ_le_succ_iff, Json.depthItems_le_iff] at hv ⊢
        intro r hmem
        obtain ⟨item, hitem, hwalked⟩ := exists_of_mem_mapM hr hmem
        exact ih (hv item hitem) hwalked
    | obj object =>
      rw [walk_obj] at h
      obtain ⟨opened, ho, h⟩ := bind_eq_ok.mp h
      obtain ⟨result, hr, h⟩ := bind_eq_ok.mp h
      cases h
      cases m with
      | zero => simp [Json.depth] at hv
      | succ m =>
        rw [Json.depth, Nat.succ_le_succ_iff] at hv ⊢
        exact foldlM_keeps (P := fun object => Json.depthMembers object ≤ m)
          (fun _ _ _ _ => visit_depth_le fun _ _ _ _ => ih) (opened_depth_le hv ho) hr
    | _ => cases h; exact hv

theorem walk_succ_eq : ∀ (n : Nat) {literal : Option String} {kind : Kind} {field : Field}
    {v : Json}, v.depth ≤ n →
    walk registry fragments (n + 1) literal kind field v =
      walk registry fragments n literal kind field v := by
  intro n
  induction n with
  | zero =>
    intro literal kind field v hv
    cases v with
    | arr items => simp [Json.depth] at hv
    | obj object => simp [Json.depth] at hv
    | _ => rfl
  | succ n ih =>
    intro literal kind field v hv
    cases v with
    | arr items =>
      rw [Json.depth, Nat.succ_le_succ_iff, Json.depthItems_le_iff] at hv
      rw [walk_arr, walk_arr, mapM_congr fun item hi => ih (hv item hi)]
    | obj object =>
      rw [Json.depth, Nat.succ_le_succ_iff] at hv
      rw [walk_obj, walk_obj]
      cases ho : opened registry fragments literal kind field object with
      | error e => rfl
      | ok object =>
        -- the bound on the members holds at every step of the fold, so the walks of single
        -- members agree by the induction hypothesis
        have heq : visited registry fragments (n + 1) kind field object =
            visited registry fragments n kind field object := by
          refine foldlM_congr (P := fun object => Json.depthMembers object ≤ n)
            (fun child _ object hd => ?_)
            (fun _ _ _ _ => visit_depth_le fun _ _ _ _ => walk_depth_le (n + 1))
            (opened_depth_le hv ho)
          rw [visit, visit]
          split
          · rfl
          · split
            · next hget => rw [ih (Json.depth_le_of_get? hd hget)]
            · rfl
        rw [ok_bind, ok_bind, heq]
    | _ => rfl

/-- **The bound of a walk does not matter** as long as the value is no deeper. -/
theorem walk_eq_of_depth_le {n m : Nat} {literal : Option String} {kind : Kind} {field : Field}
    {v : Json} (hn : v.depth ≤ n) (hm : v.depth ≤ m) :
    walk registry fragments n literal kind field v =
      walk registry fragments m literal kind field v := by
  have descend : ∀ k, walk registry fragments (v.depth + k) literal kind field v =
      walk registry fragments v.depth literal kind field v := by
    intro k
    induction k with
    | zero => rfl
    | succ k ih => rw [← Nat.add_assoc, walk_succ_eq _ (by omega), ih]
  obtain ⟨i, rfl⟩ := Nat.exists_eq_add_of_le hn
  obtain ⟨j, rfl⟩ := Nat.exists_eq_add_of_le hm
  rw [descend i, descend j]

/-! ### The root -/

theorem root_depth_le {n m : Nat} {field : Field} {data result : Json} (hd : data.depth ≤ m)
    (h : root registry fragments n data field = .ok result) : result.depth ≤ m := by
  rw [root] at h
  split at h
  · cases h; exact hd
  · split at h
    · next object =>
      split at h
      · cases h; exact hd
      · next value hget =>
        obtain ⟨w, hw, h⟩ := bind_eq_ok.mp h
        cases h
        cases m with
        | zero => simp [Json.depth] at hd
        | succ m =>
          rw [Json.depth, Nat.succ_le_succ_iff] at hd ⊢
          exact Json.depthMembers_insert_le hd (walk_depth_le n (Json.depth_le_of_get? hd hget) hw)
    · cases h

theorem root_congr {n m : Nat} {field : Field} {data : Json} (hn : data.depth ≤ n)
    (hm : data.depth ≤ m) :
    root registry fragments n data field = root registry fragments m data field := by
  rw [root, root]
  split
  · rfl
  · split
    · next object =>
      split
      · rfl
      · next value hget =>
        have hv : value.depth + 1 ≤ (Json.obj object).depth := by
          rw [Json.depth]
          exact Nat.succ_le_succ (Json.depth_le_of_get? (Nat.le_refl _) hget)
        rw [walk_eq_of_depth_le (n := n) (m := m) (by omega) (by omega)]
    · rfl

theorem foldlM_root_nil {n : Nat} (fields : List Field) :
    fields.foldlM (root registry fragments n) (.obj []) = .ok (.obj []) := by
  refine Fallible.foldlM_still fun field _ => ?_
  rw [root]
  split <;> rfl

end SchemaVisibility.Introspection.Redaction

namespace SchemaVisibility.Introspection

open GraphQL Redaction Fallible

/-- The fields at the root of the operation that is selected, none if no operation is. -/
def rootSelection (document : Document) (operationName : Option String) : List Field :=
  match document.selectedOperation? operationName with
  | none => []
  | some operation => collect document.fragmentTable operation.selections

/-- **Redaction walks the root fields in turn**, with any bound that is no less than the depth of
the result. -/
theorem redact_obj_eq {registry : Registry} {document : Document} {operationName : Option String}
    {members : Table Json} {n : Nat} (hn : (Json.obj members).depth ≤ n) :
    redact registry document operationName (.obj members) =
      (rootSelection document operationName).foldlM (root registry document.fragmentTable n)
        (.obj members) := by
  by_cases hmembers : members = []
  · subst hmembers
    rw [foldlM_root_nil]
    rfl
  · have htruthy : (Json.obj members).truthy = true := by
      simp [Json.truthy, hmembers]
    rw [redact, if_pos htruthy, rootSelection]
    cases document.selectedOperation? operationName with
    | none => rfl
    | some operation =>
      exact foldlM_congr (P := fun data => data.depth ≤ (Json.obj members).depth)
        (fun _ _ data hd => root_congr hd (Nat.le_trans hd hn))
        (fun _ _ _ _ => root_depth_le) (Nat.le_refl _)

end SchemaVisibility.Introspection
