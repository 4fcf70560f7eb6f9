import SchemaVisibility.Proofs.Introspection.Idempotence

/-! # Redacting with several registries

What redaction makes of data is the greatest of all trimmed data that are at rest
(`redact_greatest`): a redaction trims, its result is at rest, and it is monotone, because what
trimming leaves of data is redacted by the same decisions (`redact_follows`). What is at rest with
two registries is just what is at rest with the registry of all their records
(`atRest_iff_of_unites`).

So redactions with several registries are redactions with one, in whatever order they come, and more
records only ever remove more (`redact_append`).
-/

namespace SchemaVisibility.Introspection

open GraphQL Redaction Fallible Table

variable {registry : Registry} {fragments : Fragments}

/-! ### Redacting trimmed data -/

theorem keptEntries_follows {hidden : List String} {children : List Field}
    {items kept stay : List Json} (h : TrimmedItems items kept)
    (hstay : keptEntries hidden children items = .ok stay) :
    ∃ left, keptEntries hidden children kept = .ok left ∧ TrimmedItems stay left := by
  induction items generalizing kept stay with
  | nil =>
    cases h
    exact ⟨stay, hstay, TrimmedItems.refl stay⟩
  | cons v rest ih =>
    rw [keptEntries, bind_eq_ok] at hstay
    obtain ⟨stays, hv, hstay⟩ := hstay
    obtain ⟨more, hmore, hstay⟩ := bind_eq_ok.mp hstay
    rw [pure_eq_ok] at hstay
    subst hstay
    cases h with
    | keep hvw hrest =>
      obtain ⟨left, hleft, htrimmed⟩ := ih hrest hmore
      refine ⟨_, keptEntries_cons (keeps_of_trimmed hvw hv) hleft, ?_⟩
      cases stays with
      | true => exact .keep hvw htrimmed
      | false => exact htrimmed
    | drop hrest =>
      obtain ⟨left, hleft, htrimmed⟩ := ih hrest hmore
      refine ⟨left, hleft, ?_⟩
      cases stays with
      | true => exact .drop htrimmed
      | false => exact htrimmed

theorem TrimmedMembers.put {before after : Table Json} (h : TrimmedMembers before after)
    (key : String) {v w : Json} (hvw : Trimmed v w) :
    TrimmedMembers (before.insert key v) (after.insert key w) :=
  trimmedMembers_iff.mpr ((trimmedMembers_iff.mp h).put hvw)

theorem filterMembers_follows {hidden : List String} {child : Field}
    {object result other : Table Json} (hother : TrimmedMembers object other)
    (h : filterMembers fragments hidden object child = .ok result) :
    ∃ result', filterMembers fragments hidden other child = .ok result' ∧
      TrimmedMembers result result' := by
  by_cases hlist : child.name ∈ memberLists
  · rcases hother.get?_cases child.responseKey with ⟨hv, hw⟩ | ⟨v, w, hv, hw, hvw⟩
    · rw [filterMembers_of_ne_arr (by simp [hv])] at h
      cases h
      exact ⟨other, filterMembers_of_ne_arr (by simp [hw]), hother⟩
    · cases hvw with
      | @list items kept hkept =>
        rw [filterMembers, if_pos hlist, hv] at h
        obtain ⟨stay, hstay, h⟩ := bind_eq_ok.mp h
        rw [pure_eq_ok] at h
        subst h
        obtain ⟨left, hleft, htrimmed⟩ := keptEntries_follows hkept hstay
        exact ⟨_, filterMembers_of_arr hlist hw hleft, hother.put _ (.list htrimmed)⟩
      | object _ =>
        rw [filterMembers_of_ne_arr (by simp [hv])] at h
        cases h
        exact ⟨other, filterMembers_of_ne_arr (by simp [hw]), hother⟩
      | scalar hscalar =>
        have hne : ∀ table : Table Json, table.get? child.responseKey = some v →
            ∀ entries, table.get? child.responseKey ≠ some (.arr entries) := by
          intro table htable entries hentries
          rw [htable, Option.some.injEq] at hentries
          exact (hentries ▸ hscalar : IsScalar (.arr entries)).elim
        rw [filterMembers_of_ne_arr (hne object hv)] at h
        cases h
        exact ⟨other, filterMembers_of_ne_arr (hne other hw), hother⟩
  · rw [filterMembers_of_not_mem hlist] at h
    cases h
    exact ⟨other, filterMembers_of_not_mem hlist, hother⟩

theorem opened_follows {literal : Option String} {kind : Kind} {field : Field}
    {object result other : Table Json} (hother : TrimmedMembers object other)
    (h : opened registry fragments literal kind field object = .ok result) :
    ∃ result', opened registry fragments literal kind field other = .ok result' ∧
      TrimmedMembers result result' := by
  by_cases hkind : kind = .type
  · subst hkind
    obtain ⟨hidden, hhidden, -⟩ : ∃ hidden, hiddenNames registry
        (Redaction.owner object (collect fragments field.selections) literal) = .ok hidden ∧ _ := by
      rwa [opened, if_pos rfl, descriptor, bind_eq_ok] at h
    have hhidden' : hiddenNames registry
        (Redaction.owner other (collect fragments field.selections) literal) = .ok hidden := by
      rw [owner_eq_of_alike hother.alike (isScalar_of_hiddenNames hhidden), hhidden]
    rw [opened_eq hhidden] at h
    rw [opened_eq hhidden']
    by_cases hempty : hidden.isEmpty = true
    · rw [if_pos hempty] at h ⊢
      cases h
      exact ⟨other, rfl, hother⟩
    · rw [if_neg hempty] at h ⊢
      exact foldlM_follows (fun _ _ _ _ _ => filterMembers_follows) hother h
  · rw [opened, if_neg hkind] at h
    cases h
    exact ⟨other, by rw [opened, if_neg hkind], hother⟩

/-- Going into a child of trimmed objects is related if the walks of the child are. -/
theorem stepInto_follows {lead : Field → Option Kind}
    {go : Field → Kind → Json → Except Failure Json} {child : Field}
    {object result other : Table Json}
    (hgo : ∀ next v w r, Trimmed v r → go child next v = .ok w →
      ∃ w', go child next r = .ok w' ∧ Trimmed w w')
    (hother : TrimmedMembers object other) (h : stepInto lead go object child = .ok result) :
    ∃ result', stepInto lead go other child = .ok result' ∧ TrimmedMembers result result' := by
  rcases stepInto_cases h with ⟨rfl, hno | hno⟩ | ⟨next, v, w, hl, hv, hw, rfl⟩
  · exact ⟨other, stepInto_of_lead_none hno, hother⟩
  · rcases hother.get?_cases child.responseKey with ⟨-, hr⟩ | ⟨v, r, hv, -, -⟩
    · refine ⟨other, ?_, hother⟩
      cases hl : lead child with
      | none => exact stepInto_of_lead_none hl
      | some next => exact stepInto_of_absent hl hr
    · rw [hno] at hv
      cases hv
  · rcases hother.get?_cases child.responseKey with ⟨hv', -⟩ | ⟨v', r, hv', hr, hvr⟩
    · rw [hv] at hv'
      cases hv'
    · rw [hv, Option.some.injEq] at hv'
      subst hv'
      obtain ⟨w', hw', htrimmed⟩ := hgo next v w r hvr hw
      exact ⟨_, stepInto_of_present hl hr hw', hother.put _ htrimmed⟩

theorem visited_follows {n : Nat} {kind : Kind} {field : Field} {object result other : Table Json}
    (hwalk : ∀ next child v w r, Trimmed v r → walk registry fragments n none next child v = .ok w →
      ∃ w', walk registry fragments n none next child r = .ok w' ∧ Trimmed w w')
    (hother : TrimmedMembers object other)
    (h : visited registry fragments n kind field object = .ok result) :
    ∃ result', visited registry fragments n kind field other = .ok result' ∧
      TrimmedMembers result result' := by
  refine foldlM_follows (fun child _ s r t hst hstep => ?_) hother h
  have hkind : kind ≠ .leaf := ne_leaf_of_visit hstep
  rw [visit_eq_stepInto _ hkind] at hstep ⊢
  exact stepInto_follows (fun next => hwalk next child) hst hstep

/-- Walking what is left in a list is related if walking single items is. -/
theorem mapM_follows {go : Json → Except Failure Json}
    (hgo : ∀ v w r, Trimmed v r → go v = .ok w → ∃ w', go r = .ok w' ∧ Trimmed w w')
    {items kept results : List Json} (h : TrimmedItems items kept)
    (hresults : items.mapM go = .ok results) :
    ∃ results', kept.mapM go = .ok results' ∧ TrimmedItems results results' := by
  induction items generalizing kept results with
  | nil =>
    cases h
    exact ⟨results, hresults, TrimmedItems.refl results⟩
  | cons v rest ih =>
    rw [List.mapM_cons, bind_eq_ok] at hresults
    obtain ⟨w, hw, hresults⟩ := hresults
    obtain ⟨more, hmore, hresults⟩ := bind_eq_ok.mp hresults
    rw [pure_eq_ok] at hresults
    subst hresults
    cases h with
    | keep hvr hrest =>
      obtain ⟨w', hw', htrimmed⟩ := hgo v w _ hvr hw
      obtain ⟨more', hmore', hitems⟩ := ih hrest hmore
      exact ⟨w' :: more', by rw [List.mapM_cons, hw', ok_bind, hmore']; rfl, .keep htrimmed hitems⟩
    | drop hrest =>
      obtain ⟨more', hmore', hitems⟩ := ih hrest hmore
      exact ⟨more', hmore', .drop hitems⟩

/-- **A walk of trimmed data is decided like the walk of the data**: it succeeds where that does,
and its result is what that gives, trimmed. -/
theorem walk_follows : ∀ (n : Nat) {literal : Option String} {kind : Kind} {field : Field}
    {v w r : Json}, Trimmed v r → walk registry fragments n literal kind field v = .ok w →
    ∃ w', walk registry fragments n literal kind field r = .ok w' ∧ Trimmed w w' := by
  intro n
  induction n with
  | zero =>
    intro literal kind field v w r hr h
    cases h
    exact ⟨r, rfl, hr⟩
  | succ n ih =>
    intro literal kind field v w r hr h
    cases hr with
    | scalar hscalar =>
      rw [walk_scalar hscalar] at h
      cases h
      exact ⟨v, walk_scalar hscalar, Trimmed.refl v⟩
    | @list items kept hkept =>
      rw [walk_arr] at h
      obtain ⟨results, hresults, h⟩ := bind_eq_ok.mp h
      cases h
      obtain ⟨results', hresults', htrimmed⟩ := mapM_follows (fun _ _ _ => ih) hkept hresults
      exact ⟨.arr results', by rw [walk_arr, hresults']; rfl, .list htrimmed⟩
    | @object before after hmembers =>
      rw [walk_obj] at h
      obtain ⟨first, hfirst, h⟩ := bind_eq_ok.mp h
      obtain ⟨second, hsecond, h⟩ := bind_eq_ok.mp h
      cases h
      obtain ⟨first', hfirst', hopened⟩ := opened_follows hmembers hfirst
      obtain ⟨second', hsecond', hvisited⟩ :=
        visited_follows (fun _ _ _ _ _ => ih) hopened hsecond
      exact ⟨.obj second', by rw [walk_obj, hfirst', ok_bind, hsecond']; rfl, .object hvisited⟩

section Results

variable {document : Document} {operationName : Option String} {data result rest : Json}

theorem redact_trimmed (h : redact registry document operationName data = .ok result) :
    Trimmed data result := by
  by_cases hdata : ∃ members, data = .obj members
  · obtain ⟨before, rfl⟩ := hdata
    obtain ⟨after, rfl, hafter⟩ := (redact_obj (Nat.le_refl _)).mp h
    exact .object (foldlM_leads TrimmedMembers.refl (fun _ _ _ => TrimmedMembers.trans)
      (TrimmedMembers.refl before) (fun _ _ _ _ _ => rootStep_trimmed) hafter)
  · rw [redact_of_not_obj (fun members hmembers => hdata ⟨members, hmembers⟩) h]
    exact Trimmed.refl data

/-- Trimmed data are redacted where the data are, and to the result of the data, trimmed. -/
theorem redact_follows (hrest : Trimmed data rest)
    (h : redact registry document operationName data = .ok result) :
    ∃ result', redact registry document operationName rest = .ok result' ∧
      Trimmed result result' := by
  by_cases hdata : ∃ members, data = .obj members
  · obtain ⟨before, rfl⟩ := hdata
    obtain ⟨after, rfl, hafter⟩ := (redact_obj (Nat.le_max_left _ rest.depth)).mp h
    cases hrest with
    | scalar hscalar => exact hscalar.elim
    | @object _ last hlast =>
      obtain ⟨after', hafter', htrimmed⟩ := foldlM_follows (fun _ _ _ _ _ =>
        stepInto_follows fun _ _ _ _ => walk_follows _) hlast hafter
      exact ⟨.obj after', (redact_obj (Nat.le_max_right (Json.obj before).depth _)).mpr
        ⟨after', rfl, hafter'⟩, .object htrimmed⟩
  · obtain rfl : result = data :=
      redact_of_not_obj (fun members hmembers => hdata ⟨members, hmembers⟩) h
    exact ⟨rest, redact_rests_of_trimmed h hrest, hrest⟩

/-- Whether redaction changes nothing in a value. -/
def AtRest (registry : Registry) (document : Document) (operationName : Option String) (v : Json) :
    Prop :=
  redact registry document operationName v = .ok v

/-- **What redaction leaves of data** is at rest, and of all that is at rest and left of the data by
trimming it is the greatest. -/
theorem redact_greatest (h : redact registry document operationName data = .ok result) :
    Trimmed data result ∧ AtRest registry document operationName result ∧
      ∀ rest, Trimmed data rest → AtRest registry document operationName rest →
        Trimmed result rest := by
  refine ⟨redact_trimmed h, redact_rests h, fun rest hrest hatRest => ?_⟩
  obtain ⟨result', hresult', htrimmed⟩ := redact_follows hrest h
  obtain rfl : rest = result' := Except.ok.inj (hatRest.symm.trans hresult')
  exact htrimmed

end Results

/-! ### The records of two registries -/

/-- Whether a registry has as private what either of two registries has. -/
def Unites (all one other : Registry) : Prop :=
  ∀ owner name, all.isPrivate owner name = true ↔
    one.isPrivate owner name = true ∨ other.isPrivate owner name = true

theorem unites_append (first second : List Record) :
    Unites (.ofRecords (first ++ second)) (.ofRecords first) (.ofRecords second) := by
  intro owner name
  simp only [Registry.isPrivate_iff]
  exact List.mem_append

section Unites

variable {all one other : Registry}

theorem Unites.conceals_iff (h : Unites all one other) (owner : Json) (name : String) :
    Conceals all owner name ↔ Conceals one owner name ∨ Conceals other owner name := by
  cases owner with
  | str text => exact h text name
  | null => simp only [Conceals, h _ name, and_or_left, exists_or]
  | _ => exact (or_self_iff).symm

/-- An entry stays where names are hidden exactly if it stays where some of them are and where the
others are. Where none are hidden nothing is asked of it. -/
theorem keeps_iff_of_mem_iff {hidden ones others : List String} {children : List Field}
    {entry : Json} (hmem : ∀ name, name ∈ hidden ↔ name ∈ ones ∨ name ∈ others) :
    (hidden ≠ [] → keeps hidden children entry = .ok true) ↔
      (ones ≠ [] → keeps ones children entry = .ok true) ∧
        (others ≠ [] → keeps others children entry = .ok true) := by
  have hne : hidden ≠ [] ↔ ones ≠ [] ∨ others ≠ [] := by
    constructor
    · intro h
      obtain ⟨name, hname⟩ := List.exists_mem_of_ne_nil hidden h
      exact ((hmem name).mp hname).imp List.ne_nil_of_mem List.ne_nil_of_mem
    · rintro (h | h) <;> obtain ⟨name, hname⟩ := List.exists_mem_of_ne_nil _ h
      · exact List.ne_nil_of_mem ((hmem name).mpr (Or.inl hname))
      · exact List.ne_nil_of_mem ((hmem name).mpr (Or.inr hname))
  -- an entry whose name is no text stays wherever names are hidden, or nowhere
  have hdecided : ∀ stays : Prop, (∀ hidden, keeps hidden children entry = .ok true ↔ stays) →
      ((hidden ≠ [] → keeps hidden children entry = .ok true) ↔
        (ones ≠ [] → keeps ones children entry = .ok true) ∧
          (others ≠ [] → keeps others children entry = .ok true)) := by
    intro stays hstays
    rw [hstays, hstays, hstays, hne, or_imp]
  cases entry with
  | obj members =>
    cases hname : selected members children "name" with
    | str text =>
      have hstays : ∀ hidden, keeps hidden children (.obj members) = .ok true ↔
          text ∉ hidden := by
        intro hidden
        rw [keeps, hname]
        simp
      have hempty : ∀ names : List String, (names ≠ [] → text ∉ names) ↔ text ∉ names :=
        fun names => ⟨fun h hin => h (List.ne_nil_of_mem hin) hin, fun h _ => h⟩
      rw [hstays, hstays, hstays, hempty, hempty, hempty, hmem, not_or]
    | null | arr _ | obj _ =>
      exact hdecided False fun hidden => by rw [keeps, hname]; simp
    | _ => exact hdecided True fun hidden => by rw [keeps, hname]; simp
  | _ => exact hdecided True fun hidden => iff_of_true rfl trivial

/-- An object is opened without a change by the one registry exactly if it is by the two. -/
theorem opened_still_iff_of_unites (h : Unites all one other) {literal : Option String}
    {kind : Kind} {field : Field} {object : Table Json} :
    opened all fragments literal kind field object = .ok object ↔
      opened one fragments literal kind field object = .ok object ∧
        opened other fragments literal kind field object = .ok object := by
  by_cases hkind : kind = .type
  · subst hkind
    -- the names that the one registry hides are those that either of the two hides
    have hmem : ∀ {owner : Json} {hidden ones others : List String},
        hiddenNames all owner = .ok hidden → hiddenNames one owner = .ok ones →
        hiddenNames other owner = .ok others →
        ∀ name, name ∈ hidden ↔ name ∈ ones ∨ name ∈ others := by
      intro owner hidden ones others hhidden hones hothers name
      rw [mem_hiddenNames hhidden, mem_hiddenNames hones, mem_hiddenNames hothers, h.conceals_iff]
    rw [opened_still_iff, opened_still_iff, opened_still_iff]
    constructor
    · rintro ⟨hidden, hhidden, hkeeps⟩
      obtain ⟨ones, hones⟩ := exists_hiddenNames (isScalar_of_hiddenNames hhidden)
      obtain ⟨others, hothers⟩ := exists_hiddenNames (isScalar_of_hiddenNames hhidden)
      have hsplit := fun child hc hlist entries hentries entry he =>
        (keeps_iff_of_mem_iff (hmem hhidden hones hothers)).mp
          (hkeeps child hc hlist entries hentries entry he)
      exact ⟨⟨ones, hones, fun child hc hlist entries hentries entry he =>
          (hsplit child hc hlist entries hentries entry he).1⟩,
        others, hothers, fun child hc hlist entries hentries entry he =>
          (hsplit child hc hlist entries hentries entry he).2⟩
    · rintro ⟨⟨ones, hones, hkeeps⟩, others, hothers, hkeeps'⟩
      obtain ⟨hidden, hhidden⟩ := exists_hiddenNames (isScalar_of_hiddenNames hones)
      exact ⟨hidden, hhidden, fun child hc hlist entries hentries entry he =>
        (keeps_iff_of_mem_iff (hmem hhidden hones hothers)).mpr
          ⟨hkeeps child hc hlist entries hentries entry he,
            hkeeps' child hc hlist entries hentries entry he⟩⟩
  · simp only [opened, if_neg hkind, and_self]

/-- A walk changes nothing with the one registry exactly if it changes nothing with the two. -/
theorem walk_still_iff_of_unites (h : Unites all one other) : ∀ (n : Nat)
    {literal : Option String} {kind : Kind} {field : Field} {v : Json},
    walk all fragments n literal kind field v = .ok v ↔
      walk one fragments n literal kind field v = .ok v ∧
        walk other fragments n literal kind field v = .ok v := by
  intro n
  induction n with
  | zero => intro literal kind field v; exact iff_of_true rfl ⟨rfl, rfl⟩
  | succ n ih =>
    intro literal kind field v
    cases v with
    | arr items => simp only [walk_arr_still_iff, ih, imp_and, forall_and]
    | obj object =>
      have hvisit : ∀ child, visit (walk all fragments n none) kind object child = .ok object ↔
          visit (walk one fragments n none) kind object child = .ok object ∧
            visit (walk other fragments n none) kind object child = .ok object := by
        intro child
        rw [visit_still_iff, visit_still_iff, visit_still_iff, ← and_and_left]
        simp only [ih, imp_and, forall_and]
      have hvisited : visited all fragments n kind field object = .ok object ↔
          visited one fragments n kind field object = .ok object ∧
            visited other fragments n kind field object = .ok object := by
        simp only [visited_still_iff, hvisit, imp_and, forall_and]
      rw [walk_obj_still_iff, walk_obj_still_iff, walk_obj_still_iff, hvisited,
        opened_still_iff_of_unites h, and_and_and_comm]
    | _ => exact iff_of_true (walk_scalar trivial) ⟨walk_scalar trivial, walk_scalar trivial⟩

/-- **What is at rest with a registry of the records of two** is at rest with either of them, and
the other way round. -/
theorem atRest_iff_of_unites (h : Unites all one other) {document : Document}
    {operationName : Option String} {v : Json} :
    AtRest all document operationName v ↔
      AtRest one document operationName v ∧ AtRest other document operationName v := by
  by_cases hv : ∃ members, v = .obj members
  · obtain ⟨members, rfl⟩ := hv
    have hatRest : ∀ registry : Registry, AtRest registry document operationName (.obj members) ↔
        ∀ field ∈ rootSelection document operationName, ∀ kind value,
          rootKind? field = some kind → Table.get? members field.responseKey = some value →
          walk registry document.fragmentTable (Json.obj members).depth (literalTypeName? field)
            kind field value = .ok value := by
      intro registry
      rw [AtRest, redact_obj (Nat.le_refl _)]
      simp only [Json.obj.injEq, exists_eq_left']
      constructor
      · intro hrun field hf
        have hstep := still_of_foldlM TrimmedMembers.refl (fun _ _ _ => TrimmedMembers.trans)
          (fun _ _ => TrimmedMembers.antisymm) (fun _ _ _ _ _ => rootStep_trimmed) hrun field hf
        exact stepInto_still_iff.mp hstep
      · intro hall
        exact foldlM_still fun field hf => stepInto_still_iff.mpr (hall field hf)
    simp only [hatRest, walk_still_iff_of_unites h, imp_and, forall_and]
  · have hne : ∀ members, v ≠ .obj members := fun members hmembers => hv ⟨members, hmembers⟩
    simp only [AtRest, redact_of_not_obj_eq hne, and_self]

end Unites

/-! ### Redacting with no records -/

theorem eq_of_stepInto {lead : Field → Option Kind}
    {go : Field → Kind → Json → Except Failure Json} {child : Field} {object result : Table Json}
    (hgo : ∀ next v w, go child next v = .ok w → w = v)
    (h : stepInto lead go object child = .ok result) : result = object := by
  rcases stepInto_cases h with ⟨rfl, -⟩ | ⟨next, v, w, -, hv, hw, rfl⟩
  · rfl
  · rw [hgo next v w hw, insert_of_get? hv]

/-- Where nothing is private no name is hidden, whoever the owner is. -/
theorem eq_of_opened (hpublic : ∀ owner name, registry.isPrivate owner name = false)
    {literal : Option String} {kind : Kind} {field : Field} {object result : Table Json}
    (h : opened registry fragments literal kind field object = .ok result) : result = object := by
  by_cases hkind : kind = .type
  · subst hkind
    obtain ⟨hidden, hhidden, -⟩ : ∃ hidden, hiddenNames registry
        (Redaction.owner object (collect fragments field.selections) literal) = .ok hidden ∧ _ := by
      rwa [opened, if_pos rfl, descriptor, bind_eq_ok] at h
    have hnone : ∀ owner name, ¬ Conceals registry owner name := by
      intro owner name hconceals
      cases owner with
      | str text => exact Bool.false_ne_true ((hpublic text name).symm.trans hconceals)
      | null =>
        obtain ⟨text, -, hprivate⟩ := hconceals
        exact Bool.false_ne_true ((hpublic text name).symm.trans hprivate)
      | _ => exact hconceals
    have hempty : hidden = [] := List.eq_nil_iff_forall_not_mem.mpr fun name hname =>
      hnone _ name ((mem_hiddenNames hhidden name).mp hname)
    rw [opened_eq hhidden, if_pos (by simpa using hempty)] at h
    exact (Except.ok.inj h).symm
  · rw [opened, if_neg hkind] at h
    exact (Except.ok.inj h).symm

/-- Where nothing is private a walk that succeeds changes nothing. -/
theorem eq_of_walk (hpublic : ∀ owner name, registry.isPrivate owner name = false) :
    ∀ (n : Nat) {literal : Option String} {kind : Kind} {field : Field} {v w : Json},
    walk registry fragments n literal kind field v = .ok w → w = v := by
  intro n
  induction n with
  | zero => intro literal kind field v w h; exact (Except.ok.inj h).symm
  | succ n ih =>
    intro literal kind field v w h
    cases v with
    | arr items =>
      rw [walk_arr] at h
      obtain ⟨results, hresults, h⟩ := bind_eq_ok.mp h
      cases h
      have hsame : List.Forall₂ Eq items results :=
        (mapM_eq_ok_iff.mp hresults).imp fun _ _ hitem => (ih hitem).symm
      rw [List.forall₂_eq_eq_eq] at hsame
      rw [hsame]
    | obj object =>
      rw [walk_obj] at h
      obtain ⟨first, hfirst, h⟩ := bind_eq_ok.mp h
      obtain ⟨second, hsecond, h⟩ := bind_eq_ok.mp h
      cases h
      obtain rfl := eq_of_opened hpublic hfirst
      refine congrArg Json.obj (foldlM_keeps (P := fun s => s = first) ?_ rfl hsecond)
      rintro child - s r rfl hstep
      rw [visit_eq_stepInto _ (ne_leaf_of_visit hstep)] at hstep
      exact eq_of_stepInto (fun _ _ _ => ih) hstep
    | _ => cases h; rfl

/-- **Redacting with no records** changes nothing, if it succeeds. -/
theorem redact_of_public (hpublic : ∀ owner name, registry.isPrivate owner name = false)
    {document : Document} {operationName : Option String} {data result : Json}
    (h : redact registry document operationName data = .ok result) : result = data := by
  by_cases hdata : ∃ members, data = .obj members
  · obtain ⟨members, rfl⟩ := hdata
    obtain ⟨rest, rfl, hrest⟩ := (redact_obj (Nat.le_refl _)).mp h
    refine congrArg Json.obj (foldlM_keeps (P := fun s => s = members) ?_ rfl hrest)
    rintro field - s r rfl hstep
    exact eq_of_stepInto (fun _ _ _ => eq_of_walk hpublic _) hstep
  · exact redact_of_not_obj (fun members hmembers => hdata ⟨members, hmembers⟩) h

/-! ### Redacting with several registries -/

/-- **Redaction composes over registries.** Where the redactions succeed, redacting with the records
of the one list and then with those of the other is redacting with all of them at once, and the
order does not matter. Without records nothing changes.

More records only remove more. What they leave of data is what they leave of the data that some of
them have redacted, and that may only lose entries of its lists in this. -/
theorem redact_append (first second : List Record) (document : Document)
    (operationName : Option String) (data : Json) :
    (∀ a b c, redact (.ofRecords first) document operationName data = .ok a →
      redact (.ofRecords second) document operationName a = .ok b →
      redact (.ofRecords (first ++ second)) document operationName data = .ok c → b = c) ∧
    (∀ a b a' b', redact (.ofRecords first) document operationName data = .ok a →
      redact (.ofRecords second) document operationName a = .ok b →
      redact (.ofRecords second) document operationName data = .ok a' →
      redact (.ofRecords first) document operationName a' = .ok b' → b = b') ∧
    (∀ a, redact (.ofRecords []) document operationName data = .ok a → a = data) ∧
    ∀ a c, redact (.ofRecords first) document operationName data = .ok a →
      redact (.ofRecords (first ++ second)) document operationName data = .ok c →
        redact (.ofRecords (first ++ second)) document operationName a = .ok c ∧ Trimmed a c := by
  have hunites := unites_append first second
  -- what both registries have been over is at rest with both
  have hboth : ∀ {one other : List Record} {a b : Json},
      redact (.ofRecords one) document operationName data = .ok a →
      redact (.ofRecords other) document operationName a = .ok b →
      Trimmed data b ∧ AtRest (.ofRecords one) document operationName b ∧
        AtRest (.ofRecords other) document operationName b := by
    intro one other a b ha hb
    have hab : Trimmed a b := redact_trimmed hb
    exact ⟨(redact_trimmed ha).trans hab, redact_rests_of_trimmed ha hab, redact_rests hb⟩
  -- and nothing that is at rest with both is greater
  have hgreatest : ∀ {one other : List Record} {a b v : Json},
      redact (.ofRecords one) document operationName data = .ok a →
      redact (.ofRecords other) document operationName a = .ok b → Trimmed data v →
      AtRest (.ofRecords one) document operationName v →
      AtRest (.ofRecords other) document operationName v → Trimmed b v := by
    intro one other a b v ha hb hv hone hother
    obtain ⟨-, -, hleast⟩ := redact_greatest ha
    obtain ⟨-, -, hleast'⟩ := redact_greatest hb
    exact hleast' v (hleast v hv hone) hother
  refine ⟨fun a b c ha hb hc => ?_, fun a b a' b' ha hb ha' hb' => ?_, fun a ha => ?_,
    fun a c ha hc => ?_⟩
  · obtain ⟨hdb, hone, hother⟩ := hboth ha hb
    obtain ⟨hdc, hrest, hleast⟩ := redact_greatest hc
    obtain ⟨hone', hother'⟩ := (atRest_iff_of_unites hunites).mp hrest
    exact (hgreatest ha hb hdc hone' hother').antisymm
      (hleast b hdb ((atRest_iff_of_unites hunites).mpr ⟨hone, hother⟩))
  · obtain ⟨hdb, hone, hother⟩ := hboth ha hb
    obtain ⟨hdb', hother', hone'⟩ := hboth ha' hb'
    exact (hgreatest ha hb hdb' hone' hother').antisymm (hgreatest ha' hb' hdb hother hone)
  · refine redact_of_public (fun owner name => ?_) ha
    rw [← Bool.not_eq_true, Registry.isPrivate_iff]
    exact List.not_mem_nil
  · obtain ⟨hdc, hrest, hleast⟩ := redact_greatest hc
    obtain ⟨-, -, hleast'⟩ := redact_greatest ha
    have hac : Trimmed a c := hleast' c hdc ((atRest_iff_of_unites hunites).mp hrest).1
    -- the larger registry makes of `a` something between `c` and `c`
    obtain ⟨c', hc', hcc'⟩ := redact_follows (redact_trimmed ha) hc
    obtain ⟨-, -, hleast''⟩ := redact_greatest hc'
    obtain rfl := hcc'.antisymm (hleast'' c hac hrest)
    exact ⟨hc', hac⟩

/-- Two registries with one record each, and a result in which the owner is selected with the names
of its members, without them, and not at all. Each redaction removes something in each place, and
so does the second one after the first. -/
theorem redact_append_of_unnamed :
    ∃ (first second : List Record) (document : Document) (data a b a' b' c : Json),
      redact (.ofRecords first) document none data = .ok a ∧ a ≠ data ∧
      redact (.ofRecords second) document none a = .ok b ∧ b ≠ a ∧
      redact (.ofRecords second) document none data = .ok a' ∧ a' ≠ a ∧
      redact (.ofRecords first) document none a' = .ok b' ∧
      redact (.ofRecords (first ++ second)) document none data = .ok c ∧
      redact (.ofRecords []) document none data = .ok data ∧
      b = c ∧ b = b' ∧ redact (.ofRecords (first ++ second)) document none a = .ok c ∧
      Trimmed a c := by
  let first : List Record := [⟨"A", "secret"⟩]
  let second : List Record := [⟨"B", "open"⟩]
  let select (inside : String) : String := "\x7b " ++ inside ++ " \x7d "
  let query := select ("__schema" ++ select ("types" ++ select ("name fields" ++ select "name") ++
    "unnamed: types" ++ select ("name fields" ++ select "description") ++
    "unowned: types" ++ select ("fields" ++ select "name")))
  let named (fields : List String) : Json :=
    .arr (fields.map fun name => .obj [("name", .str name)])
  let unnamed (count : Nat) : Json := .arr (List.replicate count (.obj [("description", .null)]))
  let type (name : String) (fields : Json) : Json := .obj [("name", .str name), ("fields", fields)]
  let unowned (fields : List String) : Json := .obj [("fields", named fields)]
  let result (a b : List String) (m n : Nat) (u w : List String) : Json :=
    .obj [("__schema", .obj [("types", .arr [type "A" (named a), type "B" (named b)]),
      ("unnamed", .arr [type "A" (unnamed m), type "B" (unnamed n)]),
      ("unowned", .arr [unowned u, unowned w])])]
  let all := ["open", "secret"]
  obtain ⟨document, hdocument⟩ : ∃ document, document? query = some document :=
    Option.isSome_iff_exists.mp (by decide +kernel)
  have hof : ∀ {records : List Record} {data result : Json},
      (redactText (.ofRecords records) query none data).toOption = some result →
      redact (.ofRecords records) document none data = .ok result := by
    intro records data result h
    rw [toOption_eq_some, redactText, hdocument] at h
    exact h
  have ha : redact (.ofRecords first) document none (result all all 2 2 all all) =
      .ok (result ["open"] all 0 2 ["open"] ["open"]) := hof (by decide +kernel)
  have hb : redact (.ofRecords second) document none
      (result ["open"] all 0 2 ["open"] ["open"]) =
        .ok (result ["open"] ["secret"] 0 0 [] []) := hof (by decide +kernel)
  have ha' : redact (.ofRecords second) document none (result all all 2 2 all all) =
      .ok (result all ["secret"] 2 0 ["secret"] ["secret"]) := hof (by decide +kernel)
  have hb' : redact (.ofRecords first) document none
      (result all ["secret"] 2 0 ["secret"] ["secret"]) =
        .ok (result ["open"] ["secret"] 0 0 [] []) := hof (by decide +kernel)
  have hc : redact (.ofRecords (first ++ second)) document none (result all all 2 2 all all) =
      .ok (result ["open"] ["secret"] 0 0 [] []) := hof (by decide +kernel)
  have hnone : redact (.ofRecords []) document none (result all all 2 2 all all) =
      .ok (result all all 2 2 all all) := hof (by decide +kernel)
  obtain ⟨hcompose, hcommute, -, hmore⟩ :=
    redact_append first second document none (result all all 2 2 all all)
  exact ⟨first, second, document, _, _, _, _, _, _, ha, by decide +kernel, hb, by decide +kernel,
    ha', by decide +kernel, hb', hc, hnone, hcompose _ _ _ ha hb hc, hcommute _ _ _ _ ha hb ha' hb',
    hmore _ _ ha hc⟩

end SchemaVisibility.Introspection
