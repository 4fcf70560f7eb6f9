import SchemaVisibility.Proofs.Introspection.Agreement

/-! # The filter of member lists and agreement

What stays of a list of members depends on no private member in it: entries that agree stay both or
go both (`Agree.keeps`), and an entry that stands for a private member goes, named or not
(`Secret.keeps`). So a filtered list agrees where before private members were missing
(`Thinned.kept`), and an object whose lists are all filtered lacks none any more
(`filterAll_agree`).
-/

namespace SchemaVisibility.Introspection

open GraphQL Redaction Fallible Table

variable {registry : Registry} {fragments : Fragments}

/-! ### Filtering member lists -/

/-- Entries that agree stay both or go both. -/
theorem Agree.keeps {n : Nat} {literals : List String} {fields children : List Field}
    {kind : Kind} {v w : Json} (hidden : List String)
    (h : Agree registry fragments n literals fields kind v w)
    (hsub : ∀ child ∈ children, child ∈ childrenOf fragments fields) :
    ∃ stays, keeps hidden children v = .ok stays ∧ keeps hidden children w = .ok stays := by
  rcases h.cases with ⟨rfl, hs⟩ | ⟨m, as, bs, -, rfl, rfl, -⟩ |
    ⟨m, a, b, owner, -, rfl, rfl, hp, hmembers⟩
  · cases v with
    | obj members => exact hs.elim
    | _ => exact ⟨true, rfl, rfl⟩
  · exact ⟨true, rfl, rfl⟩
  · have heq : selected a children "name" = selected b children "name" :=
      selected_congr fun child hc hname => get?_name_eq hp hmembers (hsub child hc) hname
    have hname : selected b children "name" = .null ∨
        ∃ text, selected b children "name" = .str text := by
      rw [← heq]
      exact selected_of (P := fun v => v = .null ∨ ∃ text, v = .str text) (Or.inl rfl)
        fun child hc hname v hv => (name_of_get? hmembers (hsub child hc) hname hv).imp_right
          fun ⟨text, ht, _⟩ => ⟨text, ht⟩
    rw [Redaction.keeps, Redaction.keeps, heq]
    rcases hname with hnull | ⟨text, htext⟩
    · rw [hnull]; exact ⟨false, rfl, rfl⟩
    · rw [htext]; exact ⟨!hidden.contains text, rfl, rfl⟩

/-- An entry that stands for a private member goes, named or not. -/
theorem Secret.keeps {children selections : List Field} {owner : Option String}
    {hidden : List String} {v : Json} (h : Secret registry children owner v)
    (hsub : ∀ child ∈ selections, child ∈ children)
    (hhidden : ∀ type name, owner = some type → registry.isPrivate type name = true →
      name ∈ hidden) : keeps hidden selections v = .ok false := by
  cases v with
  | obj object =>
    obtain ⟨type, name, howner, hprivate, hnames⟩ := h
    have hname : selected object selections "name" = .null ∨
        selected object selections "name" = .str name :=
      selected_of (P := fun v => v = .null ∨ v = .str name) (Or.inl rfl)
        fun child hc hname v hv => hnames child (hsub child hc) hname v hv
    rw [Redaction.keeps]
    rcases hname with hnull | htext
    · rw [hnull]
    · rw [htext]
      simp [hhidden type name howner hprivate]
  | _ => exact h.elim

theorem keptEntries_cons {hidden : List String} {children : List Field} {entry : Json}
    {rest kept : List Json} {stays : Bool} (h : keeps hidden children entry = .ok stays)
    (hrest : keptEntries hidden children rest = .ok kept) :
    keptEntries hidden children (entry :: rest) =
      .ok (if stays then entry :: kept else kept) := by
  rw [keptEntries, h, ok_bind, hrest, ok_bind]
  rfl

/-- Lists that agree entry by entry keep entries that agree. -/
theorem keptEntries_agree {n : Nat} {literals : List String} {fields children : List Field}
    {kind : Kind} {as bs : List Json} (hidden : List String)
    (h : List.Forall₂ (Agree registry fragments n literals fields kind) as bs)
    (hsub : ∀ child ∈ children, child ∈ childrenOf fragments fields) :
    ∃ as' bs', keptEntries hidden children as = .ok as' ∧
      keptEntries hidden children bs = .ok bs' ∧
      List.Forall₂ (Agree registry fragments n literals fields kind) as' bs' := by
  induction h with
  | nil => exact ⟨[], [], rfl, rfl, .nil⟩
  | cons hab _ ih =>
    obtain ⟨as', bs', ha, hb, hrest⟩ := ih
    obtain ⟨stays, hv, hw⟩ := hab.keeps hidden hsub
    refine ⟨_, _, keptEntries_cons hv ha, keptEntries_cons hw hb, ?_⟩
    cases stays
    · exact hrest
    · exact .cons hab hrest

/-- What private members are left out of a list does not matter for what stays. -/
theorem keptEntries_drops {children selections : List Field} {owner : Option String}
    {hidden : List String} {more less : List Json}
    (h : Drops (Secret registry children owner) more less)
    (hsub : ∀ child ∈ selections, child ∈ children)
    (hhidden : ∀ type name, owner = some type → registry.isPrivate type name = true →
      name ∈ hidden) :
    keptEntries hidden selections more = keptEntries hidden selections less := by
  induction h with
  | nil => rfl
  | drop hsecret _ ih =>
    rw [keptEntries, hsecret.keeps hsub hhidden, ok_bind, ih]
    cases keptEntries hidden selections _ <;> rfl
  | keep _ ih => rw [keptEntries, keptEntries, ih]

theorem keptEntries_scalars {hidden : List String} {children : List Field} {items : List Json}
    (h : ∀ item ∈ items, IsScalar item) : keptEntries hidden children items = .ok items := by
  induction items with
  | nil => rfl
  | cons item rest ih =>
    have hitem : Redaction.keeps hidden children item = .ok true := by
      have := h item List.mem_cons_self
      cases item with
      | obj members => exact this.elim
      | _ => rfl
    rw [keptEntries_cons hitem (ih fun other ho => h other (List.mem_cons_of_mem _ ho)), if_pos rfl]

/-- What is left of two values by the filter of member lists: lists keep entries that agree, and
other values stay. -/
def KeptAgree (registry : Registry) (fragments : Fragments) (n : Nat) (hidden : List String)
    (selections fields : List Field) (kind : Kind) (v w : Json) : Prop :=
  (∃ as bs as' bs', v = .arr as ∧ w = .arr bs ∧ keptEntries hidden selections as = .ok as' ∧
    keptEntries hidden selections bs = .ok bs' ∧
    Agree registry fragments n [] fields kind (.arr as') (.arr bs')) ∨
  ((∀ as, v ≠ .arr as) ∧ (∀ bs, w ≠ .arr bs) ∧ Agree registry fragments n [] fields kind v w)

theorem Agree.kept {n : Nat} {selections fields : List Field} {kind : Kind} {v w : Json}
    (hidden : List String) (h : Agree registry fragments n [] fields kind v w)
    (hsub : ∀ child ∈ selections, child ∈ childrenOf fragments fields) :
    KeptAgree registry fragments n hidden selections fields kind v w := by
  rcases h.cases with ⟨rfl, hs⟩ | ⟨m, as, bs, rfl, rfl, rfl, ⟨rfl, hs⟩ | ⟨hkind, hitems⟩⟩ |
    ⟨m, a, b, owner, -, rfl, rfl, -, -⟩
  · refine Or.inr ⟨?_, ?_, h⟩ <;> (rintro as rfl; exact hs)
  · exact Or.inl ⟨as, as, as, as, rfl, rfl, keptEntries_scalars hs, keptEntries_scalars hs, h⟩
  · obtain ⟨as', bs', ha, hb, hkept⟩ := keptEntries_agree hidden hitems hsub
    exact Or.inl ⟨as, bs, as', bs', rfl, rfl, ha, hb, Or.inr ⟨hkind, hkept⟩⟩
  · exact Or.inr ⟨fun _ => Json.noConfusion, fun _ => Json.noConfusion, h⟩

/-- **After the filter nothing private is missing any more.** -/
theorem Thinned.kept {n : Nat} {hidden : List String} {selections fields : List Field}
    {kind : Kind} {owner : Option String} {v w : Json}
    (h : Thinned registry fragments owner (Agree registry fragments n []) fields kind v w)
    (hsub : ∀ child ∈ selections, child ∈ childrenOf fragments fields)
    (hhidden : ∀ type name, owner = some type → registry.isPrivate type name = true →
      name ∈ hidden) :
    KeptAgree registry fragments n hidden selections fields kind v w := by
  rcases h with h | ⟨more, less, rfl, hdrops, h⟩
  · exact h.kept hidden hsub
  · rcases h.kept hidden hsub with ⟨as, bs, as', bs', he, rfl, ha, hb, hkept⟩ |
      ⟨hne, -, -⟩
    · cases he
      rw [← keptEntries_drops hdrops hsub hhidden] at ha
      exact Or.inl ⟨more, bs, as', bs', rfl, rfl, ha, hb, hkept⟩
    · exact absurd rfl (hne less)

/-- Where nothing is private nothing is missing. -/
theorem Thinned.agree_of_public {n : Nat} {fields : List Field} {kind : Kind}
    {owner : Option String} {v w : Json}
    (h : Thinned registry fragments owner (Agree registry fragments n []) fields kind v w)
    (hpublic : ∀ type name, owner = some type → registry.isPrivate type name = false) :
    Agree registry fragments n [] fields kind v w := by
  rcases h with h | ⟨more, less, rfl, hdrops, h⟩
  · exact h
  · have heq : more = less := by
      clear h
      induction hdrops with
      | nil => rfl
      | @drop entry _ _ hsecret _ _ =>
        cases entry with
        | obj object =>
          obtain ⟨type, name, howner, hprivate, -⟩ := hsecret
          rw [hpublic type name howner] at hprivate
          cases hprivate
        | _ => exact hsecret.elim
      | keep _ ih => rw [ih]
    rw [heq]
    exact h

/-! ### Opening a descriptor -/

theorem next?_memberList {name : String} (h : name ∈ memberLists) :
    ∃ next, Kind.type.next? name = some next := by
  have hall : ∀ name ∈ memberLists, (Kind.type.next? name).isSome = true := by decide
  exact Option.isSome_iff_exists.mp (hall name h)

/-- What may be missing can be said otherwise for children for which it means the same. -/
theorem Criterion.Holds.thin_congr {owner : Option String} {kind : Kind}
    {thin thin' : Field → Prop} {R : List Field → Kind → Json → Json → Prop}
    {children : List Field} {key : String} {v w : Json}
    (h : ((memberCriterion registry fragments owner kind thin R).Holds children) key v w)
    (hthin : ∀ child ∈ under key children, kind = .type → child.name ∈ memberLists →
      (thin child ↔ thin' child)) :
    ((memberCriterion registry fragments owner kind thin' R).Holds children) key v w where
  same := h.same
  agrees child hc next hnext hnot := h.agrees child hc next hnext fun ⟨hkind, hlist, ht⟩ =>
    hnot ⟨hkind, hlist, (hthin child hc hkind hlist).mp ht⟩
  thinned child hc next hnext := fun ⟨hkind, hlist, ht⟩ =>
    h.thinned child hc next hnext ⟨hkind, hlist, (hthin child hc hkind hlist).mpr ht⟩
  named := h.named

section Filter

variable {n : Nat} {owner : Option String} {hidden : List String} {children : List Field}
  {thin T : Field → Prop} {a b : Table Json}

theorem Criterion.Holds.thinned_of_memberList {child : Field} {next : Kind} {v w : Json}
    (h : (memberCriterion registry fragments owner .type thin
      (Agree registry fragments n [])).Holds children child.responseKey v w)
    (hc : child ∈ children) (hnext : Kind.type.next? child.name = some next)
    (hlist : child.name ∈ memberLists) :
    Thinned registry fragments owner (Agree registry fragments n [])
      (under child.responseKey children) next v w := by
  have hself := mem_under.mpr ⟨hc, rfl⟩
  by_cases hthin : thin child
  · exact h.thinned child hself next hnext ⟨rfl, hlist, hthin⟩
  · exact Or.inl (h.agrees child hself next hnext fun ⟨_, _, ht⟩ => hthin ht)

theorem Criterion.Holds.of_agree (hcoherent : Coherent children) {child : Field} {next : Kind}
    {v w : Json} (hc : child ∈ children) (hnext : Kind.type.next? child.name = some next)
    (hlist : child.name ∈ memberLists)
    (h : Agree registry fragments n [] (under child.responseKey children) next v w) :
    (memberCriterion registry fragments owner .type thin
      (Agree registry fragments n [])).Holds children child.responseKey v w := by
  have hname : ∀ other ∈ under child.responseKey children, other.name = child.name :=
    fun other ho => hcoherent.name_eq hc ho
  refine ⟨fun hnone => ?_, fun other ho next' hnext' _ => ?_, fun other ho next' hnext' _ => ?_,
    fun other ho hother => ?_⟩
  · have := (hnext.symm.trans (hnone child (mem_under.mpr ⟨hc, rfl⟩)) : some next = none)
    cases this
  · have := (hname other ho ▸ hnext' : Kind.type.next? child.name = some next')
    rw [hnext, Option.some.injEq] at this
    exact this ▸ h
  · have := (hname other ho ▸ hnext' : Kind.type.next? child.name = some next')
    rw [hnext, Option.some.injEq] at this
    exact Or.inl (this ▸ h)
  · exact absurd (hother ▸ hname other ho ▸ hlist) name_not_memberList

theorem filterMembers_of_not_mem {object : Table Json} {child : Field}
    (h : child.name ∉ memberLists) : filterMembers fragments hidden object child = .ok object := by
  rw [filterMembers, if_neg h]
  rfl

theorem filterMembers_of_ne_arr {object : Table Json} {child : Field}
    (h : ∀ entries, object.get? child.responseKey ≠ some (.arr entries)) :
    filterMembers fragments hidden object child = .ok object := by
  rw [filterMembers]
  split
  · cases hv : object.get? child.responseKey with
    | none => rfl
    | some v =>
      cases v with
      | arr entries => exact absurd hv (h entries)
      | _ => rfl
  · rfl

theorem filterMembers_of_arr {object : Table Json} {child : Field} {entries kept : List Json}
    (hlist : child.name ∈ memberLists) (hv : object.get? child.responseKey = some (.arr entries))
    (hkept : keptEntries hidden (collect fragments child.selections) entries = .ok kept) :
    filterMembers fragments hidden object child =
      .ok (object.insert child.responseKey (.arr kept)) := by
  rw [filterMembers, if_pos hlist, hv]
  dsimp only
  rw [hkept]
  rfl

/-- The filter of one member list makes good what was missing there. -/
theorem filterMembers_agree (hcoherent : Coherent children) (hn : a.keys.Nodup)
    {child : Field} (hc : child ∈ children)
    (hsub : ∀ c ∈ collect fragments child.selections,
      c ∈ childrenOf fragments (under child.responseKey children))
    (hhidden : ∀ type name, owner = some type → registry.isPrivate type name = true →
      name ∈ hidden)
    (hthin : ∀ other ∈ children, other.responseKey ≠ child.responseKey →
      (thin other ↔ T other))
    (h : Aligned ((memberCriterion registry fragments owner .type thin
      (Agree registry fragments n [])).Holds children) a b) :
    ∃ a' b', filterMembers fragments hidden a child = .ok a' ∧
      filterMembers fragments hidden b child = .ok b' ∧ a'.keys = a.keys ∧
      Aligned ((memberCriterion registry fragments owner .type T
        (Agree registry fragments n [])).Holds children) a' b' := by
  have helse : ∀ key v w, key ≠ child.responseKey →
      (memberCriterion registry fragments owner .type thin
        (Agree registry fragments n [])).Holds children key v w →
      (memberCriterion registry fragments owner .type T
        (Agree registry fragments n [])).Holds children key v w := by
    intro key v w hkey hold
    refine hold.thin_congr fun other ho _ _ => ?_
    obtain ⟨hmem, rfl⟩ := mem_under.mp ho
    exact hthin other hmem hkey
  by_cases hlist : child.name ∈ memberLists
  · obtain ⟨next, hnext⟩ := next?_memberList hlist
    rcases h.get?_cases child.responseKey with ⟨hv, hw⟩ | ⟨v, w, hv, hw, hold⟩
    · refine ⟨a, b, filterMembers_of_ne_arr (by simp [hv]), filterMembers_of_ne_arr (by simp [hw]),
        rfl, h.imp fun key x y hm => helse key x y ?_⟩
      rintro rfl
      rw [get?_of_mem hn hm] at hv
      cases hv
    · rcases (hold.thinned_of_memberList hc hnext hlist).kept hsub hhidden with
        ⟨as, bs, as', bs', rfl, rfl, ha, hb, hkept⟩ | ⟨hvne, hwne, -⟩
      · exact ⟨_, _, filterMembers_of_arr hlist hv ha, filterMembers_of_arr hlist hw hb,
          keys_insert_of_get? hv,
          h.insert hn hv (.of_agree hcoherent hc hnext hlist hkept) helse⟩
      · refine ⟨a, b, filterMembers_of_ne_arr (by simp [hv, hvne]),
          filterMembers_of_ne_arr (by simp [hw, hwne]), rfl, h.imp fun key x y hm hold' => ?_⟩
        by_cases hkey : key = child.responseKey
        · subst hkey
          rw [get?_of_mem hn hm, Option.some.injEq] at hv
          subst hv
          rcases (hold'.thinned_of_memberList hc hnext hlist).kept hsub hhidden with
            ⟨as, _, _, _, rfl, _⟩ | ⟨-, -, hxy⟩
          · exact absurd rfl (hvne as)
          · exact .of_agree hcoherent hc hnext hlist hxy
        · exact helse key x y hkey hold'
  · refine ⟨a, b, filterMembers_of_not_mem hlist, filterMembers_of_not_mem hlist, rfl,
      h.imp fun key x y _ hold => hold.thin_congr fun other ho _ hother => ?_⟩
    obtain ⟨hmem, rfl⟩ := mem_under.mp ho
    by_cases hkey : other.responseKey = child.responseKey
    · exact absurd (hcoherent other hmem child hc hkey ▸ hother) hlist
    · exact hthin other hmem hkey

/-- **The filters of all member lists** make good what was missing under the keys of the children
that they belong to. -/
theorem filterAll_agree {own : List Field}
    (hcoherent : Coherent children) (hn : a.keys.Nodup) (hown : ∀ c ∈ own, c ∈ children)
    (hsub : ∀ c ∈ own, ∀ d ∈ collect fragments c.selections,
      d ∈ childrenOf fragments (under c.responseKey children))
    (hhidden : ∀ type name, owner = some type → registry.isPrivate type name = true →
      name ∈ hidden)
    (h : Aligned ((memberCriterion registry fragments owner .type (fun _ => True)
      (Agree registry fragments n [])).Holds children) a b) :
    ∃ a' b', own.foldlM (filterMembers fragments hidden) a = .ok a' ∧
      own.foldlM (filterMembers fragments hidden) b = .ok b' ∧ a'.keys = a.keys ∧
      Aligned ((memberCriterion registry fragments owner .type
        (fun c => c.responseKey ∉ own.map Field.responseKey)
        (Agree registry fragments n [])).Holds children) a' b' := by
  -- with some children still to come, of their keys only those may lack private members
  obtain ⟨a', b', ha, hb, -, hkeys, hold⟩ := foldlM_related
    (R := fun rest s t => (∀ c ∈ rest, c ∈ own) ∧ s.keys = a.keys ∧
      Aligned ((memberCriterion registry fragments owner .type
        (fun c => c.responseKey ∈ own.map Field.responseKey →
          c.responseKey ∈ rest.map Field.responseKey)
        (Agree registry fragments n [])).Holds children) s t)
    (f := filterMembers fragments hidden) (g := filterMembers fragments hidden)
    (fun c rest s t hrelated => by
      obtain ⟨hrest, hkeys, hold⟩ := hrelated
      have hc : c ∈ own := hrest c List.mem_cons_self
      obtain ⟨s', t', hs, ht, hk, hold'⟩ := filterMembers_agree hcoherent (hkeys ▸ hn) (hown c hc)
        (hsub c hc) hhidden
        (T := fun c => c.responseKey ∈ own.map Field.responseKey →
          c.responseKey ∈ rest.map Field.responseKey)
        (fun other _ hne => by
          rw [List.map_cons, List.mem_cons]
          simp [hne]) hold
      exact ⟨s', t', hs, ht, fun d hd => hrest d (List.mem_cons_of_mem c hd), hk.trans hkeys,
        hold'⟩)
    (l := own) (s := a) (t := b)
    ⟨fun _ hc => hc, rfl, h.imp fun key v w _ hold => hold.thin_congr fun c _ _ _ => by simp⟩
  refine ⟨a', b', ha, hb, hkeys, hold.imp fun key v w _ hold => hold.thin_congr ?_⟩
  intro c _ _ _
  simp

end Filter

end SchemaVisibility.Introspection
