import SchemaVisibility.Proofs.Marking.Listing
import SchemaVisibility.Proofs.Marking.Resolution

/-! # What marking changes

A call of coordinates sets the flag of each declaration that it reaches and changes nothing else
(`Schema.Flags`, `Schema.mark_flags`). Setting a flag twice is setting it once, so several calls
come to the flags of all declarations that they reach, in whatever order and however often
(`Catalog.markAll_flags`).

What a coordinate resolves to is listed among the declarations of the schema, and in one place only
(`Schema.exists_declaredAt`, `Schema.DeclaredAt.unique`). So a scan after the calls lists the old
records and, each in its place, those of the declarations that the coordinates name
(`Catalog.scan_after_marks`). A coordinate that names nothing ends its call there.
-/

namespace SchemaVisibility

open GraphQL

/-! ### Flags -/

namespace Schema

variable {schema : Schema} {shared : Extensions}

/-- **What setting the flags of some declarations leaves**: the flag is set in their extension data,
and neither other data nor anything else of the schema is changed, nor what other schemas share of
types that are not standard. -/
structure Flags (schema : Schema) (shared : Extensions) (targets : List Coordinate)
    (after : Schema × Extensions) : Prop where
  frame : ∃ extensions, after.1 = { schema with extensions }
  data : ∀ c, after.1.extensionData after.2 c =
    if c ∈ targets then (schema.extensionData shared c).insert "is_private" (.bool true)
    else schema.extensionData shared c
  own : ∀ c, schema.isShared c.typeName = false → after.2.data c = shared.data c

namespace Flags

variable {targets targets' : List Coordinate} {after after' : Schema × Extensions}

theorem refl : schema.Flags shared [] (schema, shared) :=
  ⟨⟨schema.extensions, rfl⟩, fun _ => rfl, fun _ _ => rfl⟩

/-- Flags upon flags are all of them. -/
theorem trans (h : schema.Flags shared targets after) (h' : after.1.Flags after.2 targets' after') :
    schema.Flags shared (targets ++ targets') after' := by
  obtain ⟨extensions, hframe⟩ := h.frame
  obtain ⟨extensions', hframe'⟩ := h'.frame
  refine ⟨⟨extensions', by rw [hframe', hframe]⟩, fun c => ?_, fun c hown => ?_⟩
  · rw [h'.data, h.data]
    by_cases hfirst : c ∈ targets
    · by_cases hsecond : c ∈ targets'
      · simp [hfirst, hsecond, Table.insert_insert]
      · simp [hfirst, hsecond]
    · by_cases hsecond : c ∈ targets'
      · simp [hfirst, hsecond]
      · simp [hfirst, hsecond]
  · have hkept : after.1.isShared c.typeName = false := by
      rw [hframe]
      exact hown
    rw [h'.own c hkept, h.own c hown]

/-- What is marked afterwards. -/
theorem isPrivate_eq (h : schema.Flags shared targets after) (declaration : Declaration) :
    after.1.isPrivate after.2 declaration =
      (schema.isPrivate shared declaration || decide (declaration.coordinate ∈ targets)) := by
  rw [isPrivate, isPrivate, h.data]
  by_cases hmem : declaration.coordinate ∈ targets
  · have hset := Marking.flagged_withFlag (schema.extensionData shared declaration.coordinate)
    rw [Marking.withFlag] at hset
    rw [if_pos hmem, hset, decide_eq_true hmem, Bool.true_or, Bool.or_true]
  · rw [if_neg hmem, decide_eq_false hmem, Bool.or_false]

/-- **A scan after setting flags** lists, of the declarations, those that were marked and those
whose flag was set. -/
theorem scan_eq (h : schema.Flags shared targets after) {records : List Record}
    (hscan : schema.scan shared = .ok records) :
    after.1.scan after.2 = .ok ((schema.listing.filter fun item =>
      schema.isPrivate shared item.2 || decide (item.2.coordinate ∈ targets)).map
        fun item => item.2.record) := by
  obtain ⟨extensions, hframe⟩ := h.frame
  have hlisting : after.1.listing = schema.listing := by
    rw [hframe]
    rfl
  have hknown : ∀ entry ∈ schema.entries, isUnknown entry = false := not_isUnknown_of_scan hscan
  have hkept : ∀ entry ∈ after.1.entries, isUnknown entry = false := by
    rw [hframe]
    exact hknown
  have hmarked : (schema.listing.filter fun item => after.1.isPrivate after.2 item.2) =
      schema.listing.filter fun item =>
        schema.isPrivate shared item.2 || decide (item.2.coordinate ∈ targets) :=
    List.filter_congr fun item _ => h.isPrivate_eq item.2
  rw [scan_eq_listing hkept, recordsIn, hlisting, hmarked]

end Flags

/-- Putting the flag into the data of one declaration sets its flag. -/
theorem assign_flags (schema : Schema) (shared : Extensions) (c : Coordinate) :
    schema.Flags shared [c]
      (schema.assign shared c (Marking.withFlag (schema.extensionData shared c))) := by
  rw [assign]
  by_cases hshared : schema.isShared c.typeName = true
  · rw [if_pos hshared]
    refine ⟨⟨schema.extensions, rfl⟩, fun d => ?_, fun d hown => ?_⟩
    · simp only [extensionData, Extensions.data_assign, List.mem_singleton]
      by_cases hd : c = d
      · subst hd
        simp only [hshared, if_true, Marking.withFlag]
      · rw [if_neg hd, if_neg (Ne.symm hd)]
    · have hd : c ≠ d := by
        rintro rfl
        rw [hshared] at hown
        cases hown
      rw [Extensions.data_assign, if_neg hd]
  · rw [if_neg hshared]
    refine ⟨⟨_, rfl⟩, fun d => ?_, fun d _ => rfl⟩
    have hkept : ∀ extensions type,
        ({ schema with extensions } : Schema).isShared type = schema.isShared type :=
      fun _ _ => rfl
    simp only [extensionData, hkept, Extensions.data_assign, List.mem_singleton]
    by_cases hd : c = d
    · subst hd
      simp only [if_neg hshared, if_true, Marking.withFlag]
    · rw [if_neg hd, if_neg (Ne.symm hd)]

/-- A coordinate that names a declaration has its flag set before the call goes on. -/
theorem mark_cons {text : String} {declaration : Declaration}
    (h : schema.resolve text = .ok declaration) (rest : List String) :
    schema.mark shared (text :: rest) =
      let state := schema.assign shared declaration.coordinate
        (Marking.withFlag (schema.extensionData shared declaration.coordinate))
      state.1.mark state.2 rest := by
  rw [mark, markOne, h]
  rfl

/-- **A call sets the flags of the declarations that it reaches**, up to the first coordinate that
names none. -/
theorem mark_flags (texts : List String) :
    schema.Flags shared ((schema.flaggedBy texts).map Declaration.coordinate)
      (schema.mark shared texts).1 := by
  induction texts generalizing schema shared with
  | nil => exact .refl
  | cons text rest ih =>
    rw [flaggedBy]
    cases h : schema.resolve text with
    | error error =>
      rw [mark_of_resolve_error h]
      exact .refl
    | ok declaration =>
      have hone := assign_flags schema shared declaration.coordinate
      obtain ⟨extensions, hframe⟩ := hone.frame
      have hrest := hone.trans ih
      rw [hframe, flaggedBy_with_extensions, ← hframe] at hrest
      rw [mark_cons h]
      exact hrest

/-! ### One place for each declaration -/

/-- Among items of their own names a name stands in one place. -/
theorem getElem?_unique {α : Type} {name : α → String} {items : List α} {i j : Nat} {a b : α}
    (h : (items.map name).Nodup) (ha : items[i]? = some a) (hb : items[j]? = some b)
    (hname : name a = name b) : i = j ∧ a = b := by
  have hi : i < (items.map name).length := by
    rw [List.length_map]
    exact (List.getElem?_eq_some_iff.mp ha).1
  have hsame : (items.map name)[i]? = (items.map name)[j]? := by
    rw [List.getElem?_map, List.getElem?_map, ha, hb, Option.map_some, Option.map_some, hname]
  obtain rfl := (List.getElem?_inj hi h).mp hsame
  exact ⟨rfl, Option.some.inj (ha.symm.trans hb)⟩

theorem ShowsAt.unique {i j : Nat} {type type' : TypeDefinition} (hdistinct : schema.Distinct)
    (h : schema.ShowsAt i type) (h' : schema.ShowsAt j type') (hname : type.name = type'.name) :
    i = j ∧ type = type' := by
  obtain ⟨rfl, -⟩ := getElem?_unique hdistinct.entries h.entry h'.entry hname
  have hdefined := h'.defined
  rw [← hname, h.defined] at hdefined
  exact ⟨rfl, Option.some.inj hdefined⟩

/-- What is declared is a type, a member of one, or an argument of one of its fields. -/
theorem DeclaredAt.cases {rank : Rank} {declaration : Declaration}
    (h : schema.DeclaredAt rank declaration) : ∃ i type, schema.ShowsAt i type ∧
      (rank = [i] ∧ declaration = .ofType type ∨
        (∃ j member, type.ownMembers[j]? = some member ∧ rank = [i, j] ∧
          declaration = .ofMember type.name member.1 member.2) ∨
        ∃ j k fields field argument, type.fields? = some fields ∧ fields[j]? = some field ∧
          field.arguments[k]? = some argument ∧ rank = [i, j, k] ∧
          declaration = .ofArgument type.name field.name argument) := by
  cases h with
  | @type i type hshown => exact ⟨i, type, hshown, Or.inl ⟨rfl, rfl⟩⟩
  | @value i j type values value hshown hcontent hvalue =>
    refine ⟨i, type, hshown, Or.inr (Or.inl ⟨j, (value.name, value.directives), ?_, rfl, rfl⟩)⟩
    rw [TypeDefinition.ownMembers, hcontent, List.getElem?_map, hvalue]
    rfl
  | @inputField i j type fields field hshown hcontent hfield =>
    refine ⟨i, type, hshown, Or.inr (Or.inl ⟨j, (field.name, field.directives), ?_, rfl, rfl⟩)⟩
    rw [TypeDefinition.ownMembers, hcontent, List.getElem?_map, hfield]
    rfl
  | @field i j type fields field hshown hfields hfield =>
    refine ⟨i, type, hshown, Or.inr (Or.inl ⟨j, (field.name, field.directives), ?_, rfl, rfl⟩)⟩
    rw [TypeDefinition.ownMembers_of_fields? hfields, List.getElem?_map, hfield]
    rfl
  | @argument i j k type fields field argument hshown hfields hfield hargument =>
    exact ⟨i, type, hshown, Or.inr (Or.inr ⟨j, k, fields, field, argument, hfields, hfield,
      hargument, rfl, rfl⟩)⟩

/-- **A coordinate is declared in one place.** -/
theorem DeclaredAt.unique {rank rank' : Rank} {declaration declaration' : Declaration}
    (hdistinct : schema.Distinct) (h : schema.DeclaredAt rank declaration)
    (h' : schema.DeclaredAt rank' declaration')
    (hsame : declaration.coordinate = declaration'.coordinate) :
    rank = rank' ∧ declaration = declaration' := by
  obtain ⟨i, type, hshown, hwhat⟩ := h.cases
  obtain ⟨i', type', hshown', hwhat'⟩ := h'.cases
  have hname : type.name = type'.name := by
    have htypes := congrArg Coordinate.typeName hsame
    rcases hwhat with ⟨-, rfl⟩ | ⟨_, _, -, -, rfl⟩ | ⟨_, _, _, _, _, -, -, -, -, rfl⟩ <;>
      rcases hwhat' with ⟨-, rfl⟩ | ⟨_, _, -, -, rfl⟩ | ⟨_, _, _, _, _, -, -, -, -, rfl⟩ <;>
      exact htypes
  obtain ⟨rfl, rfl⟩ := hshown.unique hdistinct hshown' hname
  have hmembers := hdistinct.members _ type hshown.defined
  -- coordinates of different kinds differ, so both declarations are of one kind
  rcases hwhat with ⟨rfl, rfl⟩ | ⟨j, member, hmember, rfl, rfl⟩ |
      ⟨j, k, fields, field, argument, hfields, hfield, hargument, rfl, rfl⟩
  · rcases hwhat' with ⟨rfl, rfl⟩ | ⟨_, _, -, -, rfl⟩ | ⟨_, _, _, _, _, -, -, -, -, rfl⟩
    · exact ⟨rfl, rfl⟩
    · cases hsame
    · cases hsame
  · rcases hwhat' with ⟨-, rfl⟩ | ⟨j', member', hmember', rfl, rfl⟩ |
      ⟨_, _, _, _, _, -, -, -, -, rfl⟩
    · cases hsame
    · have hmember_eq : member.1 = member'.1 := by
        injection hsame
      rw [← TypeDefinition.map_fst_ownMembers] at hmembers
      obtain ⟨rfl, rfl⟩ := getElem?_unique hmembers hmember hmember' hmember_eq
      exact ⟨rfl, rfl⟩
    · cases hsame
  · rcases hwhat' with ⟨-, rfl⟩ | ⟨_, _, -, -, rfl⟩ |
      ⟨j', k', fields', field', argument', hfields', hfield', hargument', rfl, rfl⟩
    · cases hsame
    · cases hsame
    · obtain rfl : fields = fields' := Option.some.inj (hfields.symm.trans hfields')
      have hnames : field.name = field'.name ∧ argument.name = argument'.name := by
        injection hsame with _ hfield_eq hargument_eq
        exact ⟨hfield_eq, hargument_eq⟩
      rw [TypeDefinition.memberNames_of_fields? hfields] at hmembers
      obtain ⟨rfl, rfl⟩ := getElem?_unique hmembers hfield hfield' hnames.1
      have hmem : field ∈ type.fields?.getD [] := by
        rw [hfields]
        exact List.mem_of_getElem? hfield
      have harguments := hdistinct.arguments _ type hshown.defined field hmem
      obtain ⟨rfl, rfl⟩ := getElem?_unique harguments hargument hargument' hnames.2
      exact ⟨rfl, rfl⟩

/-- **What a coordinate resolves to is declared somewhere**, unless its type is passed over. -/
theorem exists_declaredAt (hknown : ∀ entry ∈ schema.entries, isUnknown entry = false)
    {text : String} {declaration : Declaration} (h : schema.resolve text = .ok declaration)
    (hname : isReserved declaration.coordinate.typeName = false) :
    ∃ rank, schema.DeclaredAt rank declaration := by
  have hshows : ∀ {type : TypeDefinition}, schema.named? type.name = some type →
      isReserved type.name = false → ∃ i, schema.ShowsAt i type := by
    intro type hnamed hunreserved
    obtain ⟨hentry, hdefined⟩ := named?_eq_some_iff.mp hnamed
    obtain ⟨i, hi⟩ := List.getElem?_of_mem (Table.mem_of_get? hentry)
    exact ⟨i, hi, hunreserved, hdefined⟩
  obtain ⟨literal, hdenotes⟩ : ∃ literal, schema.Denotes literal declaration := by
    rcases exists_denotes h with hdenotes | ⟨name, -, -, hdenotes⟩
    · exact ⟨text, hdenotes⟩
    · exact ⟨name, hdenotes⟩
  cases hdenotes with
  | type hnamed =>
    obtain ⟨i, hshown⟩ := hshows hnamed hname
    exact ⟨[i], .type hshown⟩
  | unknownKind hentry =>
    have hfails := hknown _ (Table.mem_of_get? hentry)
    rw [isUnknown, show isReserved literal = false from hname] at hfails
    simp at hfails
  | value hnamed hcontent hmem =>
    obtain ⟨i, hshown⟩ := hshows hnamed hname
    obtain ⟨j, hj⟩ := List.getElem?_of_mem hmem
    exact ⟨[i, j], .value hshown hcontent hj⟩
  | inputField hnamed hcontent hmem =>
    obtain ⟨i, hshown⟩ := hshows hnamed hname
    obtain ⟨j, hj⟩ := List.getElem?_of_mem hmem
    exact ⟨[i, j], .inputField hshown hcontent hj⟩
  | field hnamed hfields hmem =>
    obtain ⟨i, hshown⟩ := hshows hnamed hname
    obtain ⟨j, hj⟩ := List.getElem?_of_mem hmem
    exact ⟨[i, j], .field hshown hfields hj⟩
  | argument hnamed hfields hmem hargument =>
    obtain ⟨i, hshown⟩ := hshows hnamed hname
    obtain ⟨j, hj⟩ := List.getElem?_of_mem hmem
    obtain ⟨k, hk⟩ := List.getElem?_of_mem hargument
    exact ⟨[i, j, k], .argument hshown hfields hj hk⟩

/-! ### Calls whose coordinates resolve -/

/-- A text names a declaration of the schema. -/
def Resolves (schema : Schema) (text : String) : Prop :=
  ∃ declaration, schema.resolve text = .ok declaration

/-- A call whose coordinates all resolve reaches the declarations of all of them. -/
theorem mem_flaggedBy_iff {texts : List String} (h : ∀ text ∈ texts, schema.Resolves text)
    (c : Coordinate) :
    c ∈ (schema.flaggedBy texts).map Declaration.coordinate ↔ ∃ text ∈ texts, ∃ declaration,
      schema.resolve text = .ok declaration ∧ declaration.coordinate = c := by
  induction texts with
  | nil => simp [flaggedBy]
  | cons text rest ih =>
    obtain ⟨⟨declaration, hresolve⟩, hrest⟩ := List.forall_mem_cons.mp h
    have hone : schema.flaggedBy (text :: rest) = declaration :: schema.flaggedBy rest := by
      rw [flaggedBy, hresolve]
    rw [hone, List.map_cons, List.mem_cons, ih hrest, List.exists_mem_cons_iff, hresolve]
    refine or_congr_left ?_
    simp [eq_comm]

/-- What calls reach whose coordinates all resolve. -/
theorem mem_flatMap_flaggedBy_iff {calls : List (List String)}
    (h : ∀ text ∈ calls.flatten, schema.Resolves text) (c : Coordinate) :
    c ∈ calls.flatMap (fun texts => (schema.flaggedBy texts).map Declaration.coordinate) ↔
      ∃ text ∈ calls.flatten, ∃ declaration,
        schema.resolve text = .ok declaration ∧ declaration.coordinate = c := by
  have hcall : ∀ texts ∈ calls, ∀ text ∈ texts, schema.Resolves text :=
    fun texts htexts text htext => h text (List.mem_flatten.mpr ⟨texts, htexts, htext⟩)
  rw [List.mem_flatMap]
  constructor
  · rintro ⟨texts, htexts, hc⟩
    obtain ⟨text, htext, hresolved⟩ := (mem_flaggedBy_iff (hcall texts htexts) c).mp hc
    exact ⟨text, List.mem_flatten.mpr ⟨texts, htexts, htext⟩, hresolved⟩
  · rintro ⟨text, htext, hresolved⟩
    obtain ⟨texts, htexts, htext⟩ := List.mem_flatten.mp htext
    exact ⟨texts, htexts, (mem_flaggedBy_iff (hcall texts htexts) c).mpr ⟨text, htext, hresolved⟩⟩

/-- A call goes on behind coordinates that resolve as if they had been a call of their own. -/
theorem mark_append (shared : Extensions) {texts : List String}
    (h : ∀ text ∈ texts, schema.Resolves text) (rest : List String) :
    (schema.mark shared texts).2 = none ∧ schema.mark shared (texts ++ rest) =
      (schema.mark shared texts).1.1.mark (schema.mark shared texts).1.2 rest := by
  induction texts generalizing schema shared with
  | nil => exact ⟨rfl, rfl⟩
  | cons text others ih =>
    obtain ⟨⟨declaration, hresolve⟩, hothers⟩ := List.forall_mem_cons.mp h
    obtain ⟨extensions, hframe⟩ := (assign_flags schema shared declaration.coordinate).frame
    rw [List.cons_append, mark_cons hresolve, mark_cons hresolve]
    refine ih _ fun other hother => ?_
    rw [hframe]
    exact hothers other hother

/-- **A list of the declarations of a schema**: in their order, all of them, each once. -/
structure Lists (schema : Schema) (listed : List (Rank × Declaration)) : Prop where
  ordered : listed.Pairwise fun a b => a.1 < b.1
  mem_iff : ∀ rank declaration,
    (rank, declaration) ∈ listed ↔ schema.DeclaredAt rank declaration
  once : ∀ a ∈ listed, ∀ b ∈ listed, a.2.coordinate = b.2.coordinate → a = b

theorem lists_listing (h : schema.Distinct) : schema.Lists schema.listing := by
  refine ⟨schema.pairwise_listing, fun _ _ => mem_listing, ?_⟩
  rintro ⟨rank, declaration⟩ ha ⟨rank', declaration'⟩ hb hsame
  obtain ⟨rfl, rfl⟩ := (mem_listing.mp ha).unique h (mem_listing.mp hb) hsame
  rfl

end Schema

/-! ### Several calls -/

namespace Catalog

theorem mark_schema_flags (catalog : Catalog) (key : String) (texts : List String) :
    (catalog.schema key).Flags catalog.shared
      (((catalog.schema key).flaggedBy texts).map Declaration.coordinate)
      ((catalog.mark key texts).1.schema key, (catalog.mark key texts).1.shared) := by
  rw [schema_mark, if_pos rfl]
  exact Schema.mark_flags texts

/-- **Calls set the flags of all declarations that they reach**, each up to its first coordinate
that names none. -/
theorem markAll_flags (catalog : Catalog) (key : String) (calls : List (List String)) :
    (catalog.schema key).Flags catalog.shared
      (calls.flatMap fun texts => ((catalog.schema key).flaggedBy texts).map Declaration.coordinate)
      ((catalog.markAll key calls).schema key, (catalog.markAll key calls).shared) := by
  induction calls generalizing catalog with
  | nil => exact .refl
  | cons texts rest ih =>
    have hone := catalog.mark_schema_flags key texts
    obtain ⟨extensions, hframe⟩ := hone.frame
    have hrest := hone.trans (ih (catalog.mark key texts).1)
    dsimp only at hframe hrest
    simp only [hframe, Schema.flaggedBy_with_extensions] at hrest
    exact hrest

/-- Calls change nothing about which texts name a declaration. -/
theorem resolve_markAll (catalog : Catalog) (key : String) (calls : List (List String))
    (text : String) :
    ((catalog.markAll key calls).schema key).resolve text = (catalog.schema key).resolve text := by
  obtain ⟨extensions, hframe⟩ := (catalog.markAll_flags key calls).frame
  dsimp only at hframe
  rw [hframe]
  rfl

/-- Whether schemas are valid is not judged anew. -/
theorem verdicts_markAll {catalog : Catalog} {key : String} (calls : List (List String)) :
    (catalog.markAll key calls).verdicts = catalog.verdicts := by
  induction calls generalizing catalog with
  | nil => rfl
  | cons texts rest ih => exact ih

/-- A coordinate that names nothing ends its call there, and what the coordinates before it name
stays flagged. -/
theorem mark_append_error {catalog : Catalog} {key : String} {texts : List String}
    (h : ∀ text ∈ texts, (catalog.schema key).Resolves text) {bad : String}
    {error : CoordinateError} (hbad : (catalog.schema key).resolve bad = .error error)
    (rest : List String) :
    catalog.mark key (texts ++ bad :: rest) = ((catalog.mark key texts).1, some error) := by
  obtain ⟨-, happend⟩ := Schema.mark_append catalog.shared h (bad :: rest)
  obtain ⟨extensions, hframe⟩ := (catalog.schema key).mark_eq catalog.shared texts
  have hfails : ((catalog.schema key).mark catalog.shared texts).1.1.resolve bad =
      .error error := by
    rw [hframe]
    exact hbad
  rw [Schema.mark_of_resolve_error hfails] at happend
  simp only [mark, happend]

section Scans

variable {catalog : Catalog} {key : String} {records : List Record}

/-- A scan lists the marked among the declarations. -/
theorem records_eq (hscan : catalog.scan key = .ok records) :
    records = (catalog.schema key).recordsIn catalog.shared (catalog.schema key).listing :=
  Except.ok.inj (hscan.symm.trans (Schema.scan_eq_listing (Schema.not_isUnknown_of_scan hscan)))

/-- After calls whose coordinates resolve, a scan depends on which texts were given, not on how. -/
theorem scan_markAll_congr (hscan : catalog.scan key = .ok records)
    {calls calls' : List (List String)}
    (hcalls : ∀ text ∈ calls.flatten, (catalog.schema key).Resolves text)
    (hsame : ∀ text, text ∈ calls.flatten ↔ text ∈ calls'.flatten) :
    (catalog.markAll key calls).scan key = (catalog.markAll key calls').scan key := by
  have hcalls' : ∀ text ∈ calls'.flatten, (catalog.schema key).Resolves text :=
    fun text htext => hcalls text ((hsame text).mpr htext)
  have hafter : (catalog.markAll key calls).scan key = _ :=
    (catalog.markAll_flags key calls).scan_eq hscan
  have hafter' : (catalog.markAll key calls').scan key = _ :=
    (catalog.markAll_flags key calls').scan_eq hscan
  rw [hafter, hafter']
  refine congrArg Except.ok (congrArg _ (List.filter_congr fun item _ => ?_))
  refine congrArg _ (decide_eq_decide.mpr ?_)
  rw [Schema.mem_flatMap_flaggedBy_iff hcalls, Schema.mem_flatMap_flaggedBy_iff hcalls']
  exact exists_congr fun text => and_congr_left fun _ => hsame text

/-- A coordinate of a declaration that is marked already changes no record. -/
theorem scan_mark_of_isPrivate (hdistinct : (catalog.schema key).Distinct)
    (hscan : catalog.scan key = .ok records) {text : String} {declaration : Declaration}
    (hresolve : (catalog.schema key).resolve text = .ok declaration)
    (hprivate : (catalog.schema key).isPrivate catalog.shared declaration = true) :
    (catalog.mark key [text]).1.scan key = .ok records := by
  have hmarked : ∀ item ∈ (catalog.schema key).listing,
      item.2.coordinate = declaration.coordinate →
        (catalog.schema key).isPrivate catalog.shared item.2 = true := by
    rintro ⟨rank, other⟩ hitem hcoordinate
    have hdeclared := Schema.mem_listing.mp hitem
    have hname : Schema.isReserved declaration.coordinate.typeName = false := by
      rw [← hcoordinate]
      exact hdeclared.unreserved
    obtain ⟨rank', hdeclared'⟩ :=
      Schema.exists_declaredAt (Schema.not_isUnknown_of_scan hscan) hresolve hname
    obtain ⟨-, rfl⟩ := hdeclared.unique hdistinct hdeclared' hcoordinate
    exact hprivate
  have hflagged : (catalog.schema key).flaggedBy [text] = [declaration] := by
    rw [Schema.flaggedBy, hresolve]
    rfl
  have hafter := (catalog.mark_schema_flags key [text]).scan_eq hscan
  rw [hflagged, List.map_singleton] at hafter
  rw [records_eq hscan]
  refine Eq.trans hafter (congrArg Except.ok (congrArg _ (List.filter_congr fun item hitem => ?_)))
  rw [Bool.or_eq_left_iff_imp, decide_eq_true_iff, List.mem_singleton]
  exact hmarked item hitem

end Scans

/-- **What marking does to the scan.** Of a schema whose scan succeeds there is a list of all
declarations in their order, among them all that coordinates name but those of types that a scan
passes over, and the records are those of the marked ones. After calls whose coordinates all name
declarations, none of which fails, exactly the flags of these declarations are set besides, nothing
else has changed, and the records are those of all that was marked or is named. Hence neither the
order of the coordinates nor their repetition nor their distribution over calls matters, and a
coordinate of a marked declaration changes no record. A coordinate that names nothing ends its call,
which leaves what the coordinates before it leave. -/
theorem scan_after_marks {catalog : Catalog} {key : String}
    (hdistinct : (catalog.schema key).Distinct) {records : List Record}
    (hscan : catalog.scan key = .ok records) :
    let schema := catalog.schema key
    ∃ listed : List (Rank × Declaration), schema.Lists listed ∧
      (∀ text declaration, schema.resolve text = .ok declaration →
        Schema.isReserved declaration.coordinate.typeName = false →
          ∃ rank, (rank, declaration) ∈ listed) ∧
      records = (listed.filter fun item => schema.isPrivate catalog.shared item.2).map
        (fun item => item.2.record) ∧
      (∀ calls : List (List String), (∀ text ∈ calls.flatten, schema.Resolves text) →
        let after := catalog.markAll key calls
        ∃ targets : List Coordinate,
          (∀ c, c ∈ targets ↔ ∃ text ∈ calls.flatten, ∃ declaration,
            schema.resolve text = .ok declaration ∧ declaration.coordinate = c) ∧
          schema.Flags catalog.shared targets (after.schema key, after.shared) ∧
          (∀ other, key ≠ other → after.schema other = catalog.schema other) ∧
          after.verdicts = catalog.verdicts ∧
          (∀ before texts rest, calls = before ++ texts :: rest →
            ((catalog.markAll key before).mark key texts).2 = none) ∧
          after.scan key = .ok ((listed.filter fun item =>
            schema.isPrivate catalog.shared item.2 || decide (item.2.coordinate ∈ targets)).map
              fun item => item.2.record)) ∧
      (∀ calls calls' : List (List String), (∀ text ∈ calls.flatten, schema.Resolves text) →
        (∀ text, text ∈ calls.flatten ↔ text ∈ calls'.flatten) →
          (catalog.markAll key calls).scan key = (catalog.markAll key calls').scan key) ∧
      (∀ text declaration, schema.resolve text = .ok declaration →
        schema.isPrivate catalog.shared declaration = true →
          (catalog.mark key [text]).1.scan key = .ok records) ∧
      ∀ before bad rest error, (∀ text ∈ before, schema.Resolves text) →
        schema.resolve bad = .error error →
          catalog.mark key (before ++ bad :: rest) = ((catalog.mark key before).1, some error) := by
  intro schema
  refine ⟨schema.listing, Schema.lists_listing hdistinct, fun text declaration hresolve hname => ?_,
    records_eq hscan, fun calls hcalls => ?_, fun calls calls' => scan_markAll_congr hscan,
    fun text declaration => scan_mark_of_isPrivate hdistinct hscan,
    fun before bad rest error hbefore hbad => mark_append_error hbefore hbad rest⟩
  · obtain ⟨rank, hdeclared⟩ :=
      Schema.exists_declaredAt (Schema.not_isUnknown_of_scan hscan) hresolve hname
    exact ⟨rank, Schema.mem_listing.mpr hdeclared⟩
  · refine ⟨_, Schema.mem_flatMap_flaggedBy_iff hcalls, catalog.markAll_flags key calls,
      fun other hne => schema_markAll hne calls, verdicts_markAll calls,
      fun before texts rest hsplit => ?_, (catalog.markAll_flags key calls).scan_eq hscan⟩
    -- each call meets the schema that the calls before it leave, in which the same texts resolve
    have hresolves : ∀ text ∈ texts, ((catalog.markAll key before).schema key).Resolves text := by
      intro text htext
      have hcall : texts ∈ calls := by
        rw [hsplit]
        exact List.mem_append_right _ List.mem_cons_self
      obtain ⟨declaration, hresolve⟩ := hcalls text (List.mem_flatten.mpr ⟨texts, hcall, htext⟩)
      exact ⟨declaration, (catalog.resolve_markAll key before text).trans hresolve⟩
    exact (Schema.mark_append _ hresolves []).1

/-- The schema with marks of all forms was built, and flagged then. -/
theorem isBuilt_marked : (markedAndUnknown.schema "marked").IsBuilt := by
  have hsome : (Schema.ofDocument markedTypes).toOption.isSome = true := by decide +kernel
  obtain ⟨base, hbase⟩ := Option.isSome_iff_exists.mp hsome
  refine ⟨markedTypes, base, Fallible.toOption_eq_some.mp hbase, ?_⟩
  simp [markedAndUnknown, Catalog.schema, Table.get?, hbase]

/-- Two calls mark an interface, twice, and a value of an enumeration in a schema in which something
is marked already; another call marks what is marked, and another ends early. -/
theorem scan_after_marks_of_calls :
    let schema := markedAndUnknown.schema "marked"
    let old : List Record :=
      [⟨"__root__", "Query"⟩, ⟨"node", "kind"⟩, ⟨"Node", "id"⟩, ⟨"id", "of"⟩, ⟨"Kind", "A"⟩]
    schema.Distinct ∧ markedAndUnknown.scan "marked" = .ok old ∧
      (markedAndUnknown.markAll "marked" [["Node"], ["Kind.B", "Node"]]).scan "marked" =
        .ok [⟨"__root__", "Query"⟩, ⟨"node", "kind"⟩, ⟨"__root__", "Node"⟩, ⟨"Node", "id"⟩,
          ⟨"id", "of"⟩, ⟨"Kind", "A"⟩, ⟨"Kind", "B"⟩] ∧
      (markedAndUnknown.mark "marked" ["Query"]).1.scan "marked" = .ok old ∧
      ∃ error, markedAndUnknown.mark "marked" ["Node", "Node.of", "Kind.B"] =
        ((markedAndUnknown.mark "marked" ["Node"]).1, some error) := by
  intro schema old
  have hdistinct : schema.Distinct := isBuilt_marked.distinct
  have hscan : markedAndUnknown.scan "marked" = .ok old := by
    have hfound : (markedAndUnknown.scan "marked").toOption = some old := by decide +kernel
    exact Fallible.toOption_eq_some.mp hfound
  have hresolves : ∀ text ∈ ["Node", "Kind.B"], schema.Resolves text := by
    have hsome : ∀ text ∈ ["Node", "Kind.B"], (schema.resolve text).toOption.isSome = true := by
      decide +kernel
    intro text htext
    obtain ⟨declaration, hresolve⟩ := Option.isSome_iff_exists.mp (hsome text htext)
    exact ⟨declaration, Fallible.toOption_eq_some.mp hresolve⟩
  obtain ⟨_, -, -, -, -, hsame, hagain, hends⟩ := scan_after_marks hdistinct hscan
  refine ⟨hdistinct, hscan, ?_, ?_, ?_⟩
  · have honce : ((markedAndUnknown.markAll "marked" [["Node", "Kind.B"]]).scan "marked").toOption =
        some [⟨"__root__", "Query"⟩, ⟨"node", "kind"⟩, ⟨"__root__", "Node"⟩, ⟨"Node", "id"⟩,
          ⟨"id", "of"⟩, ⟨"Kind", "A"⟩, ⟨"Kind", "B"⟩] := by
      decide +kernel
    rw [← Fallible.toOption_eq_some.mp honce]
    refine (hsame _ _ (by simpa using hresolves) fun text => ?_).symm
    simp only [List.flatten_cons, List.flatten_nil, List.mem_append, List.mem_cons,
      List.not_mem_nil, or_false]
    tauto
  · have hmarked : ((schema.resolve "Query").toOption.map
        (schema.isPrivate markedAndUnknown.shared)) = some true := by
      decide +kernel
    obtain ⟨declaration, hresolve, hprivate⟩ := Option.map_eq_some_iff.mp hmarked
    exact hagain "Query" declaration (Fallible.toOption_eq_some.mp hresolve) hprivate
  · have hfails : (schema.resolve "Node.of").toOption = none := by decide +kernel
    obtain ⟨error, hbad⟩ := Fallible.toOption_eq_none.mp hfails
    refine ⟨error, hends ["Node"] "Node.of" ["Kind.B"] error (fun text htext => ?_) hbad⟩
    exact hresolves text (List.mem_append_left ["Kind.B"] htext)

end Catalog

end SchemaVisibility
