import Mathlib.Data.List.Pairwise
import SchemaVisibility.Marking.Scanner
import SchemaVisibility.Proofs.Marking.Exactness

/-! # The declarations of a schema in order

Every declaration that a scan may record has a rank: the number of its type in the type map, of the
member in the type, and of the argument in the field, as far as it goes. `DeclaredAt` says of each
of the sites what is declared there, and `Schema.listing` lists everything that is declared in the
order of the ranks (`Schema.mem_listing`, `Schema.pairwise_listing`).

A scan without failure is that list, cut down to what is marked (`scan_eq_listing`). It fails over
the first type of unknown kind (`scan_eq_error`). A scanner, which registers declaration by
declaration, comes to the same (`Scanner.scan_eq`), and so does everything it is asked later on.
-/

namespace SchemaVisibility

open GraphQL

/-- Where something is declared: the number of its type in the type map, after it perhaps the number
of a member, and after that perhaps the number of an argument. The order is lexicographic, so what
holds others comes before them. -/
abbrev Rank := List Nat

/-! ### Numbered pieces -/

section Numbered

variable {α : Type}

/-- The items of pieces, each rank headed by the number of the piece. -/
def numbered (pieces : List (List (Rank × α))) : List (Rank × α) :=
  pieces.zipIdx.flatMap fun piece => piece.1.map fun item => (piece.2 :: item.1, item.2)

theorem mem_numbered {pieces : List (List (Rank × α))} {rank : Rank} {a : α} :
    (rank, a) ∈ numbered pieces ↔
      ∃ i piece rest, pieces[i]? = some piece ∧ (rest, a) ∈ piece ∧ rank = i :: rest := by
  simp only [numbered, List.mem_flatMap, List.mem_map, Prod.exists, Prod.mk.injEq,
    List.mem_zipIdx_iff_getElem?]
  constructor
  · rintro ⟨piece, i, hpiece, rest, _, hitem, rfl, rfl⟩
    exact ⟨i, piece, rest, hpiece, hitem, rfl⟩
  · rintro ⟨i, piece, rest, hpiece, hitem, rfl⟩
    exact ⟨piece, i, hpiece, rest, a, hitem, rfl, rfl⟩

theorem map_snd_numbered (pieces : List (List (Rank × α))) :
    (numbered pieces).map Prod.snd = pieces.flatMap fun piece => piece.map Prod.snd := by
  conv_rhs => rw [← List.zipIdx_map_fst 0 pieces, List.flatMap_map]
  simp only [numbered, List.map_flatMap, List.map_map]
  rfl

/-- Items in order within each piece are in order altogether. -/
theorem pairwise_numbered {pieces : List (List (Rank × α))}
    (h : ∀ piece ∈ pieces, piece.Pairwise fun a b => a.1 < b.1) :
    (numbered pieces).Pairwise fun a b => a.1 < b.1 := by
  rw [numbered, List.pairwise_flatMap]
  constructor
  · rintro ⟨piece, i⟩ hpiece
    rw [List.pairwise_map]
    refine (h piece (List.mem_of_getElem? (List.mem_zipIdx_iff_getElem?.mp hpiece))).imp ?_
    exact fun hlt => List.cons_lt_cons_iff.mpr (Or.inr ⟨rfl, hlt⟩)
  · have hnumbers : (pieces.zipIdx.map Prod.snd).Pairwise (· < ·) := by
      rw [List.zipIdx_map_snd]
      exact List.pairwise_lt_range'
    refine (List.pairwise_map.mp hnumbers).imp fun hlt x hx y hy => ?_
    obtain ⟨a, -, rfl⟩ := List.mem_map.mp hx
    obtain ⟨b, -, rfl⟩ := List.mem_map.mp hy
    exact List.cons_lt_cons_iff.mpr (Or.inl hlt)

/-- What is put in front of numbered pieces without a rank of its own comes first. -/
theorem pairwise_cons_numbered {pieces : List (List (Rank × α))} (a : α)
    (h : ∀ piece ∈ pieces, piece.Pairwise fun a b => a.1 < b.1) :
    (([], a) :: numbered pieces).Pairwise fun a b => a.1 < b.1 := by
  refine List.pairwise_cons.mpr ⟨fun ⟨rank, b⟩ hb => ?_, pairwise_numbered h⟩
  obtain ⟨i, -, rest, -, -, rfl⟩ := mem_numbered.mp hb
  exact List.nil_lt_cons i rest

end Numbered

/-! ### What is declared where -/

/-- A type stands at a number of the type map of a schema and is not passed over by a scan. -/
structure Schema.ShowsAt (schema : Schema) (i : Nat) (type : TypeDefinition) : Prop where
  entry : schema.entries[i]? = some (type.name, .known)
  unreserved : Schema.isReserved type.name = false
  defined : schema.definition? type.name = some type

/-- **The declarations of a schema**: what stands at which rank, with the record of it and with the
directives that are written on it. Types of all kinds are recorded under the owner of whole types,
members under their type, and arguments under their field. -/
inductive Schema.DeclaredAt (schema : Schema) : Rank → Declaration → Prop
  | type {i : Nat} {type : TypeDefinition} : schema.ShowsAt i type →
      DeclaredAt schema [i] ⟨.type type.name, ⟨"__root__", type.name⟩, type.directives⟩
  | value {i j : Nat} {type : TypeDefinition} {values : List EnumValueDefinition}
      {value : EnumValueDefinition} : schema.ShowsAt i type → type.content = .enum values →
      values[j]? = some value →
      DeclaredAt schema [i, j]
        ⟨.member type.name value.name, ⟨type.name, value.name⟩, value.directives⟩
  | inputField {i j : Nat} {type : TypeDefinition} {fields : List InputDefinition}
      {field : InputDefinition} : schema.ShowsAt i type → type.content = .input fields →
      fields[j]? = some field →
      DeclaredAt schema [i, j]
        ⟨.member type.name field.name, ⟨type.name, field.name⟩, field.directives⟩
  | field {i j : Nat} {type : TypeDefinition} {fields : List FieldDefinition}
      {field : FieldDefinition} : schema.ShowsAt i type → type.fields? = some fields →
      fields[j]? = some field →
      DeclaredAt schema [i, j]
        ⟨.member type.name field.name, ⟨type.name, field.name⟩, field.directives⟩
  | argument {i j k : Nat} {type : TypeDefinition} {fields : List FieldDefinition}
      {field : FieldDefinition} {argument : InputDefinition} : schema.ShowsAt i type →
      type.fields? = some fields → fields[j]? = some field →
      field.arguments[k]? = some argument →
      DeclaredAt schema [i, j, k]
        ⟨.argument type.name field.name argument.name, ⟨field.name, argument.name⟩,
          argument.directives⟩

namespace GraphQL.TypeDefinition

variable {type : TypeDefinition} {rank : Rank} {declaration : Declaration}

/-- A field and its arguments, ranked within the field. -/
def listingOfField (type : String) (field : FieldDefinition) : List (Rank × Declaration) :=
  ([], .ofMember type field.name field.directives) ::
    numbered (field.arguments.map fun argument => [([], .ofArgument type field.name argument)])

/-- The members of a type and what they hold, member by member, ranked within the member. -/
def memberListings (type : TypeDefinition) : List (List (Rank × Declaration)) :=
  match type.content with
  | .scalar | .union _ => []
  | .object _ fields | .interface _ fields => fields.map (listingOfField type.name)
  | .enum values => values.map fun value =>
    [([], .ofMember type.name value.name value.directives)]
  | .input fields => fields.map fun field =>
    [([], .ofMember type.name field.name field.directives)]

/-- The declarations of a type, ranked within the type. -/
def listing (type : TypeDefinition) : List (Rank × Declaration) :=
  ([], .ofType type) :: numbered type.memberListings

theorem map_snd_listingOfField (name : String) (field : FieldDefinition) :
    (listingOfField name field).map Prod.snd = Declaration.ofField name field := by
  rw [listingOfField, List.map_cons, map_snd_numbered, List.flatMap_map, Declaration.ofField]
  exact congrArg _ (List.map_eq_flatMap ..).symm

/-- The listing of a type holds its declarations in their order. -/
theorem map_snd_listing (type : TypeDefinition) :
    type.listing.map Prod.snd = type.declarations := by
  obtain ⟨name, directives, content⟩ := type
  rw [listing, List.map_cons, map_snd_numbered, declarations]
  refine congrArg _ ?_
  cases content with
  | scalar | union => rfl
  | object _ fields | interface _ fields =>
    simp only [memberListings, List.flatMap_map, map_snd_listingOfField]
  | enum members | input members =>
    simp only [memberListings, List.flatMap_map]
    exact (List.map_eq_flatMap ..).symm

theorem pairwise_listingOfField (name : String) (field : FieldDefinition) :
    (listingOfField name field).Pairwise fun a b => a.1 < b.1 := by
  refine pairwise_cons_numbered _ fun piece hpiece => ?_
  obtain ⟨argument, -, rfl⟩ := List.mem_map.mp hpiece
  exact List.pairwise_singleton _ _

theorem pairwise_listing (type : TypeDefinition) :
    type.listing.Pairwise fun a b => a.1 < b.1 := by
  obtain ⟨name, directives, content⟩ := type
  refine pairwise_cons_numbered _ fun piece hpiece => ?_
  cases content with
  | scalar | union => cases hpiece
  | object _ fields | interface _ fields =>
    obtain ⟨field, -, rfl⟩ := List.mem_map.mp hpiece
    exact pairwise_listingOfField name field
  | enum members | input members =>
    obtain ⟨member, -, rfl⟩ := List.mem_map.mp hpiece
    exact List.pairwise_singleton _ _

theorem mem_listingOfField {name : String} {field : FieldDefinition} :
    (rank, declaration) ∈ listingOfField name field ↔
      rank = [] ∧ declaration = .ofMember name field.name field.directives ∨
        ∃ k argument, field.arguments[k]? = some argument ∧ rank = [k] ∧
          declaration = .ofArgument name field.name argument := by
  simp only [listingOfField, List.mem_cons, Prod.mk.injEq, mem_numbered, List.getElem?_map,
    Option.map_eq_some_iff]
  refine or_congr_right ?_
  constructor
  · rintro ⟨k, _, _, ⟨argument, hargument, rfl⟩, hmem, rfl⟩
    obtain ⟨rfl, rfl⟩ := Prod.mk.inj (List.mem_singleton.mp hmem)
    exact ⟨k, argument, hargument, rfl, rfl⟩
  · rintro ⟨k, argument, hargument, rfl, rfl⟩
    exact ⟨k, _, [], ⟨argument, hargument, rfl⟩, List.mem_singleton_self _, rfl⟩

theorem mem_listing : (rank, declaration) ∈ type.listing ↔
    rank = [] ∧ declaration = .ofType type ∨
      ∃ j piece rest, type.memberListings[j]? = some piece ∧ (rest, declaration) ∈ piece ∧
        rank = j :: rest := by
  rw [listing, List.mem_cons, Prod.mk.injEq, mem_numbered]

/-- What stands in the listing of a member stands in that of the type. -/
theorem mem_listing_of_member {j : Nat} {piece : List (Rank × Declaration)}
    (hpiece : type.memberListings[j]? = some piece) (h : (rank, declaration) ∈ piece) :
    (j :: rank, declaration) ∈ type.listing :=
  mem_listing.mpr (Or.inr ⟨j, piece, rank, hpiece, h, rfl⟩)

theorem memberListings_of_fields? {fields : List FieldDefinition} (h : type.fields? = some fields) :
    type.memberListings = fields.map (listingOfField type.name) := by
  obtain ⟨_, hcontent | hcontent⟩ := content_of_fields? h <;> rw [memberListings, hcontent]

theorem memberListings_getElem? {j : Nat} {fields : List FieldDefinition} {field : FieldDefinition}
    (hfields : type.fields? = some fields) (hfield : fields[j]? = some field) :
    type.memberListings[j]? = some (listingOfField type.name field) := by
  rw [memberListings_of_fields? hfields, List.getElem?_map, hfield]
  rfl

end GraphQL.TypeDefinition

namespace Schema

variable {schema : Schema} {shared : Extensions} {rank : Rank} {declaration : Declaration}

/-- What is declared in a type stands in the listing of the type. -/
theorem DeclaredAt.exists_mem_listing (h : schema.DeclaredAt rank declaration) :
    ∃ i type rest, schema.ShowsAt i type ∧ (rest, declaration) ∈ type.listing ∧
      rank = i :: rest := by
  cases h with
  | @type i type hshown =>
    exact ⟨i, type, [], hshown, TypeDefinition.mem_listing.mpr (Or.inl ⟨rfl, rfl⟩), rfl⟩
  | @value i j type values value hshown hcontent hvalue =>
    have hpiece : type.memberListings[j]? =
        some [([], .ofMember type.name value.name value.directives)] := by
      rw [TypeDefinition.memberListings, hcontent, List.getElem?_map, hvalue]
      rfl
    exact ⟨i, type, [j], hshown,
      TypeDefinition.mem_listing_of_member hpiece (List.mem_singleton_self _), rfl⟩
  | @inputField i j type fields field hshown hcontent hfield =>
    have hpiece : type.memberListings[j]? =
        some [([], .ofMember type.name field.name field.directives)] := by
      rw [TypeDefinition.memberListings, hcontent, List.getElem?_map, hfield]
      rfl
    exact ⟨i, type, [j], hshown,
      TypeDefinition.mem_listing_of_member hpiece (List.mem_singleton_self _), rfl⟩
  | @field i j type fields field hshown hfields hfield =>
    refine ⟨i, type, [j], hshown, TypeDefinition.mem_listing_of_member
      (TypeDefinition.memberListings_getElem? hfields hfield) ?_, rfl⟩
    exact TypeDefinition.mem_listingOfField.mpr (Or.inl ⟨rfl, rfl⟩)
  | @argument i j k type fields field argument hshown hfields hfield hargument =>
    refine ⟨i, type, [j, k], hshown, TypeDefinition.mem_listing_of_member
      (TypeDefinition.memberListings_getElem? hfields hfield) ?_, rfl⟩
    exact TypeDefinition.mem_listingOfField.mpr (Or.inr ⟨k, argument, hargument, rfl, rfl⟩)

theorem DeclaredAt.unreserved {rank : Rank} {declaration : Declaration}
    (h : schema.DeclaredAt rank declaration) :
    isReserved declaration.coordinate.typeName = false := by
  cases h with
  | type hshown => exact hshown.unreserved
  | value hshown => exact hshown.unreserved
  | inputField hshown => exact hshown.unreserved
  | field hshown => exact hshown.unreserved
  | argument hshown => exact hshown.unreserved

/-- What stands in the listing of a field is declared. -/
theorem declaredAt_of_mem_listingOfField {i j : Nat} {type : TypeDefinition}
    {fields : List FieldDefinition} {field : FieldDefinition} (hshown : schema.ShowsAt i type)
    (hfields : type.fields? = some fields) (hfield : fields[j]? = some field)
    (h : (rank, declaration) ∈ TypeDefinition.listingOfField type.name field) :
    schema.DeclaredAt (i :: j :: rank) declaration := by
  rcases TypeDefinition.mem_listingOfField.mp h with
    ⟨rfl, rfl⟩ | ⟨k, argument, hargument, rfl, rfl⟩
  · exact .field hshown hfields hfield
  · exact .argument hshown hfields hfield hargument

/-- What stands in the listing of a type is declared. -/
theorem declaredAt_of_mem_listing {i : Nat} {type : TypeDefinition} (hshown : schema.ShowsAt i type)
    (h : (rank, declaration) ∈ type.listing) : schema.DeclaredAt (i :: rank) declaration := by
  rcases TypeDefinition.mem_listing.mp h with ⟨rfl, rfl⟩ | ⟨j, piece, rest, hpiece, hmem, rfl⟩
  · exact .type hshown
  · cases hcontent : type.content with
    | scalar | union =>
      rw [TypeDefinition.memberListings, hcontent] at hpiece
      cases hpiece
    | object _ fields | interface _ fields =>
      have hfields : type.fields? = some fields := by rw [TypeDefinition.fields?, hcontent]
      rw [TypeDefinition.memberListings_of_fields? hfields, List.getElem?_map,
        Option.map_eq_some_iff] at hpiece
      obtain ⟨field, hfield, rfl⟩ := hpiece
      exact declaredAt_of_mem_listingOfField hshown hfields hfield hmem
    | enum values =>
      simp only [TypeDefinition.memberListings, hcontent, List.getElem?_map,
        Option.map_eq_some_iff] at hpiece
      obtain ⟨value, hvalue, rfl⟩ := hpiece
      obtain ⟨rfl, rfl⟩ := Prod.mk.inj (List.mem_singleton.mp hmem)
      exact .value hshown hcontent hvalue
    | input fields =>
      simp only [TypeDefinition.memberListings, hcontent, List.getElem?_map,
        Option.map_eq_some_iff] at hpiece
      obtain ⟨field, hfield, rfl⟩ := hpiece
      obtain ⟨rfl, rfl⟩ := Prod.mk.inj (List.mem_singleton.mp hmem)
      exact .inputField hshown hcontent hfield

/-- The declarations behind an entry of the type map, none if a scan passes it over. -/
def listingOfEntry (schema : Schema) : String × Entry → List (Rank × Declaration)
  | (name, .known) =>
    if isReserved name then []
    else ((schema.definition? name).map TypeDefinition.listing).getD []
  | (_, .unknownKind) => []

/-- All declarations of a schema that a scan may record, in its order. -/
def listing (schema : Schema) : List (Rank × Declaration) :=
  numbered (schema.entries.map schema.listingOfEntry)

theorem mem_listingOfEntry {entry : String × Entry} :
    (rank, declaration) ∈ schema.listingOfEntry entry ↔
      ∃ type, entry = (type.name, .known) ∧ isReserved type.name = false ∧
        schema.definition? type.name = some type ∧ (rank, declaration) ∈ type.listing := by
  obtain ⟨name, kind⟩ := entry
  cases kind with
  | unknownKind => simp [listingOfEntry]
  | known =>
    rw [listingOfEntry]
    constructor
    · intro h
      split at h
      · cases h
      · next hname =>
        cases hdefined : schema.definition? name with
        | none =>
          rw [hdefined] at h
          cases h
        | some type =>
          rw [hdefined] at h
          obtain rfl := name_of_definition? hdefined
          exact ⟨type, rfl, Bool.eq_false_iff.mpr hname, hdefined, h⟩
    · rintro ⟨type, heq, hname, hdefined, h⟩
      obtain ⟨rfl, -⟩ := Prod.mk.inj heq
      rw [hname, hdefined]
      exact h

/-- **The listing of a schema holds exactly what is declared**, each declaration with its rank. -/
theorem mem_listing :
    (rank, declaration) ∈ schema.listing ↔ schema.DeclaredAt rank declaration := by
  rw [listing, mem_numbered]
  constructor
  · rintro ⟨i, piece, rest, hpiece, hmem, rfl⟩
    rw [List.getElem?_map, Option.map_eq_some_iff] at hpiece
    obtain ⟨entry, hentry, rfl⟩ := hpiece
    obtain ⟨type, rfl, hname, hdefined, hmem⟩ := mem_listingOfEntry.mp hmem
    exact declaredAt_of_mem_listing ⟨hentry, hname, hdefined⟩ hmem
  · intro h
    obtain ⟨i, type, rest, hshown, hmem, rfl⟩ := h.exists_mem_listing
    refine ⟨i, schema.listingOfEntry (type.name, .known), rest, ?_, ?_, rfl⟩
    · rw [List.getElem?_map, hshown.entry]
      rfl
    · exact mem_listingOfEntry.mpr ⟨type, rfl, hshown.unreserved, hshown.defined, hmem⟩

/-- **The listing of a schema is in the order of the ranks.** -/
theorem pairwise_listing (schema : Schema) :
    schema.listing.Pairwise fun a b => a.1 < b.1 := by
  refine pairwise_numbered fun piece hpiece => ?_
  obtain ⟨⟨name, kind⟩, -, rfl⟩ := List.mem_map.mp hpiece
  cases kind with
  | unknownKind => exact List.Pairwise.nil
  | known =>
    rw [listingOfEntry]
    split
    · exact List.Pairwise.nil
    · cases schema.definition? name with
      | none => exact List.Pairwise.nil
      | some type => exact type.pairwise_listing

/-! ### What is marked -/

/-- **A declaration is marked** if one of its two flags is set in its extension data or it carries
the directive. -/
def Marked (schema : Schema) (shared : Extensions) (declaration : Declaration) : Prop :=
  (∃ key ∈ ["is_private", "isPrivate"], ∃ value,
      (schema.extensionData shared declaration.coordinate).get? key = some value ∧
        value.truthy = true) ∨
    ∃ directive ∈ declaration.directives, directive.name = "private"

theorem directed_iff {directives : List Directive} :
    Marking.directed directives = true ↔
      ∃ directive ∈ directives, directive.name = "private" := by
  rw [Marking.directed, List.any_eq_true]
  refine exists_congr fun directive => and_congr_right fun _ => ?_
  exact decide_eq_true_iff

theorem flagged_iff {data : Table Json} :
    Marking.flagged data = true ↔ ∃ key ∈ ["is_private", "isPrivate"], ∃ value,
      data.get? key = some value ∧ value.truthy = true := by
  rw [Marking.flagged, List.any_eq_true]
  refine exists_congr fun key => and_congr_right fun _ => ?_
  cases data.get? key with
  | none => simp [Json.truthy]
  | some value => simp

theorem isPrivate_iff_marked :
    schema.isPrivate shared declaration = true ↔ schema.Marked shared declaration := by
  rw [isPrivate, Bool.or_eq_true, flagged_iff, directed_iff, Marked]

/-- An extension hands on all its directives but `@oneOf`. -/
theorem directed_filter_oneOf (directives : List Directive) :
    Marking.directed (directives.filter fun directive => directive.name ≠ "oneOf") =
      Marking.directed directives := by
  rw [Marking.directed, List.any_filter]
  refine congrArg directives.any (funext fun directive => ?_)
  by_cases h : directive.name = "oneOf"
  · simp [h, Marking.directiveName]
  · simp [h]

/-- An extended type carries the directive if the type or one of its extensions does. -/
theorem directed_extended (extensions : List TypeDefinition) (type : TypeDefinition) :
    Marking.directed (extended extensions type).directives = true ↔
      Marking.directed type.directives = true ∨ ∃ extension ∈ extensions,
        extension.name = type.name ∧ Marking.directed extension.directives = true := by
  have hown : (∃ extension ∈ extensions,
        extension.name = type.name ∧ Marking.directed extension.directives = true) ↔
      ∃ extension ∈ extensions.filter fun extension => extension.name = type.name,
        Marking.directed extension.directives = true := by
    simp [and_assoc]
  rw [hown, extended]
  clear hown
  generalize (extensions.filter fun extension => extension.name = type.name) = own
  induction own generalizing type with
  | nil => simp
  | cons extension rest ih =>
    rw [List.foldl_cons, List.exists_mem_cons_iff, ← or_assoc]
    refine (ih _).trans (or_congr_left ?_)
    rw [← Bool.or_eq_true, ← directed_filter_oneOf extension.directives]
    simp only [Marking.directed, List.any_append]

/-- **The marks of a built type are on its nodes**: it carries the directive if its definition or
one of its extensions in the document does. -/
theorem directed_iff_of_ofDocument {document : Document} (h : ofDocument document = .ok schema)
    {type : TypeDefinition} (ht : type ∈ schema.types) :
    Marking.directed type.directives = true ↔ ∃ node ∈ document.allTypes, node.name = type.name ∧
      Marking.directed node.directives = true := by
  obtain ⟨hviolations, htypes, -⟩ := ofDocument_ok h
  rw [htypes] at ht
  obtain ⟨bare, hbare, rfl⟩ := List.mem_map.mp (List.mem_of_mem_filter ht)
  have hnodes : ∀ node, node ∈ document.allTypes ↔
      node ∈ document.declaredTypes ∨ node ∈ document.typeExtensions := by
    intro node
    rw [← document.perm_allTypes.mem_iff, List.mem_append]
  rw [directed_extended, extended_name]
  constructor
  · rintro (hdirected | ⟨extension, hextension, hname, hdirected⟩)
    · exact ⟨bare, (hnodes bare).mpr (Or.inl hbare), rfl, hdirected⟩
    · exact ⟨extension, (hnodes extension).mpr (Or.inr hextension), hname, hdirected⟩
  · rintro ⟨node, hnode, hname, hdirected⟩
    rcases (hnodes node).mp hnode with hdeclared | hextension
    · -- a type is declared once
      have hnodup := Rules.nodup_declaredTypes hviolations
      exact Or.inl (List.inj_on_of_nodup_map hnodup hdeclared hbare hname ▸ hdirected)
    · exact Or.inr ⟨node, hextension, hname, hdirected⟩

/-! ### What a scan finds -/

/-- The records of the marked among ranked declarations. -/
def recordsIn (schema : Schema) (shared : Extensions) (listed : List (Rank × Declaration)) :
    List Record :=
  (listed.filter fun item => schema.isPrivate shared item.2).map fun item => item.2.record

/-- Whether a scan fails over an entry of the type map, since its type is of none of the six
kinds. -/
def isUnknown (entry : String × Entry) : Bool :=
  !isReserved entry.1 && entry.2 = .unknownKind

theorem recordsIn_eq (listed : List (Rank × Declaration)) :
    schema.recordsIn shared listed =
      ((listed.map Prod.snd).filter (schema.isPrivate shared)).map Declaration.record := by
  rw [recordsIn, List.filter_map, List.map_map]
  rfl

theorem recordsOf_eq_recordsIn {entry : String × Entry} (h : isUnknown entry = false) :
    schema.recordsOf shared entry.1 = schema.recordsIn shared (schema.listingOfEntry entry) := by
  obtain ⟨name, kind⟩ := entry
  rw [recordsIn_eq, recordsOf]
  by_cases hname : isReserved name = true
  · cases kind <;> simp [listingOfEntry, hname]
  · cases kind with
    | unknownKind => simp [isUnknown, hname] at h
    | known =>
      rw [if_neg hname, listingOfEntry, if_neg hname]
      cases schema.definition? name with
      | none => rfl
      | some type =>
        simp only [Option.map_some, Option.getD_some, TypeDefinition.map_snd_listing]

/-- **A scan that meets no type of unknown kind** records the marked declarations of the listing. -/
theorem scan_eq_listing (h : ∀ entry ∈ schema.entries, isUnknown entry = false) :
    schema.scan shared = .ok (schema.recordsIn shared schema.listing) := by
  have hknown : ∀ entry ∈ schema.entries, isReserved entry.1 = false → entry.2 = .known := by
    intro entry he hname
    have hentry := h entry he
    cases hkind : entry.2 with
    | known => rfl
    | unknownKind => simp [isUnknown, hname, hkind] at hentry
  rw [scan_eq hknown, recordsIn_eq, listing, map_snd_numbered, List.flatMap_map,
    List.filter_flatMap, List.map_flatMap]
  refine congrArg Except.ok (List.flatMap_congr fun entry he => ?_)
  rw [recordsOf_eq_recordsIn (h entry he), recordsIn_eq]

/-- **A scan fails over the first type of unknown kind.** -/
theorem scan_eq_error {entry : String × Entry} (h : schema.entries.find? isUnknown = some entry) :
    schema.scan shared = .error ⟨entry.1⟩ := by
  have hentries : ∀ entries : Table Entry, entries.find? isUnknown = some entry →
      schema.scanEntries shared entries = .error ⟨entry.1⟩ := by
    intro entries
    induction entries with
    | nil => intro hfind; cases hfind
    | cons first rest ih =>
      intro hfind
      obtain ⟨name, kind⟩ := first
      by_cases hname : isReserved name = true
      · have hpassed : schema.scanEntry shared (name, kind) = .ok [] := if_pos hname
        rw [List.find?_cons_of_neg (by simp [isUnknown, hname])] at hfind
        rw [scanEntries, hpassed, ih hfind]
        rfl
      · cases kind with
        | unknownKind =>
          rw [List.find?_cons_of_pos (by simp [isUnknown, hname]), Option.some.injEq] at hfind
          have hfailed : schema.scanEntry shared (name, .unknownKind) = .error ⟨name⟩ :=
            if_neg hname
          rw [scanEntries, hfailed, ← hfind]
          rfl
        | known =>
          have hfound : ∃ records, schema.scanEntry shared (name, .known) = .ok records :=
            ⟨_, if_neg hname⟩
          obtain ⟨records, hrecords⟩ := hfound
          rw [List.find?_cons_of_neg (by simp [isUnknown])] at hfind
          rw [scanEntries, hrecords, ih hfind]
          rfl
  exact hentries schema.entries h

/-- A scan that succeeds has met no type that makes it fail. -/
theorem not_isUnknown_of_scan {records : List Record} (h : schema.scan shared = .ok records) :
    ∀ entry ∈ schema.entries, isUnknown entry = false := by
  cases hfind : schema.entries.find? isUnknown with
  | none =>
    intro entry he
    exact Bool.eq_false_iff.mpr (List.find?_eq_none.mp hfind entry he)
  | some entry =>
    rw [scan_eq_error hfind] at h
    cases h

end Schema

/-! ### What a scanner finds -/

namespace Scanner

variable {schema : Schema} {shared : Extensions}

theorem foldl_register (declarations : List Declaration) (records : List Record) :
    declarations.foldl (register schema shared) records =
      records ++ (declarations.filter (schema.isPrivate shared)).map Declaration.record := by
  induction declarations generalizing records with
  | nil => exact (List.append_nil records).symm
  | cons declaration rest ih =>
    rw [List.foldl_cons, ih, register]
    by_cases h : schema.isPrivate shared declaration = true
    · rw [if_pos h, List.filter_cons_of_pos h, List.map_cons, List.append_assoc]
      rfl
    · rw [if_neg h, List.filter_cons_of_neg h]

/-- Registering the declarations of an entry adds what a scan of the entry finds. -/
theorem scanType_of_ok {entry : String × Entry} {found : List Record}
    (h : schema.scanEntry shared entry = .ok found) (records : List Record) :
    scanType schema shared records entry = (records ++ found, none) := by
  obtain ⟨name, kind⟩ := entry
  by_cases hname : Schema.isReserved name = true
  · have hpassed : schema.scanEntry shared (name, kind) = .ok [] := if_pos hname
    obtain rfl := Except.ok.inj (hpassed.symm.trans h)
    rw [List.append_nil]
    exact if_pos hname
  · cases kind with
    | unknownKind =>
      have hfailed : schema.scanEntry shared (name, .unknownKind) = .error ⟨name⟩ := if_neg hname
      rw [hfailed] at h
      cases h
    | known =>
      simp only [Schema.scanEntry, if_neg hname, Except.ok.injEq] at h
      simp only [scanType, if_neg hname]
      rw [← h]
      cases schema.definition? name with
      | none => exact congrArg (·, none) (List.append_nil records).symm
      | some type => exact congrArg (·, none) (foldl_register type.declarations records)

theorem scanType_of_error {entry : String × Entry} {error : ScanError}
    (h : schema.scanEntry shared entry = .error error) (records : List Record) :
    scanType schema shared records entry = (records, some error) := by
  obtain ⟨name, kind⟩ := entry
  by_cases hname : Schema.isReserved name = true
  · have hpassed : schema.scanEntry shared (name, kind) = .ok [] := if_pos hname
    rw [hpassed] at h
    cases h
  · cases kind with
    | unknownKind =>
      have hfailed : schema.scanEntry shared (name, .unknownKind) = .error ⟨name⟩ := if_neg hname
      obtain rfl := Except.error.inj (hfailed.symm.trans h)
      exact if_neg hname
    | known =>
      simp only [Schema.scanEntry, if_neg hname] at h
      cases h

/-- What a scanner registers from some records on is what a scan finds. -/
theorem scanTypes_of_ok {entries : Table Entry} {found : List Record}
    (h : schema.scanEntries shared entries = .ok found) (records : List Record) :
    scanTypes schema shared records entries = (records ++ found, none) := by
  induction entries generalizing records found with
  | nil =>
    obtain rfl := Except.ok.inj h
    rw [List.append_nil]
    rfl
  | cons entry rest ih =>
    obtain ⟨first, hfirst, h⟩ := Fallible.bind_eq_ok.mp h
    obtain ⟨others, hothers, h⟩ := Fallible.bind_eq_ok.mp h
    obtain rfl := Except.ok.inj h
    rw [scanTypes, scanType_of_ok hfirst]
    exact (ih hothers (records ++ first)).trans (by rw [List.append_assoc])

/-- A scanner fails as a scan does. -/
theorem scanTypes_of_error {entries : Table Entry} {error : ScanError}
    (h : schema.scanEntries shared entries = .error error) (records : List Record) :
    (scanTypes schema shared records entries).2 = some error := by
  induction entries generalizing records with
  | nil => cases h
  | cons entry rest ih =>
    rw [Schema.scanEntries] at h
    rw [scanTypes]
    cases hentry : schema.scanEntry shared entry with
    | error failed =>
      rw [hentry] at h
      obtain rfl := Except.error.inj h
      rw [scanType_of_error hentry]
    | ok found =>
      rw [hentry, Fallible.ok_bind] at h
      rw [scanType_of_ok hentry]
      cases hrest : schema.scanEntries shared rest with
      | error failed =>
        rw [hrest] at h
        obtain rfl := Except.error.inj h
        exact ih hrest (records ++ found)
      | ok others =>
        rw [hrest] at h
        cases h

/-- **A scanner finds what a scan of its schema finds**, whatever it found before, and stays with
the schema. -/
theorem scan_eq (scanner : Scanner) (catalog : Catalog) :
    (scanner.scan catalog).1.key = scanner.key ∧
      (scanner.scan catalog).2 = catalog.scan scanner.key := by
  refine ⟨rfl, ?_⟩
  rw [Catalog.scan, Schema.scan]
  cases hscan : (catalog.schema scanner.key).scanEntries catalog.shared
      (catalog.schema scanner.key).entries with
  | ok found => simp only [scan, scanTypes_of_ok hscan, List.nil_append]
  | error error => simp only [scan, scanTypes_of_error hscan]

end Scanner

/-! ### The scan of a schema -/

namespace Catalog

/-- **A scan is complete and sound.** It fails exactly over a type of unknown kind that it does not
pass over, and then over the first one. Otherwise it gives one record for each marked declaration,
in the order of the ranks, and none besides. A scanner gives the same, time and again. What a built
type carries is what its definition and its extensions in the document carry. -/
theorem scan_lists_marked (catalog : Catalog) (handle : Handle) :
    let schema := catalog.schema handle.key
    let first := (Scanner.ofHandle handle).scan catalog
    (match schema.entries.find? fun entry =>
        !Schema.isReserved entry.1 && entry.2 = .unknownKind with
      | some (name, _) => catalog.scan handle.key = .error ⟨name⟩
      | none => ∃ marked : List (Rank × Declaration),
          marked.Pairwise (fun a b => a.1 < b.1) ∧
          (∀ rank declaration, (rank, declaration) ∈ marked ↔
            schema.DeclaredAt rank declaration ∧ schema.Marked catalog.shared declaration) ∧
          catalog.scan handle.key = .ok (marked.map fun item => item.2.record)) ∧
      first.2 = catalog.scan handle.key ∧ (first.1.scan catalog).2 = first.2 ∧
      ∀ document base, Schema.ofDocument document = .ok base → schema.types = base.types →
        ∀ type ∈ schema.types, (∃ directive ∈ type.directives, directive.name = "private") ↔
          ∃ node ∈ document.allTypes, node.name = type.name ∧
            ∃ directive ∈ node.directives, directive.name = "private" := by
  intro schema first
  have hfirst : first.1.key = handle.key ∧ first.2 = catalog.scan handle.key :=
    (Scanner.ofHandle handle).scan_eq catalog
  have hagain : (first.1.scan catalog).2 = catalog.scan first.1.key :=
    (first.1.scan_eq catalog).2
  refine ⟨?_, hfirst.2, by rw [hagain, hfirst.1, hfirst.2], ?_⟩
  · cases hfind : schema.entries.find? fun entry =>
      !Schema.isReserved entry.1 && entry.2 = .unknownKind with
    | some entry => exact Schema.scan_eq_error hfind
    | none =>
      have hknown : ∀ entry ∈ schema.entries, Schema.isUnknown entry = false := by
        intro entry he
        exact Bool.eq_false_iff.mpr (List.find?_eq_none.mp hfind entry he)
      let marked := schema.listing.filter fun item => schema.isPrivate catalog.shared item.2
      refine ⟨marked, schema.pairwise_listing.filter _, fun rank declaration => ?_,
        Schema.scan_eq_listing hknown⟩
      rw [List.mem_filter, Schema.mem_listing, Schema.isPrivate_iff_marked]
  · intro document base hbase htypes type ht
    rw [htypes] at ht
    rw [← Schema.directed_iff, Schema.directed_iff_of_ofDocument hbase ht]
    exact exists_congr fun node => and_congr_right fun _ => and_congr_right fun _ =>
      Schema.directed_iff

/-- The document `type Query { node(kind: Kind @private): Node } interface Node { id(of: Int
@private): ID } enum Kind { A @private B } extend type Query @private`, with the definition of the
directive. -/
def markedTypes : Document :=
  ⟨[.directive ⟨"private", [], false, Marking.directiveLocations⟩,
    .type ⟨"Query", [], .object [] [⟨"node",
      [⟨"kind", .named "Kind", none, [⟨"private", []⟩]⟩], .named "Node", []⟩]⟩,
    .type ⟨"Node", [], .interface [] [⟨"id", [⟨"of", .named "Int", none, [⟨"private", []⟩]⟩],
      .named "ID", []⟩]⟩,
    .type ⟨"Kind", [], .enum [⟨"A", [⟨"private", []⟩]⟩, ⟨"B", []⟩]⟩,
    .typeExtension ⟨"Query", [⟨"private", []⟩], .object [] []⟩]⟩

/-- The schema of this document, in which one field is flagged beside, and the same schema with a
type of unknown kind. -/
def markedAndUnknown : Catalog :=
  let base := (Schema.ofDocument markedTypes).toOption.getD ⟨[], [], [], [], []⟩
  let flagged := { base with extensions := [(.member "Node" "id", [("isPrivate", .int 1)])] }
  ⟨[("marked", flagged), ("unknown", flagged.addUnknownKind "Odd")], [], []⟩

/-- Marks on an extension, on arguments, on an enum value and in extension data are found; a type of
unknown kind makes the scan fail. -/
theorem scan_lists_marked_of_all_forms :
    let query : TypeDefinition := ⟨"Query", [⟨"private", []⟩], .object [] []⟩
    query ∈ markedTypes.allTypes ∧
      (∃ type ∈ (markedAndUnknown.schema "marked").types, type.name = "Query" ∧
        ∃ directive ∈ type.directives, directive.name = "private") ∧
      ((Scanner.ofHandle ⟨"holder", some "marked"⟩).scan markedAndUnknown).2 =
        .ok [⟨"__root__", "Query"⟩, ⟨"node", "kind"⟩, ⟨"Node", "id"⟩, ⟨"id", "of"⟩, ⟨"Kind", "A"⟩] ∧
      markedAndUnknown.scan "unknown" = .error ⟨"Odd"⟩ := by
  intro query
  have hquery : query ∈ markedTypes.allTypes := by
    simp [query, Document.allTypes, markedTypes]
  obtain ⟨base, hbase⟩ : ∃ base, Schema.ofDocument markedTypes = .ok base := by
    have hsome : (Schema.ofDocument markedTypes).toOption.isSome = true := by decide +kernel
    obtain ⟨base, hbase⟩ := Option.isSome_iff_exists.mp hsome
    exact ⟨base, Fallible.toOption_eq_some.mp hbase⟩
  have htypes : (markedAndUnknown.schema "marked").types = base.types := by
    simp [markedAndUnknown, Catalog.schema, Table.get?, hbase, Except.toOption]
  have hfound : (markedAndUnknown.scan "marked").toOption =
      some [⟨"__root__", "Query"⟩, ⟨"node", "kind"⟩, ⟨"Node", "id"⟩, ⟨"id", "of"⟩,
        ⟨"Kind", "A"⟩] := by
    decide +kernel
  have hodd : ((markedAndUnknown.schema "unknown").entries.find? fun entry =>
      !Schema.isReserved entry.1 && entry.2 = .unknownKind) = some ("Odd", .unknownKind) := by
    decide +kernel
  have hshown : ∃ type ∈ (markedAndUnknown.schema "marked").types, type.name = "Query" := by
    decide +kernel
  obtain ⟨type, htype, hname⟩ := hshown
  obtain ⟨-, hscanner, -, hnodes⟩ :=
    scan_lists_marked markedAndUnknown ⟨"holder", some "marked"⟩
  obtain ⟨hunknown, -⟩ := scan_lists_marked markedAndUnknown ⟨"unknown", none⟩
  simp only [Handle.key, Option.getD_none, hodd] at hunknown
  refine ⟨hquery, ⟨type, htype, hname, ?_⟩, ?_, hunknown⟩
  · refine (hnodes markedTypes base hbase htypes type htype).mpr ⟨query, hquery, hname.symm, ?_⟩
    exact ⟨⟨"private", []⟩, List.mem_singleton_self _, rfl⟩
  · exact hscanner.trans (Fallible.toOption_eq_some.mp hfound)

end Catalog

end SchemaVisibility
