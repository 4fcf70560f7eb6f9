import SchemaVisibility.Proofs.Introspection.Depth

/-! # Faithful responses

A `Response` is a result in which every object also says what it stands for: a type, a member of the
type around it, or nothing that can be private. `Response.json` forgets that again, and
`Response.withoutPrivate` leaves out the private members of types at every depth.

`Faithful` says that a response fits the selections of an operation. Below a root field of
introspection every value has the kind that its field has; a response key of an object always means
the same field; and wherever a `name` is selected it tells what the object stands for, unless it is
missing or `null`. Elsewhere a response is free.
-/

namespace SchemaVisibility.Introspection

open GraphQL

/-- Where a field of an introspection type leads, if it leads on. -/
def Kind.next? (kind : Kind) (name : String) : Option Kind :=
  kind.fields?.bind fun fields => Table.get? fields name

/-- What an object of a response stands for. -/
inductive Role where
  | other
  /-- A type of the schema, or without a name a wrapper around one. -/
  | type (name : Option String)
  /-- A field, input field or enum value of the type around it. -/
  | member (name : String)

/-- The type that an object stands for. -/
def Role.owner : Role → Option String
  | .type name => name
  | _ => none

/-- Whether the object may give this text as its name. -/
def Role.Admits : Role → String → Prop
  | .other, _ => True
  | .type name, text => name = some text
  | .member name, text => text = name

/-- Whether an object may stand for this at a position of the kind, where operations ask for the
types `literals` by name. No type bears the name under which whole types are recorded. -/
def Role.Suits (kind : Kind) (literals : List String) : Role → Prop
  | .type name => kind = .type ∧ name ≠ some Record.topLevel ∧
      ∀ literal ∈ literals, name = some literal
  | _ => kind ≠ .type

/-- A result whose objects say what they stand for. -/
inductive Response where
  /-- A value in which nothing has to be told apart. -/
  | plain (value : Json)
  | list (items : List Response)
  | object (role : Role) (members : List (String × Response))

namespace Response

mutual

/-- The result itself. -/
def json : Response → Json
  | .plain value => value
  | .list items => .arr (jsonItems items)
  | .object _ members => .obj (jsonMembers members)

/-- The results of items. -/
def jsonItems : List Response → List Json
  | [] => []
  | item :: rest => json item :: jsonItems rest

/-- The results of members. -/
def jsonMembers : List (String × Response) → Table Json
  | [] => []
  | (key, value) :: rest => (key, json value) :: jsonMembers rest

end

/-- Whether an entry of a list stands for a private member of the type around the list. -/
def isPrivate (registry : Registry) (owner : Option String) : Response → Bool
  | .object (.member name) _ => owner.any fun owner => registry.isPrivate owner name
  | _ => false

mutual

/-- The response without the private members of types, at any depth. -/
def withoutPrivate (registry : Registry) (owner : Option String) : Response → Response
  | .plain value => .plain value
  | .list items => .list (withoutPrivateItems registry owner items)
  | .object role members => .object role (withoutPrivateMembers registry role.owner members)

/-- The items that are no private members of `owner`, each without private members. -/
def withoutPrivateItems (registry : Registry) (owner : Option String) :
    List Response → List Response
  | [] => []
  | item :: rest =>
    if item.isPrivate registry owner then withoutPrivateItems registry owner rest
    else withoutPrivate registry owner item :: withoutPrivateItems registry owner rest

/-- The members of an object that stands for `owner`, each without private members. -/
def withoutPrivateMembers (registry : Registry) (owner : Option String) :
    List (String × Response) → List (String × Response)
  | [] => []
  | (key, value) :: rest =>
    (key, withoutPrivate registry owner value) :: withoutPrivateMembers registry owner rest

end

theorem jsonItems_eq_map (items : List Response) : jsonItems items = items.map json := by
  induction items with
  | nil => rfl
  | cons item rest ih => rw [jsonItems, ih, List.map_cons]

theorem jsonMembers_eq_map (members : List (String × Response)) :
    jsonMembers members = members.map fun entry => (entry.1, entry.2.json) := by
  induction members with
  | nil => rfl
  | cons entry rest ih => rw [jsonMembers, ih, List.map_cons]

theorem withoutPrivateItems_eq (registry : Registry) (owner : Option String)
    (items : List Response) :
    withoutPrivateItems registry owner items =
      (items.filter fun item => !item.isPrivate registry owner).map
        (withoutPrivate registry owner) := by
  induction items with
  | nil => rfl
  | cons item rest ih =>
    rw [withoutPrivateItems, ih]
    by_cases h : item.isPrivate registry owner <;> simp [h]

theorem withoutPrivateMembers_eq_map (registry : Registry) (owner : Option String)
    (members : List (String × Response)) :
    withoutPrivateMembers registry owner members =
      members.map fun entry => (entry.1, withoutPrivate registry owner entry.2) := by
  induction members with
  | nil => rfl
  | cons entry rest ih => rw [withoutPrivateMembers, ih, List.map_cons]

end Response

/-! ### Positions and what fits them -/

/-- The fields selected in the objects that several fields lead to. -/
def childrenOf (fragments : Fragments) (fields : List Field) : List Field :=
  fields.flatMap fun field => collect fragments field.selections

/-- The fields that share a response key. -/
def under (key : String) (fields : List Field) : List Field :=
  fields.filter fun field => field.responseKey = key

/-- No response key means two fields. -/
def Coherent (fields : List Field) : Prop :=
  ∀ a ∈ fields, ∀ b ∈ fields, a.responseKey = b.responseKey → a.name = b.name

/-- No list and no object. -/
def IsScalar : Json → Prop
  | .arr _ | .obj _ => False
  | _ => True

/-- A value of a field that leads no further: a scalar or a list of scalars. -/
def IsLeaf : Json → Prop
  | .arr items => ∀ item ∈ items, IsScalar item
  | .obj _ => False
  | _ => True

namespace Response

/-- Whether nothing has to be told apart in a response. -/
def IsPlain : Response → Prop
  | .plain _ => True
  | _ => False

/-- Whether an entry of a list stands for a member of a type, or is missing. -/
def IsMember : Response → Prop
  | .plain value => value = .null
  | .object (.member _) _ => True
  | _ => False

/-- Whether a response lists members of a type, or is missing. -/
def IsMemberList : Response → Prop
  | .plain value => value = .null
  | .list items => ∀ item ∈ items, item.IsMember
  | _ => False

end Response

/-- Every selected name tells what the object stands for, or is `null`. -/
def Named (role : Role) (children : List Field) (members : List (String × Response)) : Prop :=
  ∀ child ∈ children, child.name = "name" → ∀ value, (child.responseKey, value) ∈ members →
    value = .plain .null ∨ ∃ text, value = .plain (.str text) ∧ role.Admits text

/-- The lists of a type's members hold objects that stand for members. -/
def ListsMembers (children : List Field) (members : List (String × Response)) : Prop :=
  ∀ child ∈ children, child.name ∈ memberLists → ∀ value, (child.responseKey, value) ∈ members →
    value.IsMemberList

mutual

/-- A response fits the fields that lead to it, where operations ask for the types `literals` by
name. -/
def Fits (fragments : Fragments) (literals : List String) (fields : List Field) (kind : Kind) :
    Response → Prop
  | .plain value => if kind = .leaf then IsLeaf value else value = .null
  | .list items => kind ≠ .leaf ∧ FitsItems fragments literals fields kind items
  | .object role members =>
    let children := childrenOf fragments fields
    kind ≠ .leaf ∧ role.Suits kind literals ∧ Coherent children ∧
      (members.map Prod.fst).Nodup ∧ Named role children members ∧
      (kind = .type → ListsMembers children members) ∧
      FitsMembers fragments children (fun child => kind.next? child.name) (fun _ => []) members

/-- All items fit the fields that lead to their list. -/
def FitsItems (fragments : Fragments) (literals : List String) (fields : List Field)
    (kind : Kind) : List Response → Prop
  | [] => True
  | item :: rest =>
    Fits fragments literals fields kind item ∧ FitsItems fragments literals fields kind rest

/-- A member of an object fits the children with its key if they lead on. What no child leads to is
free. -/
def FitsMembers (fragments : Fragments) (children : List Field) (lead : Field → Option Kind)
    (literals : String → List String) : List (String × Response) → Prop
  | [] => True
  | (key, value) :: rest =>
    ((∀ child ∈ under key children, lead child = none) → value.IsPlain) ∧
      (∀ child ∈ under key children, ∀ next, lead child = some next →
        Fits fragments (literals key) (under key children) next value) ∧
      FitsMembers fragments children lead literals rest

end

/-- The types that the root fields with a key ask for by name. -/
def literalsUnder (fields : List Field) (key : String) : List String :=
  (under key fields).filterMap literalTypeName?

/-- **A faithful response** to an operation of a document: `null`, or an object whose members fit
the root fields of introspection. -/
def Faithful (document : Document) (operationName : Option String) : Response → Prop
  | .plain value => value = .null
  | .object .other members =>
    let fields := rootSelection document operationName
    Coherent fields ∧ (members.map Prod.fst).Nodup ∧
      FitsMembers document.fragmentTable fields rootKind? (literalsUnder fields) members
  | _ => False

theorem fitsItems_iff {fragments : Fragments} {literals : List String} {fields : List Field}
    {kind : Kind} {items : List Response} :
    FitsItems fragments literals fields kind items ↔
      ∀ item ∈ items, Fits fragments literals fields kind item := by
  induction items with
  | nil => simp [FitsItems]
  | cons item rest ih => simp [FitsItems, ih]

theorem fitsMembers_iff {fragments : Fragments} {children : List Field}
    {lead : Field → Option Kind} {literals : String → List String}
    {members : List (String × Response)} :
    FitsMembers fragments children lead literals members ↔
      ∀ entry ∈ members,
        ((∀ child ∈ under entry.1 children, lead child = none) → entry.2.IsPlain) ∧
        ∀ child ∈ under entry.1 children, ∀ next, lead child = some next →
          Fits fragments (literals entry.1) (under entry.1 children) next entry.2 := by
  induction members with
  | nil => simp [FitsMembers]
  | cons entry rest ih =>
    obtain ⟨key, value⟩ := entry
    simp [FitsMembers, ih, and_assoc]

end SchemaVisibility.Introspection
