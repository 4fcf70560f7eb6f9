import Mathlib.Data.List.TakeWhile
import SchemaVisibility.GraphQL.Parser
import SchemaVisibility.Proofs.Fallible
import SchemaVisibility.Schema.Rules

/-! # Names in documents

Whatever a text declares has a name that the language allows (`Document.spelled_of_parse`). A token
of a name holds one (`named_readAll`), a parser leaves behind tokens of those that it is given, and
where it takes a name it takes it from a token. `Parser.Gives` states both of a parser, and the
parsers of the grammar are gone through in turn.
-/

namespace SchemaVisibility

/-! ### Names -/

namespace Text

/-- A text that is a name and nothing besides. -/
def IsName (text : String) : Prop :=
  name? text.toList = some (text.toList, [])

instance : DecidablePred IsName :=
  fun text => inferInstanceAs (Decidable (name? text.toList = some (text.toList, [])))

theorem IsName.ne_empty {text : String} (h : IsName text) : text ≠ "" := by
  rintro rfl
  cases h

theorem isNamePart_of_isNameStart {c : Char} (h : isNameStart c = true) : isNamePart c = true := by
  rw [isNamePart, h, Bool.true_or]

/-- A name consists of characters that names may have. -/
theorem IsName.not_mem {text : String} (h : IsName text) {c : Char} (hc : isNamePart c = false) :
    c ∉ text.toList := by
  intro hmem
  have hpart : isNamePart c = true := by
    rw [IsName] at h
    generalize text.toList = chars at h hmem
    cases chars with
    | nil => cases hmem
    | cons first rest =>
      rw [name?] at h
      split at h
      · next hstart =>
        simp only [Option.some.injEq, Prod.mk.injEq, List.cons.injEq, true_and] at h
        rcases List.mem_cons.mp hmem with rfl | hrest
        · exact isNamePart_of_isNameStart hstart
        · rw [← h.1] at hrest
          exact List.mem_takeWhile_imp hrest
      · cases h
  rw [hc] at hpart
  cases hpart

/-- What is split off as a name is one. -/
theorem isName_of_name? {source word rest : List Char} (h : name? source = some (word, rest)) :
    IsName (String.ofList word) := by
  rw [IsName, String.toList_ofList]
  cases source with
  | nil => cases h
  | cons c source =>
    rw [name?] at h
    split at h
    · next hstart =>
      simp only [Option.some.injEq, Prod.mk.injEq] at h
      obtain ⟨rfl, -⟩ := h
      have hall : ∀ d ∈ source.takeWhile isNamePart, isNamePart d = true :=
        fun d hd => List.mem_takeWhile_imp hd
      rw [name?, if_pos hstart, List.takeWhile_eq_self_iff.mpr hall,
        List.dropWhile_eq_nil_iff.mpr hall]
    · cases h

end Text

namespace GraphQL

open Text

/-! ### Tokens -/

/-- Tokens whose names are names of the language. -/
def Named (tokens : List Token) : Prop :=
  ∀ token ∈ tokens, ∀ word, token.lexeme = .name word → IsName word

/-- A number is not a name. -/
theorem Lexeme.number?_ne_name {source rest : List Char} {word : String} :
    number? source ≠ some (.name word, rest) := by
  intro h
  simp only [number?, Option.bind_eq_bind, Option.bind_eq_some_iff, Prod.exists] at h
  obtain ⟨_, _, -, _, _, -, _, _, -, h⟩ := h
  split at h
  · split at h <;> cases h
  · cases h

theorem Lexeme.isName_of_read? {source rest : List Char} {word : String}
    (h : read? source = some (.name word, rest)) : IsName word := by
  rw [read?.eq_def] at h
  split at h
  · cases h
  · simp at h
  · simp at h
  · split at h
    · cases h
    · split at h
      · next hname =>
        simp only [Option.some.injEq, Prod.mk.injEq, Lexeme.name.injEq] at h
        exact h.1 ▸ isName_of_name? hname
      · exact absurd h number?_ne_name
  · cases h

/-- **The names among the tokens of a text are names of the language.** -/
theorem named_readAll {n : Nat} {position : Position} {source : List Char} {tokens : List Token}
    (h : Token.readAll n position source = .ok tokens) : Named tokens := by
  induction n generalizing position source tokens with
  | zero => cases h
  | succ n ih =>
    rw [Token.readAll] at h
    split at h
    · cases h
      exact List.forall_mem_nil _
    · split at h
      · cases h
      · next lexeme rest hread =>
        obtain ⟨others, hothers, h⟩ := Fallible.bind_eq_ok.mp h
        obtain rfl := Except.ok.inj h
        refine List.forall_mem_cons.mpr ⟨fun word hword => ?_, ih hothers⟩
        obtain rfl : lexeme = .name word := hword
        exact Lexeme.isName_of_read? hread

/-- A type and its members have names of the language. -/
def TypeDefinition.Spelled (type : TypeDefinition) : Prop :=
  IsName type.name ∧ ∀ member ∈ Rules.memberNames type, IsName member

/-- What a definition declares has a name of the language. -/
def Definition.Spelled : Definition → Prop
  | .type own | .typeExtension own => own.Spelled
  | _ => True

/-! ### Parsers -/

namespace Parser

variable {α β : Type} {P : α → Prop} {Q : β → Prop}

/-- **What a parser gives**: from named tokens it takes something of the given kind and leaves named
tokens. -/
def Gives (P : α → Prop) (p : Parser α) : Prop :=
  ∀ size tokens a rest, Named tokens → p size tokens = .ok (a, rest) → P a ∧ Named rest

/-- What a parser gives does not matter, but it leaves named tokens. -/
def Keeps (p : Parser α) : Prop :=
  Gives (fun _ => True) p

theorem Gives.mono {P' : α → Prop} {p : Parser α} (h : Gives P p) (hp : ∀ a, P a → P' a) :
    Gives P' p := by
  intro size tokens a rest hnamed hrun
  exact (h size tokens a rest hnamed hrun).imp_left (hp a)

theorem Gives.keeps {p : Parser α} (h : Gives P p) : Keeps p :=
  h.mono fun _ _ => trivial

theorem Gives.pure {a : α} (h : P a) : Gives P (pure a) := by
  intro size tokens b rest hnamed hrun
  obtain ⟨rfl, rfl⟩ := Prod.mk.inj (Except.ok.inj hrun)
  exact ⟨h, hnamed⟩

theorem Gives.bind {p : Parser α} {f : α → Parser β} (hp : Gives P p)
    (hf : ∀ a, P a → Gives Q (f a)) : Gives Q (p >>= f) := by
  intro size tokens b rest hnamed hrun
  obtain ⟨⟨a, middle⟩, hfirst, hrest⟩ := Fallible.bind_eq_ok.mp hrun
  obtain ⟨ha, hmiddle⟩ := hp size tokens a middle hnamed hfirst
  exact hf a ha size middle b rest hmiddle hrest

theorem Keeps.bind {p : Parser α} {f : α → Parser β} (hp : Keeps p) (hf : ∀ a, Gives Q (f a)) :
    Gives Q (p >>= f) :=
  Gives.bind hp fun a _ => hf a

theorem Keeps.pure (a : α) : Keeps (pure a) :=
  Gives.pure trivial

/-- Two ways that go on together. -/
theorem Keeps.join {c : Prop} [Decidable c] {p q : Parser α} {f : α → Parser β} (hp : Keeps p)
    (hq : Keeps q) (hf : ∀ a, Gives Q (f a)) : Gives Q (if c then p >>= f else q >>= f) := by
  split
  · exact hp.bind hf
  · exact hq.bind hf

theorem gives_throw (error : SyntaxError) : Gives P (throw error) := by
  intro size tokens a rest _ hrun
  cases hrun

theorem gives_refuse : Gives P refuse := by
  intro size tokens a rest _ hrun
  cases hrun

/-- Nothing comes after a refusal. -/
theorem Gives.stop {p : Parser α} {f : α → Parser β} (h : Gives (fun _ => False) p) :
    Gives Q (p >>= f) :=
  h.bind fun _ hnever => hnever.elim

theorem keeps_peek : Keeps peek := by
  intro size tokens a rest hnamed hrun
  obtain ⟨-, rfl⟩ := Prod.mk.inj (Except.ok.inj hrun)
  exact ⟨trivial, hnamed⟩

theorem keeps_bound : Keeps bound := by
  intro size tokens a rest hnamed hrun
  obtain ⟨-, rfl⟩ := Prod.mk.inj (Except.ok.inj hrun)
  exact ⟨trivial, hnamed⟩

theorem gives_next : Gives (fun token => ∀ word, token.lexeme = .name word → IsName word) next := by
  intro size tokens a rest hnamed hrun
  cases tokens with
  | nil => cases hrun
  | cons token others =>
    obtain ⟨rfl, rfl⟩ := Prod.mk.inj (Except.ok.inj hrun)
    exact List.forall_mem_cons.mp hnamed

theorem keeps_take? (lexeme : Lexeme) : Keeps (take? lexeme) := by
  intro size tokens a rest hnamed hrun
  refine ⟨trivial, ?_⟩
  cases tokens with
  | nil =>
    obtain ⟨-, rfl⟩ := Prod.mk.inj (Except.ok.inj hrun)
    exact hnamed
  | cons token others =>
    rw [take?, Except.ok.injEq] at hrun
    split at hrun
    · obtain ⟨-, rfl⟩ := Prod.mk.inj hrun
      exact (List.forall_mem_cons.mp hnamed).2
    · obtain ⟨-, rfl⟩ := Prod.mk.inj hrun
      exact hnamed

theorem keeps_take (lexeme : Lexeme) : Keeps (take lexeme) := by
  refine (keeps_take? lexeme).bind fun taken => ?_
  split
  · exact gives_refuse
  · exact Keeps.pure _

theorem keeps_mark (c : Char) : Keeps (mark c) :=
  keeps_take _

theorem keeps_mark? (c : Char) : Keeps (mark? c) :=
  keeps_take? _

theorem keeps_keyword (word : String) : Keeps (keyword word) :=
  keeps_take _

theorem keeps_keyword? (word : String) : Keeps (keyword? word) :=
  keeps_take? _

/-- **A label is a name.** -/
theorem gives_label : Gives (fun label => IsName label.text) label := by
  refine gives_next.bind fun token htoken => ?_
  split
  · next word hword => exact Gives.pure (htoken word hword)
  · exact gives_throw _

theorem gives_name : Gives IsName name :=
  gives_label.bind fun _ hlabel => Gives.pure hlabel

/-! ### Several items -/

section Items

variable {item : Parser α} (h : Gives P item)

include h

theorem gives_upTo (closing : Char) (n : Nat) :
    Gives (fun items => ∀ a ∈ items, P a) (upTo closing item n) := by
  induction n with
  | zero => exact gives_refuse
  | succ n ih =>
    refine (keeps_mark? closing).bind fun closed => ?_
    split
    · exact Gives.pure (List.forall_mem_nil _)
    · refine h.bind fun first hfirst => ih.bind fun rest hrest => ?_
      exact Gives.pure (List.forall_mem_cons.mpr ⟨hfirst, hrest⟩)

theorem gives_many (opening closing : Char) :
    Gives (fun items => ∀ a ∈ items, P a) (many opening closing item) := by
  refine (keeps_mark opening).bind fun _ => h.bind fun first hfirst => keeps_bound.bind fun n => ?_
  refine (gives_upTo h closing n).bind fun rest hrest => ?_
  exact Gives.pure (List.forall_mem_cons.mpr ⟨hfirst, hrest⟩)

theorem gives_optionalMany (opening closing : Char) :
    Gives (fun items => ∀ a ∈ items, P a) (optionalMany opening closing item) := by
  refine keeps_peek.bind fun lexeme => ?_
  cases lexeme with
  | none => exact Gives.pure (List.forall_mem_nil _)
  | some lexeme =>
    dsimp only
    split
    · exact gives_many h opening closing
    · exact Gives.pure (List.forall_mem_nil _)

theorem gives_separated (separator : Char) (n : Nat) :
    Gives (fun items => ∀ a ∈ items, P a) (separated separator item n) := by
  induction n with
  | zero => exact gives_refuse
  | succ n ih =>
    refine (keeps_mark? separator).bind fun more => ?_
    split
    · refine h.bind fun first hfirst => ih.bind fun rest hrest => ?_
      exact Gives.pure (List.forall_mem_cons.mpr ⟨hfirst, hrest⟩)
    · exact Gives.pure (List.forall_mem_nil _)

theorem gives_delimited (separator : Char) :
    Gives (fun items => ∀ a ∈ items, P a) (delimited separator item) := by
  refine (keeps_mark? separator).bind fun _ => h.bind fun first hfirst => ?_
  refine keeps_bound.bind fun n => (gives_separated h separator n).bind fun rest hrest => ?_
  exact Gives.pure (List.forall_mem_cons.mpr ⟨hfirst, hrest⟩)

end Items

section Items

variable {item : Parser α} (h : Keeps item)

include h

theorem keeps_upTo (closing : Char) (n : Nat) : Keeps (upTo closing item n) :=
  (gives_upTo h closing n).keeps

theorem keeps_many (opening closing : Char) : Keeps (many opening closing item) :=
  (gives_many h opening closing).keeps

theorem keeps_optionalMany (opening closing : Char) : Keeps (optionalMany opening closing item) :=
  (gives_optionalMany h opening closing).keeps

end Items

/-! ### Values, types and directives -/

theorem keeps_valueWithin (const : Bool) (n : Nat) : Keeps (valueWithin const n) := by
  induction n with
  | zero => exact gives_refuse
  | succ n ih =>
    refine gives_next.keeps.bind fun token => ?_
    split
    · exact keeps_bound.bind fun _ => (keeps_upTo ih _ _).bind fun _ => Keeps.pure _
    · refine keeps_bound.bind fun _ => Keeps.bind ?_ fun _ => Keeps.pure _
      refine keeps_upTo (gives_label.keeps.bind fun key => ?_) _ _
      exact (keeps_mark _).bind fun _ => Keeps.bind ih fun _ => Keeps.pure _
    · split
      · exact gives_refuse
      · exact gives_name.keeps.bind fun _ => Keeps.pure _
    · exact Keeps.pure _
    · exact Keeps.pure _
    · exact Keeps.pure _
    · exact Keeps.pure _
    · exact Keeps.pure _
    · exact Keeps.pure _
    · exact Keeps.pure _
    · exact gives_throw _

theorem keeps_value (const : Bool) : Keeps (value const) :=
  keeps_bound.bind fun n => keeps_valueWithin const n

theorem keeps_typeWithin (n : Nat) : Keeps (typeWithin n) := by
  induction n with
  | zero => exact gives_refuse
  | succ n ih =>
    refine (keeps_mark? _).bind fun isList => ?_
    dsimp only
    split
    · refine Keeps.bind ih fun item => (keeps_mark _).bind fun _ => ?_
      refine (Keeps.pure _).bind fun inner => (keeps_mark? _).bind fun required => ?_
      split <;> exact Keeps.pure _
    · refine gives_name.keeps.bind fun _ => ?_
      refine (Keeps.pure _).bind fun inner => (keeps_mark? _).bind fun required => ?_
      split <;> exact Keeps.pure _

theorem keeps_typeRef : Keeps typeRef :=
  keeps_bound.bind fun n => keeps_typeWithin n

theorem keeps_argument (const : Bool) : Keeps (argument const) :=
  gives_label.keeps.bind fun _ => (keeps_mark _).bind fun _ => (keeps_value const).bind fun _ =>
    Keeps.pure _

theorem keeps_arguments (const : Bool) : Keeps (arguments const) :=
  keeps_optionalMany (keeps_argument const) _ _

theorem keeps_directives (const : Bool) : Keeps (directives const) := by
  refine keeps_bound.bind fun n => ?_
  induction n with
  | zero => exact gives_refuse
  | succ n ih =>
    refine (keeps_mark? _).bind fun more => ?_
    split
    · refine gives_name.keeps.bind fun _ => (keeps_arguments const).bind fun _ => ?_
      exact Keeps.bind ih fun _ => Keeps.pure _
    · exact Keeps.pure _

theorem keeps_default? : Keeps default? := by
  refine (keeps_mark? _).bind fun given => ?_
  split
  · exact (keeps_value true).bind fun _ => Keeps.pure _
  · exact Keeps.pure _

theorem keeps_description? : Keeps description? := by
  refine keeps_peek.bind fun lexeme => ?_
  split
  · exact gives_next.keeps.bind fun _ => Keeps.pure _
  · exact Keeps.pure _

/-! ### Operations and fragments -/

theorem keeps_condition : Keeps condition :=
  (keeps_keyword _).bind fun _ => gives_name.keeps

theorem keeps_afterEllipsis {selections : Parser (List Selection)} (h : Keeps selections) :
    Keeps (afterEllipsis selections) := by
  refine keeps_peek.bind fun lexeme => ?_
  split
  · refine keeps_condition.bind fun _ => (keeps_directives false).bind fun _ => ?_
    exact Keeps.bind h fun _ => Keeps.pure _
  · exact gives_name.keeps.bind fun _ => (keeps_directives false).bind fun _ => Keeps.pure _
  · exact (keeps_directives false).bind fun _ => Keeps.bind h fun _ => Keeps.pure _

theorem keeps_field {selections : Parser (List Selection)} (h : Keeps selections) :
    Keeps (field selections) := by
  refine gives_label.keeps.bind fun first => (keeps_mark? _).bind fun renamed => ?_
  refine Keeps.join (gives_name.keeps.bind fun _ => Keeps.pure _) (Keeps.pure _) fun second => ?_
  refine (keeps_arguments false).bind fun _ => (keeps_directives false).bind fun _ => ?_
  refine keeps_peek.bind fun lexeme => ?_
  dsimp only
  split
  · exact Keeps.bind h fun _ => Keeps.pure _
  · exact (Keeps.pure _).bind fun _ => Keeps.pure _

theorem keeps_selections : Keeps selections := by
  refine keeps_bound.bind fun n => ?_
  induction n with
  | zero => exact gives_refuse
  | succ n ih =>
    refine keeps_many ((keeps_take? _).bind fun spread => ?_) _ _
    split
    · exact keeps_afterEllipsis ih
    · exact keeps_field ih

theorem keeps_operationKind : Keeps operationKind := by
  refine gives_label.keeps.bind fun label => ?_
  split
  · exact Keeps.pure _
  · exact Keeps.pure _
  · exact Keeps.pure _
  · exact gives_throw _

theorem keeps_position : Keeps position := by
  intro size tokens a rest hnamed hrun
  cases tokens with
  | nil => cases hrun
  | cons token others =>
    obtain ⟨-, rfl⟩ := Prod.mk.inj (Except.ok.inj hrun)
    exact ⟨trivial, hnamed⟩

theorem keeps_variableDefinition : Keeps variableDefinition := by
  refine keeps_position.bind fun _ => keeps_description?.bind fun _ => ?_
  refine (keeps_mark _).bind fun _ => gives_name.keeps.bind fun _ => ?_
  refine (keeps_mark _).bind fun _ => keeps_typeRef.bind fun _ => ?_
  exact keeps_default?.bind fun _ => (keeps_directives true).bind fun _ => Keeps.pure _

theorem keeps_operation : Keeps operation := by
  have hrest : ∀ kind name, Keeps (do
      let definitions ← optionalMany '(' ')' variableDefinition
      let directives ← directives false
      return (⟨kind, name, definitions, directives, ← selections⟩ : Operation)) := by
    intro kind name
    refine (keeps_optionalMany keeps_variableDefinition _ _).bind fun _ => ?_
    exact (keeps_directives false).bind fun _ => keeps_selections.bind fun _ => Keeps.pure _
  refine keeps_operationKind.bind fun kind => keeps_peek.bind fun lexeme => ?_
  dsimp only
  split
  · exact gives_name.keeps.bind fun _ => (Keeps.pure _).bind fun name => hrest kind name
  · exact (Keeps.pure _).bind fun name => hrest kind name

theorem keeps_fragment : Keeps fragment := by
  refine (keeps_keyword _).bind fun _ => gives_label.keeps.bind fun label => ?_
  dsimp only
  split
  · exact (gives_throw _).stop
  · refine keeps_condition.bind fun _ => (keeps_directives false).bind fun _ => ?_
    exact keeps_selections.bind fun _ => Keeps.pure _

/-! ### Type systems -/

theorem gives_inputDefinition : Gives (fun input => IsName input.name) inputDefinition := by
  refine keeps_description?.bind fun _ => gives_name.bind fun name hname => ?_
  refine (keeps_mark _).bind fun _ => keeps_typeRef.bind fun _ => keeps_default?.bind fun _ => ?_
  exact (keeps_directives true).bind fun _ => Gives.pure hname

theorem gives_fieldDefinition : Gives (fun field => IsName field.name) fieldDefinition := by
  refine keeps_description?.bind fun _ => gives_name.bind fun name hname => ?_
  refine (keeps_optionalMany gives_inputDefinition.keeps _ _).bind fun _ => ?_
  refine (keeps_mark _).bind fun _ => keeps_typeRef.bind fun _ => ?_
  exact (keeps_directives true).bind fun _ => Gives.pure hname

theorem gives_enumValueDefinition : Gives (fun value => IsName value.name) enumValueDefinition := by
  refine keeps_description?.bind fun _ => gives_label.bind fun label hlabel => ?_
  dsimp only
  split
  · exact (gives_throw _).stop
  · exact (keeps_directives true).bind fun _ => Gives.pure hlabel

theorem keeps_interfaces : Keeps interfaces := by
  refine (keeps_keyword? _).bind fun given => ?_
  split
  · exact (gives_delimited gives_name _).keeps
  · exact Keeps.pure _

theorem keeps_directiveLocation : Keeps directiveLocation := by
  refine gives_label.keeps.bind fun label => ?_
  split
  · exact Keeps.pure _
  · exact gives_throw _

theorem keeps_rootType : Keeps rootType :=
  keeps_operationKind.bind fun _ => (keeps_mark _).bind fun _ => gives_name.keeps.bind fun _ =>
    Keeps.pure _

/-- **A type that is read has a name of the language, and so have its members.** -/
theorem gives_typeDefinition : Gives TypeDefinition.Spelled typeDefinition := by
  have hmembers : ∀ {γ : Type} {name : γ → String} {items : List γ},
      (∀ item ∈ items, IsName (name item)) → ∀ member ∈ items.map name, IsName member :=
    fun hitems => List.forall_mem_map.mpr hitems
  refine gives_label.keeps.bind fun kind => gives_name.bind fun name hname => ?_
  split
  · exact (keeps_directives true).bind fun _ => Gives.pure ⟨hname, List.forall_mem_nil _⟩
  · refine keeps_interfaces.bind fun _ => (keeps_directives true).bind fun _ => ?_
    refine (gives_optionalMany gives_fieldDefinition _ _).bind fun fields hfields => ?_
    exact Gives.pure ⟨hname, hmembers hfields⟩
  · refine keeps_interfaces.bind fun _ => (keeps_directives true).bind fun _ => ?_
    refine (gives_optionalMany gives_fieldDefinition _ _).bind fun fields hfields => ?_
    exact Gives.pure ⟨hname, hmembers hfields⟩
  · refine (keeps_directives true).bind fun _ => (keeps_mark? _).bind fun given => ?_
    refine Keeps.join (gives_delimited gives_name _).keeps (Keeps.pure _) fun _ => ?_
    exact Gives.pure ⟨hname, List.forall_mem_nil _⟩
  · refine (keeps_directives true).bind fun _ => ?_
    refine (gives_optionalMany gives_enumValueDefinition _ _).bind fun values hvalues => ?_
    exact Gives.pure ⟨hname, hmembers hvalues⟩
  · refine (keeps_directives true).bind fun _ => ?_
    refine (gives_optionalMany gives_inputDefinition _ _).bind fun fields hfields => ?_
    exact Gives.pure ⟨hname, hmembers hfields⟩
  · exact gives_throw _

theorem keeps_directiveDefinition : Keeps directiveDefinition := by
  refine (keeps_keyword _).bind fun _ => (keeps_mark _).bind fun _ => ?_
  refine gives_name.keeps.bind fun _ => ?_
  refine (keeps_optionalMany gives_inputDefinition.keeps _ _).bind fun _ => ?_
  refine (keeps_keyword? _).bind fun _ => (keeps_keyword _).bind fun _ => ?_
  exact (gives_delimited keeps_directiveLocation _).keeps.bind fun _ => Keeps.pure _

theorem gives_extension : Gives Definition.Spelled extension := by
  refine (keeps_keyword _).bind fun _ => (keeps_keyword? _).bind fun ofSchema => ?_
  split
  · refine (keeps_directives true).bind fun _ => ?_
    refine (keeps_optionalMany keeps_rootType _ _).bind fun _ => ?_
    dsimp only
    split
    · exact gives_refuse.stop
    · exact Gives.pure trivial
  · refine gives_typeDefinition.bind fun type htype => ?_
    dsimp only
    split
    · exact gives_refuse.stop
    · exact Gives.pure htype

theorem gives_definition : Gives Definition.Spelled definition := by
  refine keeps_description?.bind fun described => keeps_peek.bind fun lexeme => ?_
  split
  · dsimp only
    split
    · exact gives_refuse.stop
    · exact keeps_selections.bind fun _ => Gives.pure trivial
  · refine (keeps_keyword _).bind fun _ => (keeps_directives true).bind fun _ => ?_
    exact (keeps_many keeps_rootType _ _).bind fun _ => Gives.pure trivial
  · exact keeps_directiveDefinition.bind fun _ => Gives.pure trivial
  · split
    · exact gives_typeDefinition.bind fun type htype => Gives.pure htype
    · split
      · exact keeps_fragment.bind fun _ => Gives.pure trivial
      · split
        · dsimp only
          split
          · exact gives_refuse.stop
          · exact gives_extension
        · exact keeps_operation.bind fun _ => Gives.pure trivial
  · exact gives_refuse

theorem gives_definitionsWithin (n : Nat) :
    Gives (fun definitions => ∀ definition ∈ definitions, definition.Spelled)
      (definitionsWithin n) := by
  induction n with
  | zero => exact gives_refuse
  | succ n ih =>
    refine keeps_peek.bind fun lexeme => ?_
    split
    · exact Gives.pure (List.forall_mem_nil _)
    · refine gives_definition.bind fun first hfirst => ih.bind fun rest hrest => ?_
      exact Gives.pure (List.forall_mem_cons.mpr ⟨hfirst, hrest⟩)

theorem gives_document :
    Gives (fun document => ∀ definition ∈ document.definitions, definition.Spelled) document := by
  refine gives_definition.bind fun first hfirst => keeps_bound.bind fun n => ?_
  refine (gives_definitionsWithin n).bind fun rest hrest => ?_
  exact Gives.pure (List.forall_mem_cons.mpr ⟨hfirst, hrest⟩)

end Parser

/-! ### Documents -/

namespace Document

/-- The types and extensions of a document, with their members, have names of the language. -/
def Spelled (document : Document) : Prop :=
  ∀ type ∈ document.allTypes, type.Spelled

/-- **Whatever a text declares has a name of the language.** -/
theorem spelled_of_parse {source : String} {document : Document}
    (h : Document.parse source = .ok document) : document.Spelled := by
  obtain ⟨tokens, htokens, h⟩ := Fallible.bind_eq_ok.mp h
  obtain ⟨⟨read, rest⟩, hread, h⟩ := Fallible.bind_eq_ok.mp h
  obtain rfl := Except.ok.inj h
  obtain ⟨hspelled, -⟩ := Parser.gives_document _ _ _ _ (named_readAll htokens) hread
  intro type ht
  rw [allTypes, List.mem_filterMap] at ht
  obtain ⟨definition, hdefinition, hkind⟩ := ht
  have hdefined := hspelled definition hdefinition
  cases definition with
  | type own | typeExtension own =>
    obtain rfl := Option.some.inj hkind
    exact hdefined
  | operation | fragment | root | rootExtension | directive => cases hkind

end Document

end GraphQL

end SchemaVisibility
