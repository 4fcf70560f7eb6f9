import SchemaVisibility.Access.Validation
import SchemaVisibility.Introspection.Redaction
import SchemaVisibility.Proofs.Fallible

/-! # Registries with the same records

A registry is read in three ways: name by name, owner by owner, and record by record. All three tell
of the records that were put in last, whatever stood there before. None of the readers asks for
their order or how often one of them occurs. So registries with the same records are the same to a
rule (`Visit.Beside` holds of visits with such registries all along) and to a redaction
(`redact_eq_of_sameRecords`), and `answers_of_last_records` puts this together.
-/

namespace SchemaVisibility

open GraphQL

namespace Registry

/-- Two registries hold the same records, in any order and any number. -/
def SameRecords (one other : Registry) : Prop :=
  ∀ record, record ∈ one.records ↔ record ∈ other.records

variable {one other : Registry}

theorem SameRecords.refl (registry : Registry) : registry.SameRecords registry :=
  fun _ => Iff.rfl

theorem SameRecords.isPrivate_eq (h : one.SameRecords other) (owner name : String) :
    one.isPrivate owner name = other.isPrivate owner name := by
  rw [Bool.eq_iff_iff, isPrivate_iff, isPrivate_iff]
  exact h _

/-- A registry holds what was put in last. -/
theorem records_foldl_replace (start : List Record) (batches : List (List Record)) :
    (batches.foldl replace (ofRecords start)).records = batches.getLast?.getD start := by
  rcases List.eq_nil_or_concat batches with rfl | ⟨before, last, rfl⟩
  · rfl
  · rw [List.concat_eq_append, List.foldl_append, List.getLast?_append]
    rfl

end Registry

/-! ### Rules -/

namespace Access

variable {one other : Registry}

/-- A rule does the same at a node with either registry. -/
theorem enter_eq_of_sameRecords (h : one.SameRecords other) (schema : Schema) (scope : Scope)
    (memory : Memory) (node : Node) :
    enter one schema scope memory node = enter other schema scope memory node := by
  have htype : checkType one = checkType other := by
    funext position type place
    cases type with
    | none => rfl
    | some type => rw [checkType, checkType, h.isPrivate_eq]
  have hmember : checkMember one = checkMember other := by
    funext label owner
    rw [checkMember, checkMember, h.isPrivate_eq]
  cases node with
  | field head => simp only [enter, checkField, htype, hmember]
  | argument label => simp only [enter, checkArgument, htype, h.isPrivate_eq]
  | declaredVariable label type => simp only [enter, htype]
  | objectField label => simp only [enter, checkObjectField, hmember]
  | enumValue label => simp only [enter, checkEnumValue, hmember]
  | _ => rfl

/-- Two visits are at one place, and their rules remember the same and have the same records. -/
structure Visit.Beside (visit against : Visit) : Prop where
  scope : visit.scope = against.scope
  rules : List.Forall₂ (fun a b => a.1.SameRecords b.1 ∧ a.2 = b.2) visit.rules against.rules

namespace Visit.Beside

variable {visit against : Visit} {schema : Schema}

/-- An event is denied alike in both visits, and leaves them beside each other. -/
theorem step (h : visit.Beside against) (event : Event) :
    (visit.step schema event).1.Beside (against.step schema event).1 ∧
      (visit.step schema event).2 = (against.step schema event).2 := by
  obtain ⟨scope, rules⟩ := visit
  obtain ⟨scope', others⟩ := against
  obtain ⟨hscope, hrules⟩ := h
  dsimp only at hscope hrules
  subst hscope
  cases event with
  | enter node =>
    induction hrules with
    | nil => exact ⟨⟨rfl, .nil⟩, rfl⟩
    | @cons a b _ _ hab _ ih =>
      have heq : enter a.1 schema (schema.enter scope node) a.2 node =
          enter b.1 schema (schema.enter scope node) b.2 node := by
        rw [hab.2, enter_eq_of_sameRecords hab.1]
      refine ⟨⟨rfl, .cons ⟨hab.1, congrArg Prod.fst heq⟩ ih.1.rules⟩, ?_⟩
      exact congrArg₂ (· ++ ·) (congrArg Prod.snd heq) ih.2
  | leave node =>
    refine ⟨⟨rfl, ?_⟩, rfl⟩
    refine List.forall₂_map_left_iff.mpr (List.forall₂_map_right_iff.mpr (hrules.imp ?_))
    exact fun a b hab => ⟨hab.1, congrArg (leave · node) hab.2⟩

theorem run_eq (h : visit.Beside against) (events : List Event) :
    Visit.run schema visit events = Visit.run schema against events := by
  induction events generalizing visit against with
  | nil => rfl
  | cons event rest ih =>
    obtain ⟨hnext, hdenials⟩ := h.step event
    exact congrArg₂ (· ++ ·) hdenials (ih hnext)

end Visit.Beside

/-- Rules with the same records deny the same. -/
theorem denials_eq_of_sameRecords {registries others : List Registry}
    (h : List.Forall₂ Registry.SameRecords registries others) (schema : Schema)
    (document : Document) :
    denials schema registries document = denials schema others document := by
  have hstart : (Visit.start registries).Beside (Visit.start others) := by
    refine ⟨rfl, List.forall₂_map_left_iff.mpr (List.forall₂_map_right_iff.mpr (h.imp ?_))⟩
    exact fun a b hab => ⟨hab, rfl⟩
  exact hstart.run_eq document.events

end Access

/-! ### Redaction -/

namespace Introspection

open Redaction Fallible

variable {one other : Registry} {fragments : Fragments}

theorem keeps_eq_of_mem_iff {hidden names : List String}
    (h : ∀ name, name ∈ hidden ↔ name ∈ names) : keeps hidden = keeps names := by
  funext children entry
  have hcontains : ∀ name, hidden.contains name = names.contains name := by
    intro name
    rw [Bool.eq_iff_iff, List.contains_iff_mem, List.contains_iff_mem]
    exact h name
  cases entry with
  | obj members => simp only [keeps, hcontains]
  | _ => rfl

theorem filterMembers_eq_of_mem_iff {hidden names : List String}
    (h : ∀ name, name ∈ hidden ↔ name ∈ names) :
    filterMembers fragments hidden = filterMembers fragments names := by
  have hkept : keptEntries hidden = keptEntries names := by
    funext children entries
    induction entries with
    | nil => rfl
    | cons entry rest ih => rw [keptEntries, keptEntries, keeps_eq_of_mem_iff h, ih]
  funext object child
  rw [filterMembers, filterMembers, hkept]

/-- What is hidden in the descriptor of an owner is the same, or for neither registry told. -/
theorem hiddenNames_cases (h : one.SameRecords other) (owner : Json) :
    (∃ failure, hiddenNames one owner = .error failure ∧
        hiddenNames other owner = .error failure) ∨
      ∃ hidden names, hiddenNames one owner = .ok hidden ∧ hiddenNames other owner = .ok names ∧
        ∀ name, name ∈ hidden ↔ name ∈ names := by
  cases owner with
  | null =>
    refine Or.inr ⟨_, _, rfl, rfl, fun name => ?_⟩
    simp only [Registry.mem_memberNames, h _]
  | str owner =>
    refine Or.inr ⟨_, _, rfl, rfl, fun name => ?_⟩
    rw [Registry.mem_privateNames, Registry.mem_privateNames]
    exact h _
  | arr _ => exact Or.inl ⟨_, rfl, rfl⟩
  | obj _ => exact Or.inl ⟨_, rfl, rfl⟩
  | _ => exact Or.inr ⟨_, _, rfl, rfl, fun _ => Iff.rfl⟩

theorem descriptor_eq_of_sameRecords (h : one.SameRecords other) :
    descriptor one fragments = descriptor other fragments := by
  funext children literal object
  rw [descriptor, descriptor]
  rcases hiddenNames_cases h (owner object children literal) with
    ⟨failure, hone, hother⟩ | ⟨hidden, names, hone, hother, hmem⟩
  · rw [hone, hother]
  · have hempty : hidden.isEmpty = names.isEmpty := by
      rw [Bool.eq_iff_iff, List.isEmpty_iff, List.isEmpty_iff, List.eq_nil_iff_forall_not_mem,
        List.eq_nil_iff_forall_not_mem]
      simp only [hmem]
    rw [hone, hother, ok_bind, ok_bind, hempty, filterMembers_eq_of_mem_iff hmem]

theorem walk_eq_of_sameRecords (h : one.SameRecords other) (n : Nat) :
    walk one fragments n = walk other fragments n := by
  induction n with
  | zero => rfl
  | succ n ih =>
    funext literal kind field value
    cases value with
    | arr items => simp only [walk, ih]
    | obj object => simp only [walk, ih, descriptor_eq_of_sameRecords h]
    | _ => rfl

/-- A redaction comes to the same with either registry, and fails alike. -/
theorem redact_eq_of_sameRecords (h : one.SameRecords other) : redact one = redact other := by
  have hroot : Redaction.root one = Redaction.root other := by
    funext fragments depth data field
    simp only [Redaction.root, walk_eq_of_sameRecords h]
  funext document operationName data
  rw [redact, redact, hroot]

end Introspection

namespace Registry

/-- **A registry answers by the records that were put in last**, however it came by them: every
question is answered by whether a record is among them, and reading them gives the list as it was
put in. Any other list of the same records, in any order and with any repetitions, validates every
document beside any other rules and redacts all data in the same way, failures included. -/
theorem answers_of_last_records (start : List Record) (batches : List (List Record)) :
    let registry := batches.foldl replace (ofRecords start)
    let records := batches.getLast?.getD start
    registry.records = records ∧
      (∀ owner name,
        (registry.isPrivate owner name = true ↔ ⟨owner, name⟩ ∈ records) ∧
        (name ∈ registry.privateNames owner ↔ ⟨owner, name⟩ ∈ records) ∧
        (registry.holds (some ⟨owner, name⟩) = true ↔ ⟨owner, name⟩ ∈ records)) ∧
      (∀ name, name ∈ registry.memberNames ↔
        ∃ owner, owner ≠ Record.topLevel ∧ ⟨owner, name⟩ ∈ records) ∧
      ∀ others : List Record, (∀ record, record ∈ others ↔ record ∈ records) →
        (∀ (schema : Schema) (before after : List Registry) (document : Document),
          Access.reportOf (Access.denials schema (before ++ ofRecords others :: after) document) =
            Access.reportOf (Access.denials schema (before ++ registry :: after) document)) ∧
        (∀ (document : Document) (operationName : Option String) (data : Json),
          Introspection.redact (ofRecords others) document operationName data =
            Introspection.redact registry document operationName data) ∧
        ∀ (text : String) (operationName : Option String) (data : Json),
          Introspection.redactText (ofRecords others) text operationName data =
            Introspection.redactText registry text operationName data := by
  intro registry records
  have hrecords : registry.records = records := records_foldl_replace start batches
  refine ⟨hrecords, fun owner name => ?_, fun name => ?_, fun others hothers => ?_⟩
  · rw [← hrecords, holds, isPrivate_iff, mem_privateNames]
    exact ⟨Iff.rfl, Iff.rfl, Iff.rfl⟩
  · rw [← hrecords, mem_memberNames]
  have hsame : (ofRecords others).SameRecords registry := by
    intro record
    rw [hrecords]
    exact hothers record
  have hredact := Introspection.redact_eq_of_sameRecords hsame
  refine ⟨fun schema before after document => congrArg _ ?_, fun document operationName data => ?_,
    fun text operationName data => ?_⟩
  · refine Access.denials_eq_of_sameRecords (List.rel_append ?_ ?_) schema document
    · exact List.forall₂_same.mpr fun a _ => .refl a
    · exact .cons hsame (List.forall₂_same.mpr fun a _ => .refl a)
  · rw [hredact]
  · rw [Introspection.redactText, Introspection.redactText, hredact]

/-- A registry whose records were replaced twice, and the same records in another order with one of
them repeated: both take the same field out of a description. -/
theorem answers_of_shuffled_records :
    ∃ (batches : List (List Record)) (others : List Record) (text : String) (data result : Json),
      (∀ record, record ∈ others ↔ record ∈ batches.getLast?.getD []) ∧
        others ≠ batches.getLast?.getD [] ∧ result ≠ data ∧
        Introspection.redactText (batches.foldl replace (ofRecords [])) text none data =
          .ok result ∧
        Introspection.redactText (ofRecords others) text none data = .ok result := by
  let ssn : Record := ⟨"User", "ssn"⟩
  let user : Record := ⟨Record.topLevel, "User"⟩
  let batches : List (List Record) := [[⟨"User", "id"⟩], [user, ssn]]
  let others : List Record := [ssn, user, ssn]
  let text := "\x7b __type(name: \"User\") \x7b name fields \x7b name \x7d \x7d \x7d"
  let about (fields : List String) : Json :=
    .obj [("__type", .obj [("name", .str "User"),
      ("fields", .arr (fields.map fun name => .obj [("name", .str name)]))])]
  have hothers : ∀ record, record ∈ others ↔ record ∈ batches.getLast?.getD [] := by
    intro record
    change record ∈ others ↔ record ∈ [user, ssn]
    simp only [others, List.mem_cons, List.not_mem_nil, or_false]
    exact or_iff_right_of_imp Or.inr
  have hresult : Introspection.redactText (batches.foldl replace (ofRecords [])) text none
      (about ["id", "ssn"]) = .ok (about ["id"]) :=
    Fallible.toOption_eq_some.mp (by decide +kernel)
  obtain ⟨-, -, -, hsame⟩ := answers_of_last_records [] batches
  obtain ⟨-, -, hredact⟩ := hsame others hothers
  exact ⟨batches, others, text, about ["id", "ssn"], about ["id"], hothers, by decide,
    by decide +kernel, hresult, (hredact text none _).trans hresult⟩

end Registry

end SchemaVisibility
