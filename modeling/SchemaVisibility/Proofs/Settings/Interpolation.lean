import Mathlib.Data.List.Infix
import SchemaVisibility.Proofs.GraphQL.Naming
import SchemaVisibility.Settings.Placeholder

/-! # Placeholders in a template

`Spells` says how the placeholder of a variable is written, without reading anything. The reader
finds a placeholder exactly where one is written (`read?_append`, `exists_spells_of_read?`). Its
opening brace is the only one in it, so of two placeholders in a text neither begins inside the
other (`Spells.within`). Therefore a template can be cut before and after any of its placeholders,
whatever stands around it (`substitute_append`).

Cut at all of its placeholders, a template is the text before the first and then slots, each with
the text up to the next one (`exists_slots`). The cut does not depend on the values, which take the
places of the placeholders and are not looked at.
-/

namespace SchemaVisibility

/-! ### Names and blanks -/

namespace Text

variable {name : String} {rest : List Char} {c : Char}

/-- How a name is written: a character that it may start with, and others that it may go on with. -/
theorem isName_iff : IsName name ↔ ∃ first more, name.toList = first :: more ∧
    isNameStart first = true ∧ ∀ c ∈ more, isNamePart c = true := by
  constructor
  · intro h
    rw [IsName] at h
    generalize name.toList = word at h ⊢
    cases word with
    | nil => cases h
    | cons first more =>
      rw [name?] at h
      split at h
      · next hstart =>
        simp only [Option.some.injEq, Prod.mk.injEq, List.cons.injEq, true_and] at h
        exact ⟨first, more, rfl, hstart, List.takeWhile_eq_self_iff.mp h.1⟩
      · cases h
  · rintro ⟨first, more, hname, hstart, hmore⟩
    rw [IsName, hname, name?, if_pos hstart, List.takeWhile_eq_self_iff.mpr hmore,
      List.dropWhile_eq_nil_iff.mpr hmore]

/-- A name is split off a text if no character that it could go on with follows. -/
theorem name?_append_of_isName (h : IsName name) (hc : isNamePart c = false) :
    name? (name.toList ++ c :: rest) = some (name.toList, c :: rest) := by
  obtain ⟨first, more, hname, hstart, hmore⟩ := isName_iff.mp h
  have hno : ¬ isNamePart c = true := by simp [hc]
  rw [hname, List.cons_append, name?, if_pos hstart, List.takeWhile_append_of_pos hmore,
    List.dropWhile_append_of_pos hmore, List.takeWhile_cons_of_neg hno,
    List.dropWhile_cons_of_neg hno, List.append_nil]

/-- No blank goes on with a name. -/
theorem isNamePart_of_isBlank (h : isBlank c = true) : isNamePart c = false := by
  rw [Bool.eq_false_iff]
  intro hpart
  have hcode : c.val.toNat = c.toNat := rfl
  have hrange : 48 ≤ c.toNat ∧ c.toNat ≤ 122 := by
    simp only [isNamePart, isNameStart, Bool.or_eq_true, Bool.and_eq_true, decide_eq_true_eq,
      beq_iff_eq, Char.le_def, UInt32.le_iff_toNat_le, hcode, Char.reduceVal, UInt32.reduceToNat]
      at hpart
    rcases hpart with ((hlower | hupper) | rfl) | hdigit
    · omega
    · omega
    · decide
    · omega
  simp only [isBlank, blankRanges, List.any_cons, List.any_nil, Bool.or_false, Bool.or_eq_true,
    Bool.and_eq_true, decide_eq_true_eq] at h
  omega

theorem skipBlanks_append {front : List Char} (hfront : ∀ c ∈ front, isBlank c = true)
    (hc : isBlank c = false) : skipBlanks (front ++ c :: rest) = c :: rest := by
  rw [skipBlanks, List.dropWhile_append_of_pos hfront, List.dropWhile_cons_of_neg]
  simp [hc]

theorem exists_blanks_append (text : List Char) :
    ∃ front, (∀ c ∈ front, isBlank c = true) ∧ text = front ++ skipBlanks text :=
  ⟨text.takeWhile isBlank, fun _ hc => List.mem_takeWhile_imp hc,
    List.takeWhile_append_dropWhile.symm⟩

end Text

namespace Settings

open Text

namespace Placeholder

/-- **The placeholder of a variable** as it is written: a brace, blanks, `env.` with the name,
blanks, and the closing brace. -/
def Spells (text : List Char) (name : String) : Prop :=
  IsName name ∧ ∃ front back : List Char, (∀ c ∈ front, isBlank c = true) ∧
    (∀ c ∈ back, isBlank c = true) ∧
      text = '{' :: (front ++ ("env.".toList ++ (name.toList ++ (back ++ ['}']))))

/-- A text in which no placeholder is written. -/
def Plain (text : List Char) : Prop :=
  ∀ placeholder name, Spells placeholder name → ¬ placeholder <:+: text

variable {text placeholder rest : List Char} {name : String}

/-! ### Reading a placeholder -/

/-- A placeholder at the front of a text is read, up to its end. -/
theorem read?_append (h : Spells placeholder name) :
    read? (placeholder ++ rest) = some (name.toList, rest) := by
  obtain ⟨hname, front, back, hfront, hback, rfl⟩ := h
  have hopen : skipBlanks (front ++ ("env.".toList ++ (name.toList ++ (back ++ '}' :: rest)))) =
      "env.".toList ++ (name.toList ++ (back ++ '}' :: rest)) :=
    skipBlanks_append hfront (by decide)
  have hend : name? (name.toList ++ (back ++ '}' :: rest)) =
      some (name.toList, back ++ '}' :: rest) := by
    cases back with
    | nil => exact name?_append_of_isName hname (by decide)
    | cons c back =>
      exact name?_append_of_isName hname (isNamePart_of_isBlank (hback c List.mem_cons_self))
  have hclose : skipBlanks (back ++ '}' :: rest) = '}' :: rest :=
    skipBlanks_append hback (by decide)
  simp only [List.cons_append, List.append_assoc, List.nil_append]
  rw [read?, hopen]
  simp only [after?, String.reduceToList, List.cons_append, List.nil_append, hend, hclose]

theorem eq_append_of_after? (h : after? text = some rest) : text = "env.".toList ++ rest := by
  unfold after? at h
  split at h
  · cases h
    rfl
  · cases h

/-- What is read as a placeholder is one. -/
theorem exists_spells_of_read? {word : List Char} (h : read? text = some (word, rest)) :
    ∃ placeholder, Spells placeholder (String.ofList word) ∧ text = placeholder ++ rest := by
  unfold read? at h
  split at h
  · next text =>
    split at h
    · cases h
    · next inner hafter =>
      split at h
      · cases h
      · next found tail hfound =>
        split at h
        · next last hlast =>
          simp only [Option.some.injEq, Prod.mk.injEq] at h
          obtain ⟨rfl, rfl⟩ := h
          obtain ⟨front, hfront, htext⟩ := exists_blanks_append text
          obtain ⟨back, hback, htail⟩ := exists_blanks_append tail
          rw [eq_append_of_after? hafter, ← name?_append hfound, htail, hlast] at htext
          refine ⟨_, ⟨isName_of_name? hfound, front, back, hfront, hback, rfl⟩, ?_⟩
          rw [htext, String.toList_ofList]
          simp
        · cases h
  · cases h

/-! ### Cutting at a placeholder -/

/-- The opening brace of a placeholder is the only one in it. -/
theorem Spells.exists_tail (h : Spells placeholder name) :
    ∃ tail, placeholder = '{' :: tail ∧ '{' ∉ tail := by
  obtain ⟨hname, front, back, hfront, hback, rfl⟩ := h
  have hblank : isBlank '{' = false := by decide
  have hno : ∀ blanks : List Char, (∀ c ∈ blanks, isBlank c = true) → '{' ∉ blanks :=
    fun blanks hblanks hmem => Bool.false_ne_true (hblank.symm.trans (hblanks _ hmem))
  refine ⟨_, rfl, ?_⟩
  simp only [List.mem_append, not_or]
  exact ⟨hno front hfront, by decide, hname.not_mem (by decide), hno back hback, by decide⟩

/-- A placeholder that a text begins with, and that is not at the end of it, lies before any
placeholder that is written further on. -/
theorem Spells.within {first before after : List Char} {other : String}
    (hfirst : Spells first other) (h : Spells placeholder name) (hbefore : before ≠ [])
    (htext : before ++ (placeholder ++ after) = first ++ rest) :
    ∃ more, before = first ++ more ∧ rest = more ++ (placeholder ++ after) := by
  rcases List.append_eq_append_iff.mp htext with ⟨inside, hcut, hrest⟩ | ⟨more, hcut, hrest⟩
  · obtain ⟨tail, rfl, -⟩ := h.exists_tail
    obtain ⟨last, rfl, hlast⟩ := hfirst.exists_tail
    cases inside with
    | nil => exact ⟨[], by rw [List.append_nil] at hcut ⊢; exact hcut.symm, hrest.symm⟩
    | cons c inside =>
      -- the second opening brace would stand inside the first placeholder
      obtain ⟨rfl, -⟩ := List.cons.inj hrest
      cases before with
      | nil => exact absurd rfl hbefore
      | cons d before =>
        obtain ⟨-, rfl⟩ := List.cons.inj hcut
        exact absurd (List.mem_append_right before List.mem_cons_self) hlast
  · exact ⟨more, hcut, hrest⟩

/-! ### Replacing -/

variable {env : Environment}

theorem substitute_nil : substitute env [] = [] := by
  rw [substitute]
  rfl

theorem substitute_of_none {c : Char} (h : read? (c :: rest) = none) :
    substitute env (c :: rest) = c :: substitute env rest := by
  rw [substitute]
  split
  · next hsome =>
    rw [h] at hsome
    cases hsome
  · rfl

/-- A placeholder at the front of a text is replaced, and what follows it is a text of its own. -/
theorem substitute_spells (h : Spells placeholder name) :
    substitute env (placeholder ++ rest) = (env.value name).toList ++ substitute env rest := by
  have hread : read? (placeholder ++ rest) = some (name.toList, rest) := read?_append h
  rw [substitute]
  split
  · next hsome =>
    rw [hread] at hsome
    cases hsome
    rw [String.ofList_toList]
  · next hnone =>
    rw [hread] at hnone
    cases hnone

/-- **A template is cut at any of its placeholders**, whatever stands before and after it. -/
theorem substitute_append {after : List Char} (h : Spells placeholder name) (before : List Char) :
    substitute env (before ++ (placeholder ++ after)) =
      substitute env before ++ ((env.value name).toList ++ substitute env after) := by
  cases before with
  | nil => rw [List.nil_append, substitute_spells h, substitute_nil, List.nil_append]
  | cons c before =>
    cases hread : read? (c :: before ++ (placeholder ++ after)) with
    | some found =>
      obtain ⟨word, rest⟩ := found
      obtain ⟨first, hfirst, htext⟩ := exists_spells_of_read? hread
      obtain ⟨more, hmore, rfl⟩ := hfirst.within h (List.cons_ne_nil c before) htext
      have hless : more.length < before.length + 1 := by
        obtain ⟨tail, rfl, -⟩ := hfirst.exists_tail
        rw [← List.length_cons, hmore, List.length_append, List.length_cons]
        omega
      rw [htext, hmore, substitute_spells hfirst, substitute_spells hfirst,
        substitute_append h more, List.append_assoc]
    | none =>
      have hnone : read? (c :: before) = none := by
        cases hbefore : read? (c :: before) with
        | none => rfl
        | some found =>
          -- a placeholder at the front would be one with more text behind it, too
          obtain ⟨first, hfirst, htext⟩ := exists_spells_of_read? hbefore
          rw [htext, List.append_assoc, read?_append hfirst] at hread
          cases hread
      rw [List.cons_append] at hread ⊢
      rw [substitute_of_none hread, substitute_of_none hnone, substitute_append h before,
        List.cons_append]
termination_by before.length
decreasing_by
  · subst_vars
    exact Nat.lt_succ_self _
  · subst_vars
    exact hless

/-! ### The slots of a template -/

/-- A placeholder of a template, with the text up to the next one. -/
structure Slot where
  text : List Char
  name : String
  after : List Char
  spells : Spells text name
  plain : Plain after

/-- A slot as it stands in the template. -/
def Slot.source (slot : Slot) : List Char :=
  slot.text ++ slot.after

/-- A slot with the value of its variable. -/
def Slot.filled (env : Environment) (slot : Slot) : List Char :=
  (env.value slot.name).toList ++ slot.after

/-- A text that is too short for a placeholder is plain. -/
theorem plain_of_length_le (h : text.length ≤ 5) : Plain text := by
  rintro placeholder name ⟨-, front, back, -, -, rfl⟩ hinfix
  have hlength := hinfix.length_le
  simp only [List.length_cons, List.length_append, String.reduceToList] at hlength
  omega

/-- A character at which no placeholder is read leaves the text behind it plain. -/
theorem Plain.cons {c : Char} {start : List Char} (h : Plain start)
    (hread : read? (c :: (start ++ rest)) = none) : Plain (c :: start) := by
  intro placeholder name hspells hinfix
  rcases List.infix_cons_iff.mp hinfix with ⟨more, hprefix⟩ | hinfix
  · rw [← List.cons_append, ← hprefix, List.append_assoc, read?_append hspells] at hread
    cases hread
  · exact h placeholder name hspells hinfix

/-- **The slots of a template.** It is plain text and then slots, and to replace its placeholders is
to fill the slots, whatever the values are. -/
theorem exists_slots (text : List Char) :
    ∃ (start : List Char) (slots : List Slot), Plain start ∧
      text = start ++ slots.flatMap Slot.source ∧
      ∀ env, substitute env text = start ++ slots.flatMap (Slot.filled env) := by
  cases hread : read? text with
  | some found =>
    obtain ⟨word, rest⟩ := found
    obtain ⟨placeholder, hspells, rfl⟩ := exists_spells_of_read? hread
    have hless := length_read?_lt hread
    obtain ⟨start, slots, hstart, hrest, hfilled⟩ := exists_slots rest
    refine ⟨[], ⟨placeholder, _, start, hspells, hstart⟩ :: slots,
      plain_of_length_le (Nat.zero_le 5), ?_, fun env => ?_⟩
    · rw [List.nil_append, List.flatMap_cons, Slot.source, List.append_assoc, ← hrest]
    · rw [List.nil_append, List.flatMap_cons, Slot.filled, List.append_assoc, ← hfilled,
        substitute_spells hspells]
  | none =>
    cases text with
    | nil => exact ⟨[], [], plain_of_length_le (Nat.zero_le 5), rfl, fun _ => substitute_nil⟩
    | cons c rest =>
      obtain ⟨start, slots, hstart, hrest, hfilled⟩ := exists_slots rest
      refine ⟨c :: start, slots, hstart.cons (hrest ▸ hread), ?_, fun env => ?_⟩
      · rw [List.cons_append, ← hrest]
      · rw [substitute_of_none hread, hfilled, List.cons_append]
termination_by text.length

theorem infix_of_mem_slots {slots : List Slot} {slot : Slot} (start : List Char)
    (h : slot ∈ slots) : slot.text <:+: start ++ slots.flatMap Slot.source := by
  obtain ⟨before, after, rfl⟩ := List.append_of_mem h
  refine ⟨start ++ before.flatMap Slot.source, slot.after ++ after.flatMap Slot.source, ?_⟩
  simp only [List.flatMap_append, List.flatMap_cons, Slot.source, List.append_assoc]

/-- Plain text has no slots, and stays as it is. -/
theorem substitute_of_plain (h : Plain text) : substitute env text = text := by
  obtain ⟨start, slots, -, htext, hfilled⟩ := exists_slots text
  cases slots with
  | nil => rw [hfilled, htext, List.flatMap_nil, List.flatMap_nil]
  | cons slot slots =>
    refine absurd ?_ (h slot.text slot.name slot.spells)
    rw [htext]
    exact infix_of_mem_slots start List.mem_cons_self

/-- Only variables that have a placeholder in a text are looked up for it. -/
theorem substitute_congr {other : Environment}
    (h : ∀ placeholder name, Spells placeholder name → placeholder <:+: text →
      env.value name = other.value name) : substitute env text = substitute other text := by
  obtain ⟨start, slots, -, htext, hfilled⟩ := exists_slots text
  rw [hfilled, hfilled]
  congr 1
  refine List.flatMap_congr fun slot hslot => ?_
  rw [Slot.filled, Slot.filled, h slot.text slot.name slot.spells]
  rw [htext]
  exact infix_of_mem_slots start hslot

end Placeholder

open Placeholder

theorem toList_interpolate (env : Environment) (template : String) :
    (interpolate env template).toList = substitute env template.toList :=
  String.toList_ofList

/-- **To replace the placeholders of a template is one literal substitution.** A template can be cut
at any of its placeholders, which then gives way to the value of its variable as it is, while what
stands before and after it are templates of their own; a template in which no placeholder is written
stays the same. So it does not matter at which placeholder a template is cut first. The places that
are filled are those of the template alone: no value, and nothing that a value forms with the text
around it, is replaced again, and only the variables of these places have an influence. -/
theorem interpolates_at_once :
    (∀ (env : Environment) (before placeholder after name : String),
      Spells placeholder.toList name →
        interpolate env (before ++ placeholder ++ after) =
          interpolate env before ++ env.value name ++ interpolate env after) ∧
    (∀ (env : Environment) (template : String), Plain template.toList →
      interpolate env template = template) ∧
    (∀ (env : Environment) (before placeholder after name before' placeholder' after' name' :
        String), Spells placeholder.toList name → Spells placeholder'.toList name' →
      before ++ placeholder ++ after = before' ++ placeholder' ++ after' →
        interpolate env before ++ env.value name ++ interpolate env after =
          interpolate env before' ++ env.value name' ++ interpolate env after') ∧
    (∀ template : String, ∃ (start : List Char) (slots : List Slot), Plain start ∧
      template.toList = start ++ slots.flatMap Slot.source ∧
      ∀ env, (interpolate env template).toList = start ++ slots.flatMap (Slot.filled env)) ∧
    ∀ (env other : Environment) (template : String),
      (∀ placeholder name, Spells placeholder name → placeholder <:+: template.toList →
        env.value name = other.value name) →
      interpolate env template = interpolate other template := by
  have hcut : ∀ (env : Environment) (before placeholder after name : String),
      Spells placeholder.toList name → interpolate env (before ++ placeholder ++ after) =
        interpolate env before ++ env.value name ++ interpolate env after := by
    intro env before placeholder after name h
    refine String.toList_inj.mp ?_
    simp only [String.toList_append, toList_interpolate, List.append_assoc]
    exact substitute_append h before.toList
  refine ⟨hcut, fun env template h => ?_, fun env _ _ _ _ _ _ _ _ h h' heq => ?_,
    fun template => ?_, fun env other template h => ?_⟩
  · rw [interpolate, substitute_of_plain h, String.ofList_toList]
  · rw [← hcut env _ _ _ _ h, heq, hcut env _ _ _ _ h']
  · simp only [toList_interpolate]
    exact exists_slots template.toList
  · rw [interpolate, substitute_congr h, interpolate]

/-- A value that a brace on both sides would make a placeholder, of a variable that is set. -/
theorem interpolates_at_once_in_braces :
    ∃ (env : Environment) (placeholder : String), Spells placeholder.toList "NAME" ∧
      env.value "NAME" = "env.FLAG" ∧ env.value "FLAG" = "true" ∧
      interpolate env ("\x7b" ++ placeholder ++ "\x7d") = "\x7benv.FLAG\x7d" := by
  let env : Environment := [("NAME", "env.FLAG"), ("FLAG", "true")]
  let placeholder := "\x7b env.NAME\t\x7d"
  have hspells : Spells placeholder.toList "NAME" :=
    ⟨by decide, [' '], ['\t'], List.forall_mem_singleton.mpr (by decide),
      List.forall_mem_singleton.mpr (by decide), by decide⟩
  obtain ⟨hcut, hplain, -⟩ := interpolates_at_once
  refine ⟨env, placeholder, hspells, rfl, rfl, ?_⟩
  rw [hcut env _ _ _ _ hspells, hplain env "\x7b" (plain_of_length_le (by decide)),
    hplain env "\x7d" (plain_of_length_le (by decide))]
  decide

end Settings

end SchemaVisibility
