import Mathlib.Data.List.Basic
import SchemaVisibility.Schema.Coordinate

/-! # Reading coordinates

What `Reference.ofText` makes of a text. A type without a point in its name is read as it stands,
with a point behind it, and in front of a member (`ofText_type`, `ofText_trailing`,
`ofText_member`, `ofText_argument`). Conversely each text is spelled in one of these ways from what
is read of it (`Reference.Spells`, `spells_ofText`): no text is refused at this stage.
-/

namespace SchemaVisibility.Coordinate

/-! ### Splitting -/

section Splitting

variable {c : Char} {before after : List Char}

theorem splitAt_of_not_mem (h : c ∉ before) : splitAt c before = (before, []) := by
  have hall : ∀ d ∈ before, (d != c) = true := by
    intro d hd
    exact bne_iff_ne.mpr fun heq => h (heq ▸ hd)
  rw [splitAt, ← List.append_nil before, List.takeWhile_append_of_pos hall,
    List.dropWhile_append_of_pos hall]
  rfl

theorem splitAt_append (h : c ∉ before) : splitAt c (before ++ c :: after) = (before, after) := by
  have hall : ∀ d ∈ before, (d != c) = true := by
    intro d hd
    exact bne_iff_ne.mpr fun heq => h (heq ▸ hd)
  rw [splitAt, List.takeWhile_append_of_pos hall, List.dropWhile_append_of_pos hall]
  simp

theorem closesArgument_iff {text : List Char} :
    closesArgument text = true ↔ ∃ front, text = front ++ [':', ')'] := by
  constructor
  · intro h
    rw [closesArgument] at h
    split at h
    · next front hreverse =>
      refine ⟨front.reverse, ?_⟩
      rw [← List.reverse_reverse text, hreverse, List.reverse_cons, List.reverse_cons,
        List.append_assoc]
      rfl
    · cases h
  · rintro ⟨front, rfl⟩
    rw [closesArgument, List.reverse_append]
    rfl

end Splitting

/-! ### What is read -/

namespace Reference

variable {type member field argument text : String}

/-- **How a text is spelled** from what is read of it: as a type alone, with a point and what may be
a member, or with an argument in parentheses. -/
inductive Spells : Reference → String → Prop
  | type {type : String} : Spells ⟨type, "", none⟩ type
  | member {type member : String} : Spells ⟨type, member, none⟩ (type ++ "." ++ member)
  | argument {type field argument : String} :
      Spells ⟨type, field, some argument⟩ (type ++ "." ++ field ++ "(" ++ argument ++ ":)")

theorem toList_pointed (type member : String) :
    (type ++ "." ++ member).toList = type.toList ++ '.' :: member.toList := by
  rw [String.toList_append, String.toList_append, List.append_assoc]
  rfl

theorem toList_closed (field argument : String) :
    (field ++ "(" ++ argument ++ ":)").toList =
      field.toList ++ '(' :: (argument.toList ++ [':', ')']) := by
  simp only [String.toList_append, List.append_assoc]
  rfl

theorem ofText_type (h : '.' ∉ type.toList) : ofText type = ⟨type, "", none⟩ := by
  rw [ofText, splitAt_of_not_mem h]
  simp [closesArgument]

theorem ofText_member (htype : '.' ∉ type.toList) (hmember : '(' ∉ member.toList) :
    ofText (type ++ "." ++ member) = ⟨type, member, none⟩ := by
  rw [ofText, toList_pointed, splitAt_append htype]
  simp [hmember]

/-- A point behind a type is passed over. -/
theorem ofText_trailing (h : '.' ∉ type.toList) : ofText (type ++ ".") = ⟨type, "", none⟩ := by
  have hmember : '(' ∉ "".toList := List.not_mem_nil
  rw [← ofText_member h hmember, String.append_empty]

theorem ofText_argument (argument : String) (htype : '.' ∉ type.toList)
    (hfield : '(' ∉ field.toList) :
    ofText (type ++ "." ++ field ++ "(" ++ argument ++ ":)") = ⟨type, field, some argument⟩ := by
  have htext : type ++ "." ++ field ++ "(" ++ argument ++ ":)" =
      type ++ "." ++ (field ++ "(" ++ argument ++ ":)") := by
    simp only [String.append_assoc]
  have hcloses : closesArgument (field ++ "(" ++ argument ++ ":)").toList = true := by
    rw [toList_closed, closesArgument_iff]
    exact ⟨field.toList ++ '(' :: argument.toList, by simp⟩
  rw [htext, ofText, toList_pointed, splitAt_append htype]
  dsimp only
  rw [hcloses, toList_closed, splitAt_append hfield]
  simp

/-- **Each text is spelled from what is read of it.** -/
theorem spells_ofText (text : String) : Spells (ofText text) text := by
  by_cases hpoint : '.' ∈ text.toList
  · obtain ⟨before, after, htext, hbefore⟩ := List.eq_append_cons_of_mem hpoint
    obtain ⟨type, rfl⟩ : ∃ type : String, before = type.toList :=
      ⟨String.ofList before, String.toList_ofList.symm⟩
    obtain ⟨member, rfl⟩ : ∃ member : String, after = member.toList :=
      ⟨String.ofList after, String.toList_ofList.symm⟩
    obtain rfl : text = type ++ "." ++ member := by
      rw [← String.toList_inj, htext, toList_pointed]
    by_cases hargument : closesArgument member.toList = true ∧ '(' ∈ member.toList
    · obtain ⟨hcloses, hopens⟩ := hargument
      obtain ⟨front, hfront⟩ := closesArgument_iff.mp hcloses
      -- what opens the argument stands in front of what closes it
      have hmem : '(' ∈ front := by simpa [hfront] using hopens
      obtain ⟨before, after, hsplit, hfield⟩ := List.eq_append_cons_of_mem hmem
      obtain ⟨field, rfl⟩ : ∃ field : String, before = field.toList :=
        ⟨String.ofList before, String.toList_ofList.symm⟩
      obtain ⟨argument, rfl⟩ : ∃ argument : String, after = argument.toList :=
        ⟨String.ofList after, String.toList_ofList.symm⟩
      have hwhole : type ++ "." ++ member = type ++ "." ++ field ++ "(" ++ argument ++ ":)" := by
        have hmember : member = field ++ "(" ++ argument ++ ":)" := by
          rw [← String.toList_inj, toList_closed, hfront, hsplit, List.append_assoc]
          rfl
        rw [hmember]
        simp only [String.append_assoc]
      rw [hwhole, ofText_argument argument hbefore hfield]
      exact .argument
    · have hread : ofText (type ++ "." ++ member) = ⟨type, member, none⟩ := by
        rw [ofText, toList_pointed, splitAt_append hbefore]
        dsimp only
        rw [if_neg (by simpa using hargument), String.ofList_toList, String.ofList_toList]
      rw [hread]
      exact .member
  · rw [ofText_type hpoint]
    exact .type

end Reference

end SchemaVisibility.Coordinate
