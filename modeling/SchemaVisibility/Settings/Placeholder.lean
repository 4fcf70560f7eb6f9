import SchemaVisibility.Table
import SchemaVisibility.Text.Blank
import SchemaVisibility.Text.Name

/-! # Placeholders

A placeholder is a brace, blanks, `env.` with the name of a variable, blanks, and the closing brace.
`interpolate` replaces every placeholder of a template by the value of its variable in one pass
from left to right: a value is put in as it is and never read again, and an unset variable counts
as empty text.
-/

namespace SchemaVisibility.Settings

/-- The variables that placeholders refer to. -/
abbrev Environment := Table String

/-- The value of a variable, empty if it is unset. -/
def Environment.value (env : Environment) (name : String) : String :=
  (Table.get? env name).getD ""

namespace Placeholder

/-- The word between the opening brace and the name. -/
def after? : List Char → Option (List Char)
  | 'e' :: 'n' :: 'v' :: '.' :: rest => some rest
  | _ => none

/-- Reads the placeholder at the front of a text: its name and what follows. -/
def read? : List Char → Option (List Char × List Char)
  | '{' :: text =>
    match after? (Text.skipBlanks text) with
    | none => none
    | some text =>
      match Text.name? text with
      | none => none
      | some (name, text) =>
        match Text.skipBlanks text with
        | '}' :: rest => some (name, rest)
        | _ => none
  | _ => none

theorem length_skipBlanks_le (text : List Char) :
    (Text.skipBlanks text).length ≤ text.length :=
  (List.dropWhile_suffix _).length_le

theorem length_after?_lt {text rest : List Char} (h : after? text = some rest) :
    rest.length < text.length := by
  unfold after? at h
  split at h
  · simp only [Option.some.injEq] at h
    subst h
    simp only [List.length_cons]
    omega
  · simp at h

/-- Reading a placeholder consumes text. -/
theorem length_read?_lt {text name rest : List Char} (h : read? text = some (name, rest)) :
    rest.length < text.length := by
  unfold read? at h
  split at h
  · rename_i text
    split at h
    · simp at h
    · rename_i t₁ h₁
      split at h
      · simp at h
      · rename_i n t₂ h₂
        split at h
        · rename_i t₃ h₃
          simp only [Option.some.injEq, Prod.mk.injEq] at h
          obtain ⟨-, rfl⟩ := h
          have l₁ := length_skipBlanks_le text
          have l₂ := length_after?_lt h₁
          have l₃ := congrArg List.length (Text.name?_append h₂)
          have l₄ := length_skipBlanks_le t₂
          rw [h₃] at l₄
          simp only [List.length_append, List.length_cons] at l₃ l₄ ⊢
          omega
        · simp at h
  · simp at h

/-- Replaces the placeholders of a text from left to right. -/
def substitute (env : Environment) (text : List Char) : List Char :=
  match _h : read? text with
  | some (name, rest) => (env.value (String.ofList name)).toList ++ substitute env rest
  | none =>
    match text with
    | [] => []
    | c :: rest => c :: substitute env rest
termination_by text.length
decreasing_by
  · exact length_read?_lt _h
  · simp

end Placeholder

/-- The template with every placeholder replaced by the value of its variable. -/
def interpolate (env : Environment) (template : String) : String :=
  String.ofList (Placeholder.substitute env template.toList)

end SchemaVisibility.Settings
