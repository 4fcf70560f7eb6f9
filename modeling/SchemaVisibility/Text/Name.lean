/-! # Names

A name starts with an ASCII letter or an underscore and goes on with these and ASCII digits. GraphQL
and the placeholders of the settings use the same form.
-/

namespace SchemaVisibility.Text

/-- Whether a name may start with the character. -/
def isNameStart (c : Char) : Bool :=
  ('a' ≤ c && c ≤ 'z') || ('A' ≤ c && c ≤ 'Z') || c == '_'

/-- Whether a name may go on with the character. -/
def isNamePart (c : Char) : Bool :=
  isNameStart c || ('0' ≤ c && c ≤ '9')

/-- Splits off the name at the front of a text, if there is one. -/
def name? : List Char → Option (List Char × List Char)
  | [] => none
  | c :: rest =>
    if isNameStart c then some (c :: rest.takeWhile isNamePart, rest.dropWhile isNamePart) else none

theorem name?_append {text name rest : List Char} (h : name? text = some (name, rest)) :
    name ++ rest = text := by
  cases text with
  | nil => simp [name?] at h
  | cons c text =>
    simp only [name?] at h
    split at h
    · simp only [Option.some.injEq, Prod.mk.injEq] at h
      obtain ⟨rfl, rfl⟩ := h
      simp
    · simp at h

end SchemaVisibility.Text
