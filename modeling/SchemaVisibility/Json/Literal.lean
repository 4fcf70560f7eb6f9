import SchemaVisibility.Json.Printer
import SchemaVisibility.Text.Printable

/-! # Values as literals

The text of a value where it is shown and not exchanged: capitalised words for the constants, text
in single quotation marks, lists and mappings in brackets and braces.
-/

namespace SchemaVisibility.Json

/-- The spelling of the truth values. -/
def boolWord : Bool → String
  | true => "True"
  | false => "False"

/-- The word for a decimal that is no number; all others are written as they are. -/
def decimalWord (text : String) : String :=
  if text = "NaN" then "nan"
  else if text = "Infinity" then "inf"
  else if text = "-Infinity" then "-inf"
  else text

/-- A character between quotation marks. -/
def literalChar (quote c : Char) : List Char :=
  if c = quote || c = '\\' then ['\\', c]
  else if c = '\n' then ['\\', 'n']
  else if c = '\r' then ['\\', 'r']
  else if c = '\t' then ['\\', 't']
  else if Text.isPrintable c then [c]
  else if c.toNat < 0x100 then '\\' :: 'x' :: (Text.fourHex c.toNat).drop 2
  else if c.toNat < 0x10000 then '\\' :: 'u' :: Text.fourHex c.toNat
  else '\\' :: 'U' :: Text.fourHex (c.toNat / 0x10000) ++ Text.fourHex c.toNat

/-- Text in single quotation marks, or in double ones if it holds only single ones. -/
def literalText (text : List Char) : List Char :=
  let quote := if text.contains '\'' && !text.contains '"' then '"' else '\''
  quote :: text.flatMap (literalChar quote) ++ [quote]

mutual

/-- The literal of a value. -/
def literal : Json → List Char
  | .null => "None".toList
  | .bool value => (boolWord value).toList
  | .int value => writeInt value
  | .decimal text => (decimalWord text).toList
  | .str text => literalText text.toList
  | .arr items => '[' :: literalItems items ++ [']']
  | .obj members => '{' :: literalMembers members ++ ['}']

/-- The literals of items with commas between them. -/
def literalItems : List Json → List Char
  | [] => []
  | [item] => literal item
  | item :: rest => literal item ++ ',' :: ' ' :: literalItems rest

/-- The literals of members with commas between them. -/
def literalMembers : List (String × Json) → List Char
  | [] => []
  | [(name, value)] => literalText name.toList ++ ':' :: ' ' :: literal value
  | (name, value) :: rest =>
    literalText name.toList ++ ':' :: ' ' :: literal value ++ ',' :: ' ' :: literalMembers rest

end

/-- A value as plain text: text is itself, all else its literal. -/
def display : Json → String
  | .str text => text
  | other => String.ofList (literal other)

end SchemaVisibility.Json
