import SchemaVisibility.Json.Basic
import SchemaVisibility.Json.Quoted

/-! # JSON text

The one written form of a value: members and items in order, a comma and a blank between them, a
colon and a blank after a name, and no character outside printable ASCII.
-/

namespace SchemaVisibility.Json

/-- The decimal digits of an integer, with a sign if it is negative. -/
def writeInt : Int → List Char
  | .ofNat n => Nat.toDigits 10 n
  | .negSucc n => '-' :: Nat.toDigits 10 (n + 1)

mutual

/-- The text of a value. -/
def write : Json → List Char
  | .null => "null".toList
  | .bool true => "true".toList
  | .bool false => "false".toList
  | .int value => writeInt value
  | .decimal text => text.toList
  | .str text => Quoted.write text.toList
  | .arr [] => ['[', ']']
  | .arr (item :: rest) => '[' :: write item ++ writeItems rest
  | .obj [] => ['{', '}']
  | .obj ((name, value) :: rest) =>
    '{' :: Quoted.write name.toList ++ ':' :: ' ' :: write value ++ writeMembers rest

/-- The items after the first, and the closing bracket. -/
def writeItems : List Json → List Char
  | [] => [']']
  | item :: rest => ',' :: ' ' :: write item ++ writeItems rest

/-- The members after the first, and the closing brace. -/
def writeMembers : List (String × Json) → List Char
  | [] => ['}']
  | (name, value) :: rest =>
    ',' :: ' ' :: Quoted.write name.toList ++ ':' :: ' ' :: write value ++ writeMembers rest

end

/-- The text of a value as a string. -/
def print (value : Json) : String :=
  String.ofList (write value)

end SchemaVisibility.Json
