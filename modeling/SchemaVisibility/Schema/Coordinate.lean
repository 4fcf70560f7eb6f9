/-! # Schema coordinates

A coordinate is the path of a declaration: a type, a member of a type, or an argument of a field.
Its text is `Type`, `Type.member` or `Type.field(argument:)`. `Reference.ofText` splits a text into
these parts without asking whether such a declaration exists.
-/

namespace SchemaVisibility

/-- The path of a declaration in a schema. -/
inductive Coordinate where
  | type (name : String)
  | member (type name : String)
  | argument (type field name : String)
  deriving DecidableEq, Repr

/-- The type that a coordinate starts from. -/
def Coordinate.typeName : Coordinate → String
  | .type t => t
  | .member t _ => t
  | .argument t _ _ => t

namespace Coordinate

/-- The parts of a coordinate's text. The member is empty if the text names a type. -/
structure Reference where
  type : String
  member : String
  argument : Option String
  deriving DecidableEq, Repr

/-- Splits a text at the first `c`: what stands before it and after it. Without a `c` the whole
text stands before. -/
def splitAt (c : Char) (text : List Char) : List Char × List Char :=
  (text.takeWhile (· != c), (text.dropWhile (· != c)).drop 1)

/-- Whether a text ends in the closing of an argument, `:)`. -/
def closesArgument (text : List Char) : Bool :=
  match text.reverse with
  | ')' :: ':' :: _ => true
  | _ => false

/-- Splits the text of a coordinate at its first point, and the member at its first parenthesis if
it ends as an argument does. -/
def Reference.ofText (text : String) : Reference :=
  let (type, member) := splitAt '.' text.toList
  if closesArgument member && member.contains '(' then
    let (field, argument) := splitAt '(' member
    ⟨String.ofList type, String.ofList field,
      some (String.ofList (argument.take (argument.length - 2)))⟩
  else ⟨String.ofList type, String.ofList member, none⟩

/-- The text of a coordinate. -/
def toText : Coordinate → String
  | .type t => t
  | .member t m => t ++ "." ++ m
  | .argument t f a => t ++ "." ++ f ++ "(" ++ a ++ ":)"

end Coordinate

end SchemaVisibility
