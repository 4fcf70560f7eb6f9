import SchemaVisibility.GraphQL.Document

/-! # Denials

A denial says which private declaration an operation uses and where. Its wording names the
declaration the way the operation reaches it.
-/

namespace SchemaVisibility.Access

open GraphQL

/-- Where an operation uses a type. -/
inductive Place where
  | field (name : String)
  | argument (name : String)
  | variable (name : String)
  deriving DecidableEq, Repr

/-- The wording of a place. -/
def Place.label : Place → String
  | .field name => "field \"" ++ name ++ "\""
  | .argument name => "argument \"" ++ name ++ "\""
  | .variable name => "variable \"$" ++ name ++ "\""

/-- The private declaration that an operation uses. -/
inductive Reason where
  /-- A field, input field or enum value of a type. -/
  | member (name type : String)
  /-- An argument of a field. -/
  | argument (name field : String)
  /-- A whole type. -/
  | type (name : String) (place : Place)
  deriving DecidableEq, Repr

/-- A refused use of a private declaration. -/
structure Denial where
  position : Position
  reason : Reason
  deriving DecidableEq, Repr

/-- The wording of a denial. -/
def Denial.message (denial : Denial) : String :=
  match denial.reason with
  | .member name type => "Cannot field \"" ++ name ++ "\" on type \"" ++ type ++ "\"."
  | .argument name field => "Cannot argument \"" ++ name ++ "\" on field \"" ++ field ++ "\"."
  | .type name place => "Cannot type \"" ++ name ++ "\" on " ++ place.label ++ "."

/-- The code that goes with every denial. -/
def Denial.code : String := "PRIVATE_FIELD"

end SchemaVisibility.Access
