/-! # Decimals

A decimal is carried by its text and stands for the binary number nearest to it. The smallest binary
number is `2 ^ -1074`, so a number up to half of that stands for zero. Only numbers of the size of
this half have to be compared with it.
-/

namespace SchemaVisibility

/-- A number as it is spelled: its digits, without zeros in front, the last of which counts
`10 ^ exponent`. -/
structure Decimal where
  isNegative : Bool
  digits : List Char
  exponent : Int

namespace Decimal

/-- The number that a text spells. The words for what is no number spell none. -/
def ofText? (text : String) : Option Decimal := do
  let chars := text.toList
  let isNegative := chars.head? = some '-'
  let unsigned := if isNegative then chars.drop 1 else chars
  let isMark (c : Char) : Bool := c == 'e' || c == 'E'
  let mantissa := unsigned.takeWhile fun c => !isMark c
  let exponent := ((unsigned.dropWhile fun c => !isMark c).drop 1).filter (· != '+')
  let front := mantissa.takeWhile Char.isDigit
  let behind := mantissa.drop (front.length + 1)
  if front.isEmpty then none
  let exponent ← if exponent.isEmpty then some 0 else (String.ofList exponent).toInt?
  return ⟨isNegative, (front ++ behind).dropWhile (· == '0'), exponent - behind.length⟩

/-- The digits as a whole number. -/
def mantissa (decimal : Decimal) : Nat :=
  Nat.ofDigitChars 10 decimal.digits 0

/-- How many digits stand in front of the point; below zero, how many zeros follow it. -/
def size (decimal : Decimal) : Int :=
  decimal.digits.length + decimal.exponent

/-- The size of `2 ^ -1075`, half of the smallest binary number. -/
def smallestSize : Int := -323

/-- Whether the binary number nearest to a decimal is zero. -/
def isZero (decimal : Decimal) : Bool :=
  decimal.digits.isEmpty || decimal.size < smallestSize ||
    (decimal.size == smallestSize &&
      decimal.mantissa * Nat.pow 2 1075 ≤ Nat.pow 10 (-decimal.exponent).toNat)

end Decimal

end SchemaVisibility
