import SchemaVisibility.Json.Basic

/-! # Whole numbers among decimals

A decimal stands for the binary number that is nearest to it, with 53 binary digits. From `2 ^ 53`
on these numbers are whole, but not all whole numbers are among them.
-/

namespace SchemaVisibility.Json

/-- How many binary digits a number keeps. -/
def binaryDigits : Nat := 53

/-- The nearest number with at most `binaryDigits` binary digits in front of zeros; of two that are
as near, the one whose last digit is even. -/
def nearestBinary (n : Nat) : Nat :=
  let unit := Nat.pow 2 (n.log2 + 1 - binaryDigits)
  let rest := n % unit
  let isUp := unit < 2 * rest || (unit == 2 * rest && n / unit % 2 == 1)
  (n / unit + if isUp then 1 else 0) * unit

/-- The largest size of a decimal that counts as a number, and how far below it may be. -/
def maxWholeDigits : Nat := 309

/-- The whole number that digits with `places` of them behind the point spell, if they do. -/
def wholeOfDigits? (digits : Nat) (places : Int) : Option Nat :=
  if places ≤ 0 then some (digits * Nat.pow 10 (-places).toNat)
  else if digits % Nat.pow 10 places.toNat = 0 then some (digits / Nat.pow 10 places.toNat)
  else none

/-- The whole number that a decimal stands for, if it stands for one. -/
def wholeDecimal? (text : String) : Option Int := do
  let decimal ← Decimal.ofText? text
  if decimal.isZero then return 0
  if maxWholeDigits < decimal.size ∨ decimal.size < -(maxWholeDigits : Int) then none
  let whole ← wholeOfDigits? decimal.mantissa (-decimal.exponent)
  let value : Int := nearestBinary whole
  return if decimal.isNegative then -value else value

end SchemaVisibility.Json
