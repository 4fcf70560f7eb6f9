/-! # Planes

A plane is a set of characters, each with a code of two bytes. Characters whose codes follow each
other are written in a row, with U+FFFD for a code that stands for no character.

Many planes have 94 rows of 94 characters. In them a code is a row and a column, each from `0x21` to
`0x7E`.
-/

namespace SchemaVisibility.Text

/-- A set of characters with codes. -/
structure Plane where
  /-- The rows: the first code, and the characters from there on. -/
  rows : List (Nat × Array Char)

namespace Plane

/-- The character that stands for none. -/
def gap : Char :=
  Char.ofNat 0xFFFD

/-- The plane of written rows. -/
def ofRows (rows : List (Nat × String)) : Plane :=
  ⟨rows.map fun (first, text) => (first, text.toList.toArray)⟩

/-- The plane of rows in the order of Unicode: the first code, the number of characters, and the
number of the first one. -/
def ofRanges (ranges : List (Nat × Nat × Nat)) : Plane :=
  ⟨ranges.map fun (first, size, number) =>
    (first, (Array.range size).map fun i => Char.ofNat (number + i))⟩

/-- The plane of rows of given sizes that some characters fill in their order. -/
def fill (rows : List (Nat × Nat)) (chars : List Char) : Plane :=
  ⟨go rows chars⟩
where
  /-- The rows with their characters. -/
  go : List (Nat × Nat) → List Char → List (Nat × Array Char)
    | [], _ => []
    | (first, size) :: rest, chars =>
      (first, (chars.take size).toArray) :: go rest (chars.drop size)

/-- The character of a code. -/
def char? (plane : Plane) (code : Nat) : Option Char :=
  let c? := plane.rows.findSome? fun (first, chars) =>
    if first ≤ code then chars[code - first]? else none
  c?.filter (· != gap)

/-- The character of a code, as a text. -/
def chars? (plane : Plane) (code : Nat) : Option (List Char) :=
  (plane.char? code).map fun c => [c]

/-- The character of a code whose two bytes have their highest bits set. -/
def highChars? (plane : Plane) (code : Nat) : Option (List Char) :=
  plane.chars? (code - 0x8080)

/-- The code of a place in a row of 94 or in the next one. Rows count from zero. -/
def codeAt (row place : Nat) : Nat :=
  0x100 * (row + place / 94 + 0x21) + (place % 94 + 0x21)

/-- The characters from a number on that are not in a plane, in their order. -/
def absent (plane : Plane) (first size : Nat) : List Char :=
  let taken := plane.rows.foldl (fun taken (_, chars) =>
    chars.foldl (fun (taken : Array Bool) c =>
      if first ≤ c.toNat then taken.setIfInBounds (c.toNat - first) true else taken) taken)
    (Array.replicate size false)
  (List.range size).filterMap fun i =>
    if taken[i]? = some false then some (Char.ofNat (first + i)) else none

end Plane

end SchemaVisibility.Text
