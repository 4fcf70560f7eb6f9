import SchemaVisibility.Text.Hex

/-! # UTF-7

ASCII stands for itself, but a plus sign begins a shift, in which each byte tells six bits of
UTF-16. A shift ends at the first byte that tells none; a minus sign there belongs to the shift. A
plus sign is written with a minus sign behind it.
-/

namespace SchemaVisibility.Text.Utf7

/-- The six bits that a byte tells in a shift. -/
def sixBits? (byte : Nat) : Option Nat :=
  if 0x41 ≤ byte ∧ byte ≤ 0x5A then some (byte - 0x41)
  else if 0x61 ≤ byte ∧ byte ≤ 0x7A then some (byte - 0x61 + 26)
  else if 0x30 ≤ byte ∧ byte ≤ 0x39 then some (byte - 0x30 + 52)
  else if byte = 0x2B then some 62
  else if byte = 0x2F then some 63
  else none

/-- What was read of a shift and not yet turned into characters. -/
structure Shift where
  /-- How many bits. -/
  count : Nat
  /-- The number that they spell. -/
  value : Nat
  /-- The first half of a surrogate pair in front of them. -/
  high? : Option Nat

/-- A shift that has just begun. -/
def Shift.start : Shift :=
  ⟨0, 0, none⟩

/-- Whether the bits that are left are no padding: there are six or more, or one of them is set. -/
def Shift.hasRest (shift : Shift) : Bool :=
  6 ≤ shift.count || (0 < shift.count && shift.value ≠ 0)

/-- The character that stands for half a surrogate pair. -/
def half : Char :=
  Char.ofNat 0xFFFD

/-- The characters that a number of UTF-16 completes, and the first half of a pair if it is one. -/
def addUnit (high? : Option Nat) (unit : Nat) : List Char × Option Nat :=
  match high? with
  | some high =>
    if isLowSurrogate unit then ([Char.ofNat (joinSurrogates high unit)], none)
    else if isHighSurrogate unit then ([half], some unit)
    else ([half, unitChar unit], none)
  | none => if isHighSurrogate unit then ([], some unit) else ([unitChar unit], none)

/-- A shift with six bits more, and the characters that they complete. -/
def Shift.push (shift : Shift) (bits : Nat) : List Char × Shift :=
  let count := shift.count + 6
  let value := shift.value * 64 + bits
  if count < 16 then ([], { shift with count, value })
  else
    let (chars, high?) := addUnit shift.high? (value / Nat.pow 2 (count - 16))
    (chars, ⟨count - 16, value % Nat.pow 2 (count - 16), high?⟩)

/-- Reads the bytes behind what was read of a shift, or outside of one. -/
def readFrom : Option Shift → List Nat → List (Option Char)
  | none, [] => []
  | some shift, [] => if shift.high?.isSome || shift.hasRest then [none] else []
  | none, 0x2B :: 0x2D :: rest => some '+' :: readFrom none rest
  | none, [0x2B] => []
  | none, 0x2B :: byte :: rest =>
    match sixBits? byte with
    | some bits =>
      let (chars, shift) := Shift.start.push bits
      chars.map some ++ readFrom (some shift) rest
    | none => none :: readFrom none rest
  | none, byte :: rest =>
    (if byte < 0x80 then some (Char.ofNat byte) else none) :: readFrom none rest
  | some shift, byte :: rest =>
    match sixBits? byte with
    | some bits =>
      let (chars, shift) := shift.push bits
      chars.map some ++ readFrom (some shift) rest
    | none =>
      if shift.hasRest then none :: readFrom none rest
      else
        let halves := if shift.high?.isSome && byte < 0x80 then [some half] else []
        let self :=
          if byte = 0x2D then []
          else if byte < 0x80 then [some (Char.ofNat byte)]
          else [none]
        halves ++ self ++ readFrom none rest

/-- The characters of some bytes, `none` for what spells no character. -/
def read (bytes : List Nat) : List (Option Char) :=
  readFrom none bytes

end SchemaVisibility.Text.Utf7
