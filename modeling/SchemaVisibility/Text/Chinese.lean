import SchemaVisibility.Text.Plane.Big5
import SchemaVisibility.Text.Plane.Gbk
import SchemaVisibility.Text.Plane.HongKong
import SchemaVisibility.Text.Reading

/-! # Chinese charsets

Codes of two bytes behind ASCII, for simplified or for traditional characters. GB 18030 has codes of
four bytes too, and in HZ marks switch between ASCII and GB 2312.
-/

namespace SchemaVisibility.Text

/-- A Chinese charset. -/
inductive Chinese where
  | gb2312
  | gbk
  | gb18030
  | hz
  | big5
  /-- A later edition of Big5. -/
  | cp950
  /-- Big5 with the supplement for Hong Kong. -/
  | hongKong
  deriving DecidableEq, Repr

namespace Chinese

/-- What a code of GBK spells. -/
def gbkChars? (code : Nat) : Option (List Char) :=
  (Plane.gbkSigns.chars? code).or
    ((Plane.gb2312.highChars? code).or (Plane.gbkIdeographs.chars? code))

/-- What a code of two bytes spells in GB 18030. -/
def gb18030Chars? (code : Nat) : Option (List Char) :=
  (gbkChars? code).or
    ((Plane.gb18030Signs.chars? code).or (Plane.gb18030Private.chars? code))

/-- The number of codes of four bytes for the basic plane of Unicode. -/
def basicCount : Nat := 39420

/-- The character of four bytes in GB 18030. -/
def fourByteChar? (a b c d : Nat) : Option Char :=
  let place := (((a - 0x81) * 10 + (b - 0x30)) * 126 + (c - 0x81)) * 10 + (d - 0x30)
  if 0xFE < a ∨ c < 0x81 ∨ 0xFE < c ∨ d < 0x30 ∨ 0x39 < d then none
  else if a < 0x85 then
    if basicCount ≤ place then none
    else
      let start? := (Plane.gb18030Starts.takeWhile fun start => start.1 ≤ place).getLast?
      start?.map fun (first, number) => Char.ofNat (number + (place - first))
  else if a < 0x90 then none
  else
    let number := 0x10000 + (place - 15 * 12600)
    if number < 0x110000 then some (Char.ofNat number) else none

/-- Reads a character of GB 18030. A digit in the second place tells a code of four bytes. -/
def gb18030Step (byte : Nat) (rest : List Nat) : Reading Unit :=
  if byte < 0x80 then .single byte
  else
    match rest with
    | second :: later =>
      if 0x30 ≤ second ∧ second ≤ 0x39 then
        match later with
        | third :: fourth :: _ =>
          if byte < 0x81 then .broken 0
          else .ofChars? ((fourByteChar? byte second third fourth).map fun c => [c]) 3
        | _ => .broken rest.length
      else .pair gb18030Chars? byte rest
    | [] => .broken 0

/-- Reads a character or a mark of HZ. The state tells whether characters of GB 2312 are to come. A
tilde is written twice, and one in front of a line end joins two lines. -/
def hzStep (inRows : Bool) (byte : Nat) (rest : List Nat) : Reading Bool :=
  let broken : Reading Bool := ⟨none, 0, inRows⟩
  if byte = '~'.toNat then
    match inRows, rest.head?.map Char.ofNat with
    | false, some '~' => ⟨some ['~'], 1, false⟩
    | false, some '\n' => ⟨some [], 1, false⟩
    | false, some '\x7b' => ⟨some [], 1, true⟩
    | true, some '\x7d' => ⟨some [], 1, false⟩
    | _, _ => broken
  else if 0x80 ≤ byte then broken
  else if inRows then
    match rest with
    | [] => broken
    | second :: _ =>
      match Plane.gb2312.chars? (0x100 * byte + second) with
      | some chars => ⟨some chars, 1, true⟩
      | none => broken
  else ⟨some [Char.ofNat byte], 0, false⟩

/-- The codes of the supplement for Hong Kong that stand for two characters. -/
def hongKongPairs : List (Nat × String) :=
  [(0x8862, "\u00ca\u0304"), (0x8864, "\u00ca\u030c"), (0x88A3, "\u00ea\u0304"),
    (0x88A5, "\u00ea\u030c")]

/-- What a code spells in Hong Kong. The supplement takes the place of a part of Big5. -/
def hongKongChars? (code : Nat) : Option (List Char) :=
  let common := if 0xC6A1 ≤ code ∧ code < 0xC900 then none else Plane.big5.chars? code
  common.or ((Plane.hongKong.chars? code).or ((hongKongPairs.lookup code).map String.toList))

/-- The characters of some bytes, `none` for what spells no character. -/
def read (charset : Chinese) (bytes : List Nat) : List (Option Char) :=
  match charset with
  | .gb2312 => Reading.allPlain (.asciiOrPair Plane.gb2312.highChars?) bytes
  | .gbk => Reading.allPlain (.asciiOrPair gbkChars?) bytes
  | .gb18030 => Reading.allPlain gb18030Step bytes
  | .hz => Reading.all hzStep false bytes
  | .big5 => Reading.allPlain (.asciiOrPair Plane.big5.chars?) bytes
  | .cp950 => Reading.allPlain (.asciiOrPair fun code =>
      (Plane.big5Later.chars? code).or (Plane.big5.chars? code)) bytes
  | .hongKong => Reading.allPlain (.asciiOrPair hongKongChars?) bytes

end Chinese

end SchemaVisibility.Text
