import SchemaVisibility.Text.Plane.JisX0208
import SchemaVisibility.Text.Plane.JisX0212
import SchemaVisibility.Text.Plane.JisX0213
import SchemaVisibility.Text.Plane.ShiftedExtra
import SchemaVisibility.Text.Reading

/-! # Japanese charsets

Codes of two bytes behind ASCII and behind the small kana of one byte. In shifted codes two rows of
a set stand behind each first byte, in the others a code has the highest bits set. The set is
JIS X 0208, or JIS X 0213 in one of its editions.
-/

namespace SchemaVisibility.Text

/-- An edition of JIS X 0213. -/
inductive JisEdition where
  | of2000
  | of2004
  deriving DecidableEq, Repr

/-- A Japanese charset. -/
inductive Japanese where
  | shifted
  /-- The shifted code with signs, ideographs and private characters. -/
  | cp932
  /-- The shifted code of JIS X 0213. -/
  | shiftedPlanes (edition : JisEdition)
  | eucJp
  /-- The unshifted code of JIS X 0213. -/
  | eucPlanes (edition : JisEdition)
  deriving DecidableEq, Repr

namespace JisEdition

/-- What the edition of 2000 does not have in the first plane. -/
def later : List Nat :=
  [0x2E21, 0x2F7E, 0x4F54, 0x4F7E, 0x7427, 0x7E7A, 0x7E7B, 0x7E7C, 0x7E7D, 0x7E7E]

/-- Whether an edition does not have a code that the other one has in the first plane. -/
def lacks (edition : JisEdition) (code : Nat) : Bool :=
  edition == .of2000 && later.contains code

/-- What a code of the first plane spells. -/
def first? (edition : JisEdition) (code : Nat) : Option (List Char) :=
  if edition.lacks code then none
  else
    (Plane.jisX0213First.chars? code).or
      ((Plane.jisX0208.chars? code).or ((Plane.jisX0213Pairs.lookup code).map String.toList))

/-- What a code of the second plane spells. The editions differ in one of them. -/
def second? (edition : JisEdition) (code : Nat) : Option (List Char) :=
  if edition = .of2000 ∧ code = 0x7D3B then some [Char.ofNat 0x9B1D]
  else Plane.jisX0213Second.chars? code

/-- What a code of the first plane spells where its backslash and its tilde are those of ASCII. -/
def firstAscii? (edition : JisEdition) (code : Nat) : Option (List Char) :=
  if code = 0x2140 then some ['\\']
  else if code = 0x2232 then some ['~']
  else edition.first? code

end JisEdition

namespace Japanese

/-- The small kana of a byte. -/
def kana? (byte : Nat) : Option Char :=
  if 0xA1 ≤ byte ∧ byte ≤ 0xDF then some (Char.ofNat (0xFEC0 + byte)) else none

/-- The character of a byte in ASCII with the yen sign and the overline of JIS X 0201. -/
def roman? (byte : Nat) : Option Char :=
  if byte = 0x5C then some '¥'
  else if byte = 0x7E then some '‾'
  else if byte < 0x80 then some (Char.ofNat byte)
  else none

/-- Whether a byte is the first one of a shifted code. -/
def isShiftedLead (byte : Nat) : Bool :=
  (0x81 ≤ byte && byte ≤ 0x9F) || (0xE0 ≤ byte && byte ≤ 0xFC)

/-- The row of the first byte of a shifted code, counted from zero, and the place that its second
byte tells in that row and the next one. -/
def shiftedPlace? (code : Nat) : Option (Nat × Nat) :=
  let byte := code / 0x100
  let second := code % 0x100
  if second < 0x40 ∨ second = 0x7F ∨ 0xFC < second then none
  else some (2 * (if byte < 0xE0 then byte - 0x81 else byte - 0xC1),
    if second < 0x80 then second - 0x40 else second - 0x41)

/-- The code in JIS X 0208 of a shifted code. -/
def unshifted? (code : Nat) : Option Nat :=
  (shiftedPlace? code).map fun (row, place) => Plane.codeAt row place

/-- What a shifted code spells. -/
def shiftedChars? (code : Nat) : Option (List Char) :=
  (unshifted? code).bind Plane.jisX0208.chars?

/-- What a shifted code spells with the additions. -/
def cp932Chars? (code : Nat) : Option (List Char) :=
  (Plane.shiftedExtra.chars? code).or
    ((Plane.shiftedPrivate.chars? code).or (shiftedChars? code))

/-- The row of the second plane whose turn is `row` among the rows of both planes: only some rows of
that plane are used. -/
def secondPlaneRow (row : Nat) : Nat :=
  if 0x67 ≤ row then row + 7
  else if 0x63 ≤ row ∨ row = 0x5F then row - 0x37
  else row - 0x3D

/-- What a shifted code spells in JIS X 0213: the rows of the second plane follow those of the
first. -/
def shiftedPlanesChars? (edition : JisEdition) (code : Nat) : Option (List Char) := do
  let (row, place) ← shiftedPlace? code
  let row := row + place / 94
  if row < 94 then edition.firstAscii? (Plane.codeAt row (place % 94))
  else edition.second? (0x100 * secondPlaneRow row + (place % 94 + 0x21))

/-- Reads a code of two bytes. One that an edition lacks is broken as a whole, and of any other one
that spells nothing only the first byte is. -/
def pairStep (lacks : Nat → Bool) (chars? : Nat → Option (List Char)) (byte : Nat)
    (rest : List Nat) : Reading Unit :=
  if rest.head?.any fun second => lacks (0x100 * byte + second) then .broken 1
  else .pair chars? byte rest

/-- Reads a character of a shifted code. -/
def shiftedStep (single? : Nat → Option Char) (lacks : Nat → Bool)
    (chars? : Nat → Option (List Char)) (byte : Nat) (rest : List Nat) : Reading Unit :=
  match single? byte with
  | some c => .ofChars? (some [c]) 0
  | none => if isShiftedLead byte then pairStep lacks chars? byte rest else .broken 0

/-- Whether an edition lacks what a shifted code would spell in its first plane. -/
def lacksShifted (edition : JisEdition) (code : Nat) : Bool :=
  (unshifted? code).any edition.lacks

/-- A test that no code passes. -/
def lacksNone (_ : Nat) : Bool := false

/-- The character of a byte in the shifted code of JIS X 0208. -/
def shiftedSingle? (byte : Nat) : Option Char :=
  if byte < 0x80 then some (Char.ofNat byte) else kana? byte

/-- The character of a byte in the shifted code with additions. -/
def cp932Single? (byte : Nat) : Option Char :=
  if byte ≤ 0x80 then some (Char.ofNat byte)
  else if byte = 0xA0 then some (Char.ofNat 0xF8F0)
  else if 0xFD ≤ byte then some (Char.ofNat (0xF8F1 + (byte - 0xFD)))
  else kana? byte

/-- Reads a character of a code with its highest bits set. Behind one mark stands a small kana, and
behind another one a character of a second set. -/
def eucStep (lacks : Nat → Bool) (chars? second? : Nat → Option (List Char)) (byte : Nat)
    (rest : List Nat) : Reading Unit :=
  if byte = 0x8E then
    match rest with
    | [] => .broken 0
    | small :: _ => .ofChars? ((kana? small).map fun c => [c]) 1
  else if byte = 0x8F then
    match rest with
    | row :: column :: _ => .ofChars? (second? (0x100 * row + column - 0x8080)) 2
    | _ => .broken rest.length
  else if byte < 0x80 then .single byte
  else
    pairStep (fun code => lacks (code - 0x8080)) (fun code => chars? (code - 0x8080)) byte rest

/-- The characters of some bytes, `none` for what spells no character. -/
def read (charset : Japanese) (bytes : List Nat) : List (Option Char) :=
  Reading.allPlain (match charset with
    | .shifted => shiftedStep shiftedSingle? lacksNone shiftedChars?
    | .cp932 => shiftedStep cp932Single? lacksNone cp932Chars?
    | .shiftedPlanes edition =>
      shiftedStep (fun byte => (roman? byte).or (kana? byte)) (lacksShifted edition)
        (shiftedPlanesChars? edition)
    | .eucJp => eucStep lacksNone Plane.jisX0208.chars? Plane.jisX0212.chars?
    | .eucPlanes edition => eucStep edition.lacks edition.first? fun code =>
        (edition.second? code).or (Plane.jisX0212.chars? code)) bytes

end Japanese

end SchemaVisibility.Text
