import SchemaVisibility.Text.Hangul
import SchemaVisibility.Text.Plane.KsX1001
import SchemaVisibility.Text.Reading

/-! # Korean charsets

Codes of two bytes behind ASCII. KS X 1001 has the common syllables only: one charset makes up the
others from their letters, another one puts them on the codes that are left, and in the third a code
spells the letters of a syllable.
-/

namespace SchemaVisibility.Text

/-- A Korean charset. -/
inductive Korean where
  /-- KS X 1001 with made up syllables. -/
  | eucKr
  /-- KS X 1001 with the other syllables on the codes that are left. -/
  | cp949
  /-- Codes of letters. -/
  | johab
  deriving DecidableEq, Repr

namespace Korean

/-- The syllables that KS X 1001 does not have. -/
def laterSyllables : Plane :=
  let rows (leads : List Nat) (last : Nat) : List (Nat × Nat) :=
    leads.flatMap fun lead =>
      [(0x100 * lead + 0x41, 26), (0x100 * lead + 0x61, 26), (0x100 * lead + 0x81, last - 0x80)]
  .fill (rows (List.range' 0x81 0x20) 0xFE ++ rows (List.range' 0xA1 0x26) 0xA0)
    (Plane.ksX1001.absent Hangul.firstSyllable Hangul.syllableCount)

/-- The byte in front of a single letter. -/
def letterMark : Nat := 0xA4

/-- The byte that stands for no letter. -/
def filler : Nat := 0xD4

/-- What a code spells where no syllables are made up. -/
def cp949Chars? (code : Nat) : Option (List Char) :=
  (Plane.ksX1001.highChars? code).or (laterSyllables.chars? code)

/-- The letter of a byte behind `letterMark`. -/
def letter? (byte : Nat) : Option Char :=
  Plane.ksX1001.char? (0x100 * letterMark + byte - 0x8080)

/-- The syllable of the three marked letters that make it up. -/
def madeUp? : List Nat → Option (List Char)
  | [m, initial, n, vowel, o, final] => do
    if m ≠ letterMark ∨ n ≠ letterMark ∨ o ≠ letterMark then none
    else
      let initial ← letter? initial
      let vowel ← letter? vowel
      let final? ← if final = filler then some none else (letter? final).map some
      let c ← Hangul.syllable? initial vowel final?
      return [c]
  | _ => none

/-- Reads a character. A marked filler announces a syllable that is made up. -/
def eucKrStep (byte : Nat) (rest : List Nat) : Reading Unit :=
  if byte = letterMark ∧ rest.head? = some filler then
    if rest.length < 7 then .broken rest.length
    else .ofChars? (madeUp? ((rest.drop 1).take 6)) 7
  else .asciiOrPair Plane.ksX1001.highChars? byte rest

/-- The letter at a place among some, where the first place stands for no letter. -/
def slot? (letters : List Char) (place : Nat) : Option (Option Char) :=
  if place = 0 then some none else letters[place - 1]?.map some

/-- The character of three letters, each of which may be missing. A syllable needs the first two; a
letter may stand alone, and none at all are a blank. -/
def joined? : Option Char → Option Char → Option Char → Option Char
  | none, none, none => some (Char.ofNat 0x3000)
  | some letter, none, none | none, some letter, none | none, none, some letter => some letter
  | some initial, some vowel, final? => Hangul.syllable? initial vowel final?
  | _, _, _ => none

/-- What a code of letters spells: five bits tell each of them. -/
def johabLetters? (code : Nat) : Option Char := do
  let i := code / 0x400 % 0x20
  let v := code / 0x20 % 0x20
  let f := code % 0x20
  if i = 0 ∨ v % 8 < 2 ∨ f = 0 ∨ f = 18 then none
  else
    let initial ← slot? Hangul.initials (i - 1)
    let vowel ← slot? Hangul.vowels (v / 8 * 6 + (v % 8 - 2))
    let final ← slot? Hangul.finals (if f < 18 then f - 1 else f - 2)
    joined? initial vowel final

/-- The sign or ideograph of two bytes: two rows of KS X 1001 stand behind each first byte. -/
def johabSign? (byte second : Nat) : Option Char :=
  if byte < 0xD9 ∨ byte = 0xDF ∨ 0xF9 < byte ∨ second < 0x31 ∨ (0x80 ≤ second ∧ second < 0x91) ∨
      second % 0x80 = 0x7F ∨ (byte = 0xDA ∧ 0xA1 ≤ second ∧ second ≤ 0xD3) then none
  else
    let row := if byte < 0xE0 then 2 * (byte - 0xD9) else 2 * byte - 0x197
    Plane.ksX1001.char? (Plane.codeAt row (if second < 0x91 then second - 0x31 else second - 0x43))

/-- What a code of `johab` spells. -/
def johabChars? (code : Nat) : Option (List Char) :=
  let c? := if code < 0xD800 then johabLetters? code else johabSign? (code / 0x100) (code % 0x100)
  c?.map fun c => [c]

/-- The characters of some bytes, `none` for what spells no character. -/
def read (charset : Korean) (bytes : List Nat) : List (Option Char) :=
  Reading.allPlain (match charset with
    | .eucKr => eucKrStep
    | .cp949 => .asciiOrPair cp949Chars?
    | .johab => .asciiOrPair johabChars?) bytes

end Korean

end SchemaVisibility.Text
