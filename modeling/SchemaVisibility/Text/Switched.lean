import SchemaVisibility.Text.CodePage.Iso8859
import SchemaVisibility.Text.Japanese
import SchemaVisibility.Text.Plane.Gb2312
import SchemaVisibility.Text.Plane.KsX1001

/-! # Switched charsets

In the charsets of ISO 2022 all bytes are those of ASCII, and escape sequences tell the set of
characters that they stand for from there on. A sequence puts a set to a place: the first place is
in use, the second one while a shift is on, and the third one for one character at a time.
-/

namespace SchemaVisibility.Text

/-- A set of characters that can be switched to. -/
inductive CharacterSet where
  | ascii
  /-- ASCII with a yen sign and an overline. -/
  | roman
  | kana
  /-- The upper half of Latin-1. -/
  | latin1
  /-- The upper half of the Greek page of ISO 8859. -/
  | greek
  | gb2312
  | jisX0208
  /-- An older edition of JIS X 0208, which is read like it. -/
  | jisX0208Old
  | jisX0212
  | jisX0213First (edition : JisEdition)
  | jisX0213Second (edition : JisEdition)
  | ksX1001
  deriving DecidableEq, Repr

/-- A switched charset. -/
inductive Switched where
  | korean
  | japanese
  | japanese1
  | japanese2
  | japanese3
  | japanese2004
  | japaneseExt
  deriving DecidableEq, Repr

namespace CharacterSet

/-- Whether codes of a set have two bytes. -/
def isWide : CharacterSet → Bool
  | ascii | roman | kana | latin1 | greek => false
  | _ => true

/-- The last character of the sequences that switch to a set. -/
def mark : CharacterSet → Char
  | ascii => 'B'
  | roman => 'J'
  | kana => 'I'
  | latin1 => 'A'
  | greek => 'F'
  | gb2312 => 'A'
  | jisX0208 => 'B'
  | jisX0208Old => '@'
  | jisX0212 => 'D'
  | jisX0213First .of2000 => 'O'
  | jisX0213First .of2004 => 'Q'
  | jisX0213Second _ => 'P'
  | ksX1001 => 'C'

/-- What a code of a set spells. The upper halves of pages are no sets for the first two places. -/
def chars? (set : CharacterSet) (code : Nat) : Option (List Char) :=
  match set with
  | ascii => some [Char.ofNat code]
  | roman => (Japanese.roman? code).map fun c => [c]
  | kana => (Japanese.kana? (code + 0x80)).map fun c => [c]
  | latin1 | greek => none
  | gb2312 => Plane.gb2312.chars? code
  | jisX0208 | jisX0208Old => Plane.jisX0208.chars? code
  | jisX0212 => Plane.jisX0212.chars? code
  | jisX0213First edition =>
    if code = 0x2232 then some ['~'] else edition.first? code
  | jisX0213Second edition => edition.second? code
  | ksX1001 => Plane.ksX1001.chars? code

/-- The characters of the Greek page that its first edition does not have. -/
def laterGreek : List Char := ['€', '₯', 'ͺ']

/-- The character of a byte in the first edition of the Greek page of ISO 8859. -/
def greekChar? (byte : Nat) : Option Char :=
  let page? := CodePage.iso8859.find? fun page => page.name == "iso8859_7"
  let c? := page?.bind fun page => ((page.read [UInt8.ofNat byte]).head?).join
  c?.filter fun c => !laterGreek.contains c

/-- What a byte spells in a set at the third place. Greek is read with the highest bit of the byte
changed, the other sets only without it. -/
def thirdChar? (set : CharacterSet) (byte : Nat) : Option Char :=
  match set with
  | greek => greekChar? (if byte < 0x80 then byte + 0x80 else byte - 0x80)
  | ascii => if byte < 0x80 then some (Char.ofNat byte) else none
  | latin1 => if byte < 0x80 then some (Char.ofNat (byte + 0x80)) else none
  | _ => none

end CharacterSet

namespace Switched

/-- The sets of a charset besides ASCII. All charsets have the second plane of the later edition. -/
def sets : Switched → List CharacterSet
  | korean => [.ksX1001]
  | japanese => [.jisX0208, .roman, .jisX0208Old]
  | japanese1 => [.jisX0208, .jisX0212, .roman, .jisX0208Old]
  | japanese2 =>
    [.jisX0208, .jisX0212, .ksX1001, .gb2312, .roman, .jisX0208Old, .latin1, .greek]
  | japanese3 => [.jisX0208, .jisX0213First .of2000, .jisX0213Second .of2004]
  | japanese2004 => [.jisX0208, .jisX0213First .of2004, .jisX0213Second .of2004]
  | japaneseExt => [.jisX0208, .jisX0212, .roman, .kana, .jisX0208Old]

/-- What is in force between two steps. -/
structure State where
  first : CharacterSet
  second : CharacterSet
  third : CharacterSet
  /-- Whether the second place is in use. -/
  isShifted : Bool
  /-- Whether bytes stand for themselves up to the end of an unknown escape sequence. -/
  isEscape : Bool

/-- The start of a text. -/
def State.start : State :=
  ⟨.ascii, .ascii, .ascii, false, false⟩

/-- The set in use. -/
def State.current (state : State) : CharacterSet :=
  if state.isShifted then state.second else state.first

/-- Whether a byte ends an escape sequence. -/
def isEscapeEnd (byte : Nat) : Bool :=
  (0x41 ≤ byte && byte ≤ 0x5A) || byte == '@'.toNat

/-- The longest escape sequence that is looked for. -/
def maxEscape : Nat := 16

/-- How a search for the end of an escape sequence ends. -/
inductive EscapeEnd where
  /-- The end was found; so many bytes follow the first one. -/
  | behind (more : Nat)
  /-- The sequence is too long. -/
  | tooLong
  /-- The bytes end before. -/
  | unfinished

/-- Looks for the end of an escape sequence from place `i` on. In Japanese charsets `&@` does not
end it, nor does the byte behind, which begins another sequence. -/
def escapeEnd (charset : Switched) (bytes : List Nat) (i : Nat) : EscapeEnd :=
  if maxEscape ≤ i then .tooLong
  else
    match bytes.drop i with
    | [] => .unfinished
    | byte :: rest =>
      if isEscapeEnd byte then .behind i
      else if charset ≠ .korean ∧ byte = '&'.toNat ∧ rest.head? = some '@'.toNat then
        charset.escapeEnd bytes (i + 3)
      else charset.escapeEnd bytes (i + 1)
termination_by maxEscape - i

/-- The set of a charset with a mark. -/
def set? (charset : Switched) (isWide : Bool) (mark : Char) : Option CharacterSet :=
  (CharacterSet.ascii :: charset.sets).find? fun set => set.isWide == isWide && set.mark == mark

/-- The state behind an escape sequence, which is given without its first byte, if it puts a set of
the charset to a place. -/
def State.switched? (state : State) (charset : Switched) (sequence : List Char) : Option State :=
  match sequence with
  | ['(', mark] => (charset.set? false mark).map fun set => { state with first := set }
  | [')', mark] => (charset.set? false mark).map fun set => { state with second := set }
  | ['.', mark] =>
    if charset = .japanese2 then
      (charset.set? false mark).map fun set => { state with third := set }
    else none
  | ['$', mark] | ['$', '(', mark] =>
    (charset.set? true mark).map fun set => { state with first := set }
  | ['$', ')', mark] => (charset.set? true mark).map fun set => { state with second := set }
  | ['&', '@', '\x1b', '$', 'B'] =>
    if charset = .korean then none else some { state with first := .jisX0208 }
  | _ => none

/-- Reads an escape sequence, or one character of the third place. What begins no known sequence
stands for itself. -/
def escapeStep (charset : Switched) (state : State) (rest : List Nat) : Reading State :=
  match rest with
  | [] => ⟨none, 0, state⟩
  | kind :: _ =>
    if ['(', ')', '$', '.', '&'].contains (Char.ofNat kind) then
      match charset.escapeEnd (0x1B :: rest) 1 with
      | .tooLong => ⟨none, 0, state⟩
      | .unfinished => ⟨none, rest.length, state⟩
      | .behind more =>
        match state.switched? charset ((rest.take more).map Char.ofNat) with
        | some state => ⟨some [], more, state⟩
        | none => ⟨none, more, state⟩
    else if charset = .japanese2 ∧ kind = 'N'.toNat then
      match rest with
      | _ :: byte :: _ =>
        ⟨(state.third.thirdChar? byte).map fun c => [c], 2, state⟩
      | _ => ⟨none, rest.length, state⟩
    else ⟨some ['\x1b'], 0, { state with isEscape := true }⟩

/-- Reads a character of the set in use. -/
def plainStep (state : State) (byte : Nat) (rest : List Nat) : Reading State :=
  let set := state.current
  if byte < 0x20 then ⟨some [Char.ofNat byte], 0, state⟩
  else if 0x80 ≤ byte then ⟨none, 0, state⟩
  else if set.isWide then
    match rest with
    | [] => ⟨none, 0, state⟩
    | second :: _ => ⟨set.chars? (0x100 * byte + second), 1, state⟩
  else ⟨set.chars? byte, 0, state⟩

/-- Reads a character or what stands between characters. A shift ends with its line. -/
def step (charset : Switched) (state : State) (byte : Nat) (rest : List Nat) : Reading State :=
  if state.isEscape then
    ⟨some [Char.ofNat byte], 0, { state with isEscape := !isEscapeEnd byte }⟩
  else if byte = 0x1B then charset.escapeStep state rest
  else if charset = .korean ∧ byte = 0x0E then ⟨some [], 0, { state with isShifted := true }⟩
  else if charset = .korean ∧ byte = 0x0F then ⟨some [], 0, { state with isShifted := false }⟩
  else if byte = 0x0A then ⟨some ['\n'], 0, { state with isShifted := false }⟩
  else plainStep state byte rest

/-- The characters of some bytes, `none` for what spells no character. -/
def read (charset : Switched) (bytes : List Nat) : List (Option Char) :=
  Reading.all charset.step State.start bytes

end Switched

end SchemaVisibility.Text
