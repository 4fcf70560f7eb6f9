import SchemaVisibility.Text.Hex

/-! # Punycode

Text is written in ASCII: first its ASCII characters and a hyphen, then a run of digits that tells,
one after another in the order of their numbers, which other characters are to be put in and where.
-/

namespace SchemaVisibility.Text.Punycode

/-- Why a run of digits tells no text. -/
inductive Error where
  /-- A byte does not belong to ASCII. -/
  | noAscii
  /-- A character is no digit, a number is not finished, or a character has too large a number. -/
  | malformed
  deriving DecidableEq, Repr

/-- The value of a digit: letters in upper case count before decimal digits. -/
def digit? (byte : Nat) : Option Nat :=
  if 0x41 ≤ byte ∧ byte ≤ 0x5A then some (byte - 0x41)
  else if 0x30 ≤ byte ∧ byte ≤ 0x39 then some (byte - 0x30 + 26)
  else none

/-- The bound under which digit `j` of a number is its last one. -/
def threshold (j bias : Nat) : Nat :=
  min (max (36 * (j + 1) - bias) 1) 26

/-- Brings a number down to at most 455, and counts 36 for each step. -/
def damped (delta : Nat) : Nat :=
  if 455 < delta then 36 + damped (delta / 35) else 36 * delta / (delta + 38)
termination_by delta
decreasing_by exact Nat.div_lt_self (by omega) (by decide)

/-- The bias behind a number. -/
def adapt (delta : Nat) (isFirst : Bool) (length : Nat) : Nat :=
  let delta := if isFirst then delta / 700 else delta / 2
  damped (delta + delta / length)

/-- What was read of a run of digits. -/
structure State where
  /-- The text so far, as numbers of characters. -/
  text : List Nat
  /-- The number of the character that was put in last. -/
  code : Nat
  /-- The first place where the next one may stand. -/
  place : Nat
  bias : Nat
  isFirst : Bool
  /-- The number that is being read, the weight of its next digit, and how many were read. -/
  value : Nat
  weight : Nat
  count : Nat

/-- The state with ASCII characters only. -/
def State.start (text : List Nat) : State :=
  ⟨text, 0x80, 0, 72, true, 0, 1, 0⟩

/-- The largest number of a character. -/
def maxCode : Nat := 0x10FFFF

/-- Puts in the character that a number tells. If characters with too large a number are let pass,
they are question marks. -/
def State.insert (state : State) (delta : Nat) (isLenient : Bool) : Except Error State :=
  let size := state.text.length + 1
  let code := state.code + (state.place + delta) / size
  let place := (state.place + delta) % size
  if maxCode < code ∧ !isLenient then .error .malformed
  else
    let code := if maxCode < code then '?'.toNat else code
    let text := state.text.take place ++ code :: state.text.drop place
    .ok ⟨text, code, place + 1, adapt delta state.isFirst size, false, 0, 1, 0⟩

/-- Reads a run of digits. If errors are let pass, the text ends where one is. -/
def readDigits (isLenient : Bool) (state : State) : List Nat → Except Error (List Nat)
  | [] => if state.count = 0 ∨ isLenient then .ok state.text else .error .malformed
  | byte :: rest =>
    match digit? byte with
    | none => if isLenient then .ok state.text else .error .malformed
    | some digit =>
      let bound := threshold state.count state.bias
      let value := state.value + digit * state.weight
      if digit < bound then
        match state.insert value isLenient with
        | .ok state => readDigits isLenient state rest
        | .error error => .error error
      else
        readDigits isLenient
          { state with value, weight := state.weight * (36 - bound), count := state.count + 1 } rest

/-- A byte with lower case letters put in upper case. -/
def upperByte (byte : Nat) : Nat :=
  if 0x61 ≤ byte ∧ byte ≤ 0x7A then byte - 0x20 else byte

/-- The characters of some bytes: those in front of the last hyphen, with what the digits behind it
put in. If errors are let pass, U+FFFD stands for bytes in front that do not belong to ASCII. -/
def read (isLenient : Bool) (bytes : List Nat) : Except Error (List Char) := do
  let hyphen := '-'.toNat
  let digits := (bytes.reverse.takeWhile (· != hyphen)).reverse
  let front := bytes.take (bytes.length - digits.length - 1)
  if (!isLenient && front.any (0x80 ≤ ·)) || digits.any (0x80 ≤ ·) then throw .noAscii
  let front := front.map fun byte => if byte < 0x80 then byte else 0xFFFD
  return ofUnits (← readDigits isLenient (.start front) (digits.map upperByte))

/-! ## Writing -/

/-- A digit, in lower case. -/
def digitChar (digit : Nat) : Char :=
  if digit < 26 then Char.ofNat (0x61 + digit) else Char.ofNat (0x30 + (digit - 26))

/-- The digits of a number, of which `j` are written already. -/
def writeNumber (bias j value : Nat) : List Char :=
  let bound := threshold j bias
  if h : value < bound ∨ value = 0 then [digitChar value]
  else
    have : (value - bound) / (36 - bound) < value :=
      Nat.lt_of_le_of_lt (Nat.div_le_self _ _) (by
        have : 1 ≤ bound := by simp only [bound, threshold]; omega
        omega)
    digitChar (bound + (value - bound) % (36 - bound)) ::
      writeNumber bias (j + 1) ((value - bound) / (36 - bound))
termination_by value

/-- What is known while digits are written. -/
structure Writer where
  digits : List Char
  /-- How much the next number has to tell so far. -/
  delta : Nat
  bias : Nat
  /-- How many characters are written. -/
  count : Nat
  isFirst : Bool

/-- Writes where one character stands in a text: `code` is its number, and smaller characters are
there already. -/
def writeCode (text : List Nat) (writer : Writer) (code : Nat) : Writer :=
  text.foldl (fun writer c =>
    if c < code then { writer with delta := writer.delta + 1 }
    else if c = code then
      ⟨writer.digits ++ writeNumber writer.bias 0 writer.delta, 0,
        adapt writer.delta writer.isFirst (writer.count + 1), writer.count + 1, false⟩
    else writer) writer

/-- The written form of a text. -/
def write (text : List Char) : List Char :=
  let codes := text.map Char.toNat
  let front := text.filter fun c => c.toNat < 0x80
  let others := ((codes.filter (0x80 ≤ ·)).mergeSort).eraseDups
  let start : Writer × Nat := (⟨[], 0, 72, front.length, true⟩, 0x80)
  let (writer, _) := others.foldl (fun (writer, code) next =>
    let delta := writer.delta + (next - code) * (writer.count + 1)
    let writer := writeCode codes { writer with delta } next
    ({ writer with delta := writer.delta + 1 }, next + 1)) start
  (if front.isEmpty then [] else front ++ ['-']) ++ writer.digits

end SchemaVisibility.Text.Punycode
