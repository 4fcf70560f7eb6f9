import SchemaVisibility.Text.CharName
import SchemaVisibility.Text.Reading

/-! # Escaped text

Bytes are the characters of their numbers, but a backslash begins an escape that names a character
by its number. There is a full form with many escapes and a raw one that knows only `u` and `U`.
-/

namespace SchemaVisibility.Text

/-- A form of escaped text. -/
inductive Escaped where
  | full
  | raw
  deriving DecidableEq, Repr

namespace Escaped

/-- What a backslash and some bytes behind it spell; `more` counts the bytes behind it. -/
inductive Spelled where
  | number (value more : Nat)
  /-- Nothing is spelled: a line end that is joined to the next line. -/
  | nothing
  | broken (more : Nat)

/-- How many of at most `limit` bytes in front are digits, and the number that they spell. -/
def digitRun (digit? : Char → Option Nat) (base limit : Nat) (bytes : List Nat) : Nat × Nat :=
  let values := (bytes.take limit).map fun byte => digit? (Char.ofNat byte)
  let digits := values.takeWhile Option.isSome
  (digits.length, digits.foldl (fun value digit => value * base + digit.getD 0) 0)

/-- The value of an octal digit. -/
def octalValue? (c : Char) : Option Nat :=
  if '0' ≤ c ∧ c ≤ '7' then some (c.toNat - '0'.toNat) else none

/-- A number of exactly `limit` hexadecimal digits behind a letter. -/
def hexEscape (limit : Nat) (rest : List Nat) : Spelled :=
  let (count, value) := digitRun hexValue? 16 limit rest
  if count < limit ∨ 0x10FFFF < value then .broken (1 + count) else .number value (1 + limit)

/-- A name in braces behind a letter. -/
def nameEscape (rest : List Nat) : Spelled :=
  if rest.head? = some 0x7B then
    let name := (rest.drop 1).takeWhile (· != 0x7D)
    let isClosed := 1 + name.length < rest.length
    if !isClosed then .broken (1 + rest.length)
    else if name.isEmpty then .broken 2
    else
      match CharName.ofName? (name.map Char.ofNat) with
      | some c => .number c.toNat (name.length + 3)
      | none => .broken (name.length + 3)
  else .broken 1

/-- The escapes of one letter or sign. -/
def simple : List (Char × Char) :=
  [('\\', '\\'), ('\'', '\''), ('"', '"'), ('a', '\x07'), ('b', '\x08'), ('f', '\x0c'),
    ('n', '\n'), ('r', '\r'), ('t', '\t'), ('v', '\x0b')]

/-- What a backslash spells with the bytes behind it, if it begins an escape. -/
def escape? (form : Escaped) : List Nat → Option Spelled
  | [] => if form = .full then some (.broken 0) else none
  | kind :: rest =>
    match Char.ofNat kind with
    | 'u' => some (hexEscape 4 rest)
    | 'U' => some (hexEscape 8 rest)
    | c =>
      if form = .raw then none
      else if c = 'x' then some (hexEscape 2 rest)
      else if c = 'N' then some (nameEscape rest)
      else if c = '\n' then some .nothing
      else if (octalValue? c).isSome then
        let (count, value) := digitRun octalValue? 8 3 (kind :: rest)
        some (.number value count)
      else (simple.lookup c).map fun spelled => .number spelled.toNat 1

/-- The second half of a surrogate pair that an escape in front spells, and how many bytes it
has. -/
def lowHalf? (form : Escaped) : List Nat → Option (Nat × Nat)
  | 0x5C :: rest =>
    match form.escape? rest with
    | some (.number value more) => if isLowSurrogate value then some (value, 1 + more) else none
    | _ => none
  | _ => none

/-- Reads a character. Escapes for the two halves of a surrogate pair spell one character. A
backslash that begins no escape stands for itself, and so does what follows it. -/
def step (form : Escaped) (byte : Nat) (rest : List Nat) : Reading Unit :=
  if byte ≠ 0x5C then .single byte
  else
    match form.escape? rest with
    | none => ⟨some ('\\' :: (rest.take 1).map Char.ofNat), 1, ()⟩
    | some .nothing => ⟨some [], 1, ()⟩
    | some (.broken more) => .broken more
    | some (.number value more) =>
      match if isHighSurrogate value then form.lowHalf? (rest.drop more) else none with
      | some (low, length) => ⟨some [Char.ofNat (joinSurrogates value low)], more + length, ()⟩
      | none => ⟨some [unitChar value], more, ()⟩

/-- The characters of some bytes, `none` for what spells no character. -/
def read (form : Escaped) (bytes : List Nat) : List (Option Char) :=
  Reading.allPlain form.step bytes

end Escaped

end SchemaVisibility.Text
