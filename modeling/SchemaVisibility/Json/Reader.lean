import SchemaVisibility.Json.Basic
import SchemaVisibility.Json.Quoted

/-! # Reading JSON text

Blanks may stand around every token; a later member of a name replaces the earlier one in its place.
Besides the numbers of the JSON grammar the words `NaN`, `Infinity` and `-Infinity` are read, as
decimals. An integer of more than `maxDigits` digits is refused.
-/

namespace SchemaVisibility.Json

/-- The blanks of JSON. -/
def isBlank (c : Char) : Bool :=
  c == ' ' || c == '\n' || c == '\t' || c == '\r'

/-- The text from its first character that is no blank. -/
def skipBlanks (source : List Char) : List Char :=
  source.dropWhile isBlank

/-- What follows `word`, if the text starts with it. -/
def after? : List Char → List Char → Option (List Char)
  | [], source => some source
  | _ :: _, [] => none
  | c :: word, d :: source => if c = d then after? word source else none

/-- Splits off the leading decimal digits. -/
def readDigits (source : List Char) : List Char × List Char :=
  (source.takeWhile Char.isDigit, source.dropWhile Char.isDigit)

/-- The digits of a whole number: one zero, or a run of digits that starts with none. -/
def readWhole? (source : List Char) : Option (List Char × List Char) :=
  match source with
  | '0' :: rest => some (['0'], rest)
  | _ =>
    match readDigits source with
    | ([], _) => none
    | digits => some digits

/-- A point with digits, or nothing. -/
def readFraction (source : List Char) : List Char × List Char :=
  match source with
  | '.' :: rest =>
    match readDigits rest with
    | ([], _) => ([], source)
    | (digits, rest) => ('.' :: digits, rest)
  | _ => ([], source)

/-- An exponent mark with a sign or none and digits, or nothing. -/
def readExponent (source : List Char) : List Char × List Char :=
  match source with
  | mark :: rest =>
    if mark = 'e' ∨ mark = 'E' then
      let (sign, rest) : List Char × List Char :=
        match rest with
        | '+' :: rest => (['+'], rest)
        | '-' :: rest => (['-'], rest)
        | _ => ([], rest)
      match readDigits rest with
      | ([], _) => ([], source)
      | (digits, rest) => (mark :: sign ++ digits, rest)
    else ([], source)
  | [] => ([], source)

/-- The largest number of digits of an integer. -/
def maxDigits : Nat := 4300

/-- A number: an integer unless it has a fraction or an exponent. -/
def readNumber? (source : List Char) : Option (Json × List Char) := do
  let (negative, unsigned) : Bool × List Char :=
    match source with
    | '-' :: rest => (true, rest)
    | _ => (false, source)
  let (whole, rest) ← readWhole? unsigned
  let (fraction, rest) := readFraction rest
  let (exponent, rest) := readExponent rest
  if fraction.isEmpty && exponent.isEmpty then
    if whole.length > maxDigits then none
    let value := Nat.ofDigitChars 10 whole 0
    some (.int (if negative then -(value : Int) else value), rest)
  else
    let sign := if negative then ['-'] else []
    some (.decimal (String.ofList (sign ++ whole ++ fraction ++ exponent)), rest)

/-- The words that are values. -/
def words : List (List Char × Json) :=
  [("null".toList, .null), ("true".toList, .bool true), ("false".toList, .bool false),
    ("NaN".toList, .decimal "NaN"), ("Infinity".toList, .decimal "Infinity"),
    ("-Infinity".toList, .decimal "-Infinity")]

/-- A word or a number. -/
def readPlain? (source : List Char) : Option (Json × List Char) :=
  (words.findSome? fun (word, value) => (after? word source).map fun rest => (value, rest)).or
    (readNumber? source)

mutual

/-- Reads a value at the front of the text, to a depth of `fuel`. -/
def readValue? : Nat → List Char → Option (Json × List Char)
  | 0, _ => none
  | fuel + 1, source =>
    match source with
    | '"' :: rest => (Quoted.read? rest).map fun (text, rest) => (.str (String.ofList text), rest)
    | '[' :: rest =>
      match skipBlanks rest with
      | ']' :: rest => some (.arr [], rest)
      | rest => (readItems? fuel rest).map fun (items, rest) => (.arr items, rest)
    | '{' :: rest =>
      match skipBlanks rest with
      | '}' :: rest => some (.obj [], rest)
      | rest =>
        (readMembers? fuel rest).map fun (members, rest) => (.obj (Table.ofList members), rest)
    | _ => readPlain? source

/-- Reads at least one item and the closing bracket. -/
def readItems? : Nat → List Char → Option (List Json × List Char)
  | 0, _ => none
  | fuel + 1, source => do
    let (item, rest) ← readValue? fuel source
    match skipBlanks rest with
    | ']' :: rest => some ([item], rest)
    | ',' :: rest => do
      let (items, rest) ← readItems? fuel (skipBlanks rest)
      some (item :: items, rest)
    | _ => none

/-- Reads at least one member and the closing brace. -/
def readMembers? : Nat → List Char → Option (List (String × Json) × List Char)
  | 0, _ => none
  | fuel + 1, source =>
    match source with
    | '"' :: rest => do
      let (name, rest) ← Quoted.read? rest
      match skipBlanks rest with
      | ':' :: rest => do
        let (value, rest) ← readValue? fuel (skipBlanks rest)
        match skipBlanks rest with
        | '}' :: rest => some ([(String.ofList name, value)], rest)
        | ',' :: rest => do
          let (members, rest) ← readMembers? fuel (skipBlanks rest)
          some ((String.ofList name, value) :: members, rest)
        | _ => none
      | _ => none
    | _ => none

end

/-- Reads a text that holds one value and blanks; its length bounds the depth. -/
def parse? (text : String) : Option Json :=
  let source := text.toList
  match readValue? (2 * source.length + 1) (skipBlanks source) with
  | some (value, rest) => if (skipBlanks rest).isEmpty then some value else none
  | none => none

end SchemaVisibility.Json
