import SchemaVisibility.Table
import SchemaVisibility.Text.Blank
import SchemaVisibility.Text.Case
import SchemaVisibility.Text.Percent

/-! # Content types

A header that tells the type of a content holds a media type and, behind semicolons, parameters. A
parameter may be quoted, may be cut into numbered segments, and may be escaped with a charset of its
own in front.
-/

namespace SchemaVisibility.Endpoint

open Text

/-- Why a header cannot be read. -/
inductive HeaderError where
  /-- The number of a segment has too many digits. -/
  | longNumber
  /-- Of the segments of a parameter some have numbers and some have none. -/
  | mixedSegments
  /-- The name of a charset holds a null character. -/
  | nullInName
  /-- Escaped text names a charset that is not known. -/
  | unknownCharset
  /-- Escaped text cannot be read by its charset. -/
  | unreadable (error : ReadError)
  deriving DecidableEq, Repr

/-- The type of a content. -/
structure ContentType where
  /-- The media type, in lower case. -/
  media : String
  parameters : Table String
  deriving DecidableEq, Repr, Inhabited

namespace ContentType

/-- The largest number of digits in the number of a segment. -/
def maxDigits : Nat := 4300

/-- The parts of a header between semicolons. A semicolon behind an odd number of quotation marks,
escaped ones left out, belongs to its part. `part` is what was read of the part, last character
first. -/
def splitParts (part : List Char) (quoted : Bool) : List Char → List (List Char)
  | [] => [part.reverse]
  | '\\' :: '"' :: rest => splitParts ('"' :: '\\' :: part) quoted rest
  | '"' :: rest => splitParts ('"' :: part) (!quoted) rest
  | ';' :: rest =>
    if quoted then splitParts (';' :: part) quoted rest
    else part.reverse :: splitParts [] false rest
  | c :: rest => splitParts (c :: part) quoted rest

/-- The name and the value of a part. Only a name with a value is put in lower case. -/
def namedPart (part : List Char) : List Char × List Char :=
  if part.contains '=' then
    (lower (trim (part.takeWhile (· != '='))), trim ((part.dropWhile (· != '=')).drop 1))
  else (trim part, [])

/-- Reads the escapes of quoted text: a backslash stands for itself or for a quotation mark if one
of them follows, in two passes. -/
def unescapeQuoted (text : List Char) : List Char :=
  marks (backslashes text)
where
  /-- Two backslashes are one. -/
  backslashes : List Char → List Char
    | '\\' :: '\\' :: rest => '\\' :: backslashes rest
    | c :: rest => c :: backslashes rest
    | [] => []
  /-- A backslash in front of a quotation mark goes. -/
  marks : List Char → List Char
    | '\\' :: '"' :: rest => '"' :: marks rest
    | c :: rest => c :: marks rest
    | [] => []

/-- The text between quotation marks or angle brackets, or the text itself. -/
def unquote (text : List Char) : List Char :=
  if text.length < 2 then text
  else if text.head? = some '"' && text.getLast? = some '"' then
    unescapeQuoted (text.drop 1).dropLast
  else if text.head? = some '<' && text.getLast? = some '>' then (text.drop 1).dropLast
  else text

/-! ## Segments -/

/-- A segment of a parameter: its number, its text, and whether it is escaped. -/
structure Segment where
  number : Option Nat
  text : List Char
  escaped : Bool
  deriving DecidableEq, Repr

/-- The order of segments: by number, then by text, with escaped ones last. -/
def Segment.le (a b : Segment) : Bool :=
  let key (s : Segment) : Nat := s.number.getD 0
  if key a ≠ key b then key a < key b
  else if a.text ≠ b.text then a.text < b.text
  else !a.escaped || b.escaped

/-- The name of a segment's parameter and the digits of its number, if a name is that of a segment:
a word, an asterisk, and perhaps a number with or without another asterisk. -/
def segmentName? (name : List Char) : Option (List Char × Option (List Char)) :=
  let isWord (c : Char) : Bool := c.isAlphanum || c == '_'
  let word := name.takeWhile isWord
  match name.drop word.length with
  | '*' :: rest =>
    let digits := rest.takeWhile Char.isDigit
    let last := rest.drop digits.length
    if word.isEmpty then none
    else if rest.isEmpty then some (word, none)
    else if !digits.isEmpty && (last.isEmpty || last == ['*']) then some (word, some digits)
    else none
  | _ => none

/-- The bytes for which the characters of a text stand. A character that is no byte is spelled by
its number. -/
def charBytes (c : Char) : List UInt8 :=
  if c.toNat < 0x100 then [UInt8.ofNat c.toNat]
  else
    let spelling :=
      if c.toNat < 0x10000 then '\\' :: 'u' :: fourHex c.toNat
      else '\\' :: 'U' :: fourHex (c.toNat / 0x10000) ++ fourHex c.toNat
    Percent.asciiBytes spelling

/-- The value of escaped text: a charset, a language and the text, with apostrophes between them.
Without them the text is ASCII, and without a charset that yields text it stays as it is. -/
def readCharsetText (text : List Char) : Except HeaderError (List Char) :=
  let behind (text : List Char) : List Char := (text.dropWhile (· != '\'')).drop 1
  let isComplete := 2 ≤ text.count '\''
  let name := if isComplete then text.takeWhile (· != '\'') else "ascii".toList
  let value := if isComplete then behind (behind text) else text
  let charset? := Charset.ofName? name
  if name.contains '\x00' then .error .nullInName
  else if !name.isEmpty && charset?.isNone then .error .unknownCharset
  else
    match (charset?.getD .bytesOnly).read .lenient (value.flatMap charBytes) with
    | .ok text => .ok text
    | .error .noText => .ok (unquote value)
    | .error error => if value.isEmpty then .ok [] else .error (.unreadable error)

/-- Whether some segments have numbers and some have none. -/
def areMixed (segments : List Segment) : Bool :=
  segments.any (fun segment => segment.number.isNone) &&
    segments.any (fun segment => segment.number.isSome)

/-- The value that segments make up. -/
def joinSegments (segments : List Segment) : Except HeaderError (List Char) := do
  let latin1 : Charset := .codePage CodePage.latin1
  let texts ← (segments.mergeSort Segment.le).mapM fun segment =>
    if segment.escaped then
      (Percent.readEscapes latin1 segment.text).mapError HeaderError.unreadable
    else .ok segment.text
  if segments.any Segment.escaped then readCharsetText texts.flatten else return texts.flatten

/-- Puts a segment to those of its parameter. -/
def addSegment (table : Table (List Segment)) (name : List Char) (segment : Segment) :
    Table (List Segment) :=
  let name := String.ofList name
  table.insert name ((table.get? name).getD [] ++ [segment])

/-- The whole parameters among named parts, and the segments of the others by name. -/
def sortParts : List (List Char × List Char) →
    Except HeaderError (List (String × List Char) × Table (List Segment)) :=
  List.foldlM (fun (whole, cut) (name, value) => do
    let value := unquote value
    match segmentName? name with
    | none => return (whole ++ [(String.ofList name, value)], cut)
    | some (word, digits) =>
      if (digits.getD []).length > maxDigits then throw HeaderError.longNumber
      let number := digits.map fun digits => Nat.ofDigitChars 10 digits 0
      return (whole, addSegment cut word ⟨number, value, name.getLast? = some '*'⟩)) ([], [])

/-- The parameters of named parts. Segments count after whole parameters, and what has no name does
not count. -/
def readParameters (parts : List (List Char × List Char)) : Except HeaderError (Table String) := do
  let (whole, cut) ← sortParts parts
  if cut.any fun (_, segments) => areMixed segments then throw .mixedSegments
  let joined ← cut.mapM fun (name, segments) => do return (name, ← joinSegments segments)
  let named := (whole ++ joined).filter fun (name, _) => name != ""
  return Table.ofList (named.map fun (name, value) => (name, String.ofList value))

/-- The content type that a header tells. -/
def parse (header : String) : Except HeaderError ContentType := do
  let text := header.toList
  if !text.contains ';' then return ⟨String.ofList (lower (trim text)), []⟩
  match (splitParts [] false text).map namedPart with
  | [] => return ⟨"", []⟩
  | (name, _) :: parts => return ⟨String.ofList (lower name), ← readParameters parts⟩

/-- The name of the charset that a content type tells, and the charset, if it is a known one. -/
def charset? (type : ContentType) : Except HeaderError (Option (String × Charset)) :=
  match type.parameters.get? "charset" with
  | none => .ok none
  | some name =>
    if name.toList.contains '\x00' then .error .nullInName
    else .ok ((Charset.ofName? name.toList).map fun charset => (name, charset))

/-- Whether a text can stand between the parts of a content: printable ASCII, at most 201
characters, with no space at the end. -/
def isBoundary (text : List Char) : Bool :=
  1 ≤ text.length && text.length ≤ 201 && text.all (fun c => ' ' ≤ c && c ≤ '~') &&
    text.getLast? != some ' '

end ContentType

end SchemaVisibility.Endpoint
