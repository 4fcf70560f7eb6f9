import SchemaVisibility.GraphQL.Document
import SchemaVisibility.Text.Hex
import SchemaVisibility.Text.Name

/-! # Tokens

A source text is a run of tokens with blanks, commas, byte order marks and comments between them.
`tokens?` splits it; a text is refused at the first place where no token starts or where one is left
open.
-/

namespace SchemaVisibility.GraphQL

/-- Why a source text is refused. -/
inductive SyntaxError where
  /-- No token of the language starts here, or the one that starts is malformed. -/
  | malformed (position : Position)
  /-- The token here does not continue the text; without a position, the text ends too early. -/
  | unexpected (position : Option Position)
  deriving DecidableEq, Repr

/-- The tokens. -/
inductive Lexeme where
  | mark (c : Char)
  | ellipsis
  | name (text : String)
  | int (text : String)
  | float (text : String)
  | str (text : String)
  deriving DecidableEq, Repr, Inhabited

/-- A token and where it starts. -/
structure Token where
  position : Position
  lexeme : Lexeme
  deriving DecidableEq, Repr, Inhabited

namespace Position

/-- The first place of a text. -/
def start : Position :=
  ⟨1, 1⟩

/-- The place after a character, when `rest` follows it. Of a carriage return and a line feed after
it only the line feed counts. -/
def past (p : Position) (c : Char) (rest : List Char) : Position :=
  if c = '\n' then ⟨p.line + 1, 1⟩
  else if c = '\r' then if rest.head? = some '\n' then p else ⟨p.line + 1, 1⟩
  else ⟨p.line, p.column + 1⟩

/-- The place after a piece of text. A carriage return and the line feed after it end one line. -/
def advance : Position → List Char → Position
  | p, [] => p
  | p, '\r' :: '\n' :: rest => advance ⟨p.line + 1, 1⟩ rest
  | p, c :: rest =>
    if c = '\n' ∨ c = '\r' then advance ⟨p.line + 1, 1⟩ rest
    else advance ⟨p.line, p.column + 1⟩ rest

end Position

namespace Lexeme

/-- The tokens of one character. -/
def marks : List Char :=
  ['!', '$', '&', '(', ')', ':', '=', '@', '[', ']', '{', '|', '}']

/-- What may stand between tokens besides comments. -/
def isIgnored (c : Char) : Bool :=
  c == ' ' || c == '\t' || c == '\n' || c == '\r' || c == ',' || c == '\ufeff'

/-- Whether a character ends a line. -/
def endsLine (c : Char) : Bool :=
  c == '\n' || c == '\r'

/-- The text from its next token and its place; `comment` tells whether it starts inside a
comment. -/
def skip : Bool → Position → List Char → Position × List Char
  | _, place, [] => (place, [])
  | true, place, c :: rest => skip (!endsLine c) (place.past c rest) rest
  | false, place, c :: rest =>
    if isIgnored c then skip false (place.past c rest) rest
    else if c = '#' then skip true (place.past c rest) rest
    else (place, c :: rest)

/-- Splits off leading digits, at least one. -/
def digits? (source : List Char) : Option (List Char × List Char) :=
  match source.takeWhile Char.isDigit with
  | [] => none
  | ds => some (ds, source.dropWhile Char.isDigit)

/-- A whole part: a sign or none and digits that start with zero only if they are one zero. -/
def whole? (source : List Char) : Option (List Char × List Char) := do
  let (sign, unsigned) : List Char × List Char :=
    match source with
    | '-' :: rest => (['-'], rest)
    | _ => ([], source)
  match ← digits? unsigned with
  | ('0' :: _ :: _, _) => none
  | (ds, rest) => some (sign ++ ds, rest)

/-- A point and the digits that must follow it. -/
def fraction? (source : List Char) : Option (List Char × List Char) :=
  match source with
  | '.' :: rest => (digits? rest).map fun (ds, rest) => ('.' :: ds, rest)
  | _ => some ([], source)

/-- An exponent mark, a sign or none, and the digits that must follow. -/
def exponent? (source : List Char) : Option (List Char × List Char) :=
  match source with
  | [] => some ([], [])
  | e :: rest =>
    if e = 'e' ∨ e = 'E' then
      let (sign, unsigned) : List Char × List Char :=
        match rest with
        | '+' :: rest => (['+'], rest)
        | '-' :: rest => (['-'], rest)
        | _ => ([], rest)
      (digits? unsigned).map fun (ds, rest) => (e :: sign ++ ds, rest)
    else some ([], source)

/-- A number must not run into a name or another fraction. -/
def numberEnds : List Char → Bool
  | [] => true
  | c :: _ => !(c == '.' || Text.isNameStart c)

/-- A number. -/
def number? (source : List Char) : Option (Lexeme × List Char) := do
  let (whole, rest) ← whole? source
  let (fraction, rest) ← fraction? rest
  let (exponent, rest) ← exponent? rest
  if numberEnds rest then
    let text := String.ofList (whole ++ fraction ++ exponent)
    some (if fraction.isEmpty && exponent.isEmpty then .int text else .float text, rest)
  else none

/-- The character behind a one-letter escape. -/
def escape? : Char → Option Char
  | '"' => some '"'
  | '\\' => some '\\'
  | '/' => some '/'
  | 'b' => some '\x08'
  | 'f' => some '\x0c'
  | 'n' => some '\n'
  | 'r' => some '\r'
  | 't' => some '\t'
  | _ => none

/-- The character behind `\u` and four digits, or two such escapes that form a surrogate pair. -/
def fixedEscape? : List Char → Option (Char × List Char)
  | a :: b :: c :: d :: rest => do
    let u ← Text.hexNumber? [a, b, c, d]
    if Text.isScalar u then some (Char.ofNat u, rest)
    else
      match rest with
      | '\\' :: 'u' :: e :: f :: g :: h :: rest => do
        let v ← Text.hexNumber? [e, f, g, h]
        if Text.isHighSurrogate u && Text.isLowSurrogate v then
          some (Char.ofNat (Text.joinSurrogates u v), rest)
        else none
      | _ => none
  | _ => none

/-- The character behind `\u` and one to eight digits in braces. -/
def bracedEscape? (source : List Char) : Option (Char × List Char) := do
  let ds := source.takeWhile (· != '}')
  if ds.isEmpty || 8 < ds.length then none
  let u ← Text.hexNumber? ds
  match source.drop ds.length with
  | _ :: rest => if Text.isScalar u then some (Char.ofNat u, rest) else none
  | [] => none

/-- The characters of a string up to its closing quotation mark, which must stand on its line. The
length of the text bounds the number of steps. -/
def string? : Nat → List Char → Option (List Char × List Char)
  | 0, _ => none
  | _, [] => none
  | _, '"' :: rest => some ([], rest)
  | fuel + 1, '\\' :: 'u' :: '{' :: rest => do
    let (c, rest) ← bracedEscape? rest
    (string? fuel rest).map fun (cs, rest) => (c :: cs, rest)
  | fuel + 1, '\\' :: 'u' :: rest => do
    let (c, rest) ← fixedEscape? rest
    (string? fuel rest).map fun (cs, rest) => (c :: cs, rest)
  | fuel + 1, '\\' :: l :: rest => do
    let c ← escape? l
    (string? fuel rest).map fun (cs, rest) => (c :: cs, rest)
  | fuel + 1, c :: rest =>
    if endsLine c || c == '\\' then none
    else (string? fuel rest).map fun (cs, rest) => (c :: cs, rest)

/-- The raw characters of a block string up to its three closing quotation marks. -/
def block? : List Char → Option (List Char × List Char)
  | [] => none
  | '"' :: '"' :: '"' :: rest => some ([], rest)
  | '\\' :: '"' :: '"' :: '"' :: rest =>
    (block? rest).map fun (cs, rest) => ('"' :: '"' :: '"' :: cs, rest)
  | c :: rest => (block? rest).map fun (cs, rest) => (c :: cs, rest)

/-- The lines of a text, at least one. -/
def lines : List Char → List (List Char)
  | [] => [[]]
  | '\r' :: '\n' :: rest => [] :: lines rest
  | c :: rest =>
    if endsLine c then [] :: lines rest
    else
      match lines rest with
      | [] => [[c]]
      | line :: more => (c :: line) :: more

/-- The blanks of an indentation. -/
def isIndent (c : Char) : Bool :=
  c == ' ' || c == '\t'

/-- The smallest indentation among the lines that hold more than blanks. -/
def commonIndent? (lines : List (List Char)) : Option Nat :=
  ((lines.filter fun line => !line.all isIndent).map fun line =>
    (line.takeWhile isIndent).length).min?

/-- The text of a block string: the common indentation of all lines but the first is taken away,
and so are blank lines at either end. -/
def dedent (raw : List Char) : List Char :=
  match lines raw with
  | [] => []
  | first :: more =>
    let indent := (commonIndent? more).getD 0
    let all := first :: more.map (List.drop indent)
    let isBlankLine : List Char → Bool := fun line => line.all isIndent
    let trimmed := ((all.dropWhile isBlankLine).reverse.dropWhile isBlankLine).reverse
    List.intercalate ['\n'] trimmed

/-- The token at the front of a text, and what follows it. -/
def read? (source : List Char) : Option (Lexeme × List Char) :=
  match source with
  | '.' :: '.' :: '.' :: rest => some (.ellipsis, rest)
  | '"' :: '"' :: '"' :: rest =>
    (block? rest).map fun (cs, rest) => (.str (String.ofList (dedent cs)), rest)
  | '"' :: rest =>
    (string? (rest.length + 1) rest).map fun (cs, rest) => (.str (String.ofList cs), rest)
  | c :: rest =>
    if marks.contains c then some (.mark c, rest)
    else
      match Text.name? source with
      | some (word, rest) => some (.name (String.ofList word), rest)
      | none => number? source
  | [] => none

/-- The number of characters of a token, if its value tells it: all but strings stand on one line as
they are written. -/
def width? : Lexeme → Option Nat
  | mark _ => some 1
  | ellipsis => some 3
  | name text | int text | float text => some text.length
  | str _ => none

end Lexeme

namespace Token

/-- The place after a token at the front of a text, when `rest` follows it. -/
def placeAfter (place : Position) (lexeme : Lexeme) (source rest : List Char) : Position :=
  match lexeme.width? with
  | some width => ⟨place.line, place.column + width⟩
  | none => place.advance (source.take (source.length - rest.length))

/-- The tokens of a text that starts at a position. The length of the text bounds the number of
steps. -/
def readAll : Nat → Position → List Char → Except SyntaxError (List Token)
  | 0, position, _ => .error (.malformed position)
  | fuel + 1, position, source =>
    match Lexeme.skip false position source with
    | (_, []) => .ok []
    | (position, source) =>
      match Lexeme.read? source with
      | none => .error (.malformed position)
      | some (lexeme, rest) => do
        let tokens ← readAll fuel (placeAfter position lexeme source rest) rest
        .ok (⟨position, lexeme⟩ :: tokens)

/-- Splits a source text into its tokens. -/
def tokens? (source : String) : Except SyntaxError (List Token) :=
  readAll (source.length + 1) .start source.toList

end Token

end SchemaVisibility.GraphQL
