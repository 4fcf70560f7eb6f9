import SchemaVisibility.Text.Percent

/-! # Addresses

The address of a request is a path with a query behind it. A scheme and a host in front and a
fragment at the end may be there and are not kept, but a host in brackets has to be a numeric one.
Escapes in the path are read as UTF-8, and bytes that spell no character stay escaped; escapes in
the query are left to those who read it as a form.
-/

namespace SchemaVisibility.Endpoint

open Text

/-- Where a request goes. -/
structure Address where
  path : String
  /-- The query as it is written. -/
  query : List Char
  deriving DecidableEq, Repr, Inhabited

namespace Address

/-! ## Hosts -/

/-- Whether a text is made of hexadecimal digits, one to four. -/
def isHexGroup (text : List Char) : Bool :=
  1 ≤ text.length && text.length ≤ 4 && text.all fun c => (hexValue? c).isSome

/-- Whether a text is a number below 256 without needless zeros. -/
def isOctet (text : List Char) : Bool :=
  1 ≤ text.length && text.length ≤ 3 && text.all Char.isDigit &&
    (text.head? != some '0' || text.length == 1) && Nat.ofDigitChars 10 text 0 < 256

/-- Whether a text is four numbers with points between them. -/
def isDottedQuad (text : List Char) : Bool :=
  let octets := text.splitOn '.'
  octets.length == 4 && octets.all isOctet

/-- Whether groups spell a numeric host of eight groups. Once, two or more groups that are zero may
be left out, which leaves an empty group, and a second one beside it at an end. -/
def isGroupList (groups : List (List Char)) : Bool :=
  let inner := (groups.drop 1).dropLast
  match inner.findIdx? List.isEmpty with
  | none => groups.length == 8 && groups.all isHexGroup
  | some i =>
    let front := groups.take (i + 1)
    let back := groups.drop (i + 2)
    let front := if front = [[]] then [] else front
    let back := if back = [[]] then [] else back
    front.length + back.length < 8 && (front ++ back).all isHexGroup

/-- Whether a text is a numeric host of eight groups, of which the last two may be written with
points. A zone may follow. -/
def isNumericHost (text : List Char) : Bool :=
  let zone := text.dropWhile (· != '%')
  let groups := (text.takeWhile (· != '%')).splitOn ':'
  let last := groups.getLast?.getD []
  let groups :=
    if last.contains '.' then
      if isDottedQuad last then groups.dropLast ++ [['0'], ['0']] else [[]]
    else groups
  (zone.isEmpty || (2 ≤ zone.length && !(zone.drop 1).contains '%')) && 3 ≤ groups.length &&
    isGroupList groups

/-- Whether a text is a host of a kind yet to come: `v`, a version in hexadecimal digits, a point,
and more. -/
def isFutureHost (text : List Char) : Bool :=
  match text with
  | 'v' :: rest =>
    let version := rest.takeWhile fun c => (hexValue? c).isSome
    !version.isEmpty && (rest.drop version.length).head? == some '.' &&
      version.length + 2 ≤ rest.length
  | _ => false

/-- The text behind the last `mark`, or all of it. -/
def behindLast (mark : Char) (text : List Char) : List Char :=
  (text.reverse.takeWhile (· != mark)).reverse

/-- Whether brackets in an authority enclose its host, and the host is numeric or of a kind yet to
come. -/
def bracketsFit (authority : List Char) : Bool :=
  let place := behindLast '@' authority
  let inside := (place.dropWhile (· != '[')).drop 1
  let host :=
    if place.contains '[' then inside.takeWhile (· != ']') else place.takeWhile (· != ':')
  let behind := (inside.dropWhile (· != ']')).drop 1
  (!place.contains '[' ||
      (place.head? == some '[' && (behind.isEmpty || behind.head? == some ':'))) &&
    (isFutureHost host || (host.head? != some 'v' && isNumericHost host))

/-- Characters that are compatible with a text that holds one of the marks between the parts of an
address. -/
def disguises : List Char :=
  ['⁇', '⁈', '⁉', '℀', '℁', '℅', '℆', '⩴', '︓', '︖', '﹕', '﹖', '﹟', '﹫', '＃', '／', '：', '？',
    '＠']

/-- Whether what stands for the host is acceptable. -/
def isAuthority (authority : List Char) : Bool :=
  (if authority.contains '[' || authority.contains ']' then
    authority.contains '[' && authority.contains ']' && bracketsFit authority
  else true) && !authority.any disguises.contains

/-! ## Parts -/

/-- Whether a character may stand in a scheme. -/
def isSchemeChar (c : Char) : Bool :=
  c.isAlphanum || c == '+' || c == '-' || c == '.'

/-- The text without a scheme in front. -/
def dropScheme (text : List Char) : List Char :=
  let scheme := text.takeWhile isSchemeChar
  match text.drop scheme.length with
  | ':' :: rest => if scheme.head?.any Char.isAlpha then rest else text
  | _ => text

/-- A piece of a path: its character, or its bytes as escapes. -/
def pieceText : Utf8.Piece → List Char
  | .char c => [c]
  | .broken bytes => bytes.flatMap Percent.escapeByte

/-- The path that a text spells. There is always one slash in front, for which the first slash of
the text is taken. -/
def readPath (text : List Char) : String :=
  let path := (Utf8.pieces (Percent.unescape (Utf8.encode text))).flatMap pieceText
  String.ofList ('/' :: path.erase '/')

/-- The address that a text spells, if its host is acceptable. Control characters and blanks in
front and line breaks and tabs anywhere do not count. -/
def parse? (text : String) : Option Address :=
  let text := (text.toList.dropWhile fun c => c ≤ ' ').filter fun c =>
    c != '\t' && c != '\r' && c != '\n'
  let text := dropScheme text
  let (authority, text) : List Char × List Char :=
    match text with
    | '/' :: '/' :: rest =>
      let isEnd (c : Char) : Bool := c == '/' || c == '?' || c == '#'
      (rest.takeWhile (!isEnd ·), rest.dropWhile (!isEnd ·))
    | _ => ([], text)
  let text := text.takeWhile (· != '#')
  if isAuthority authority then
    some ⟨readPath (text.takeWhile (· != '?')), (text.dropWhile (· != '?')).drop 1⟩
  else none

end Address

end SchemaVisibility.Endpoint
