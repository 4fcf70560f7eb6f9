import SchemaVisibility.Text.Chinese
import SchemaVisibility.Text.CodePage.Dos
import SchemaVisibility.Text.CodePage.Ebcdic
import SchemaVisibility.Text.CodePage.Macintosh
import SchemaVisibility.Text.CodePage.National
import SchemaVisibility.Text.CodePage.Windows
import SchemaVisibility.Text.Escaped
import SchemaVisibility.Text.HostName
import SchemaVisibility.Text.Korean
import SchemaVisibility.Text.Switched
import SchemaVisibility.Text.Utf7
import SchemaVisibility.Text.Utf8

/-! # Charsets

A charset reads bytes as characters. Where bytes spell no character, a strict reader gives up and a
lenient one puts U+FFFD in place of each piece that is broken. `read_utf8_encode` says that encoded
text reads back in both ways.

Names of charsets are compared in lower case, and any run of characters between their letters and
digits counts as one underscore.
-/

namespace SchemaVisibility.Text

/-- The order of the bytes of a number. -/
inductive ByteOrder where
  | littleEndian
  | bigEndian
  deriving DecidableEq, Repr

/-- A way to read bytes. -/
inductive Charset where
  | utf8
  /-- UTF-8 that may begin with a byte order mark. -/
  | utf8Signed
  /-- UTF-16. Without a given order a byte order mark tells it, and else it is little-endian. -/
  | utf16 (order : Option ByteOrder)
  /-- UTF-32, with its order given or told like that of UTF-16. -/
  | utf32 (order : Option ByteOrder)
  | utf7
  | codePage (page : CodePage)
  | chinese (charset : Chinese)
  | korean (charset : Korean)
  | japanese (charset : Japanese)
  | switched (charset : Switched)
  | escaped (form : Escaped)
  | punycode
  | hostName
  /-- A known name of a charset that reads nothing. -/
  | undefined
  /-- A known way to transform bytes that yields no text. -/
  | bytesOnly
  deriving DecidableEq, Repr

/-- How to read bytes that spell no character. -/
inductive ReadMode where
  | strict
  /-- With U+FFFD in their place. -/
  | lenient
  deriving DecidableEq, Repr

/-- Why bytes cannot be read. -/
inductive ReadError where
  /-- Some bytes spell no character. -/
  | broken
  /-- The charset refuses to read the bytes. -/
  | refused
  /-- What should be a charset yields no text. -/
  | noText
  deriving DecidableEq, Repr

namespace ByteOrder

/-- The number that some bytes spell. -/
def number (order : ByteOrder) (bytes : List UInt8) : Nat :=
  let digits := match order with
    | .littleEndian => bytes.reverse
    | .bigEndian => bytes
  digits.foldl (fun value byte => value * 0x100 + byte.toNat) 0

/-- Reads bytes as UTF-16 in this order. -/
def readUtf16 (order : ByteOrder) : List UInt8 → List (Option Char)
  | [] => []
  | [_] => [none]
  | [a, b] =>
    let u := order.number [a, b]
    [if isScalar u then some (Char.ofNat u) else none]
  | [a, b, _] =>
    let u := order.number [a, b]
    if isScalar u then [some (Char.ofNat u), none]
    else if isHighSurrogate u then [none] else [none, none]
  | a :: b :: c :: d :: rest =>
    let u := order.number [a, b]
    let v := order.number [c, d]
    if isHighSurrogate u && isLowSurrogate v then
      some (Char.ofNat (joinSurrogates u v)) :: order.readUtf16 rest
    else (if isScalar u then some (Char.ofNat u) else none) :: order.readUtf16 (c :: d :: rest)

/-- Reads bytes as UTF-32 in this order. -/
def readUtf32 (order : ByteOrder) : List UInt8 → List (Option Char)
  | [] => []
  | a :: b :: c :: d :: rest =>
    let u := order.number [a, b, c, d]
    (if isScalar u then some (Char.ofNat u) else none) :: order.readUtf32 rest
  | _ => [none]

end ByteOrder

namespace ReadMode

/-- The text of some characters, `none` for what spells none. -/
def settle (mode : ReadMode) (chars : List (Option Char)) : Except ReadError (List Char) :=
  match mode with
  | .strict =>
    match chars.mapM id with
    | some text => .ok text
    | none => .error .broken
  | .lenient => .ok (chars.map fun c => c.getD (Char.ofNat 0xFFFD))

theorem settle_map_some (mode : ReadMode) (text : List Char) :
    mode.settle (text.map some) = .ok text := by
  cases mode with
  | strict =>
    have h : (text.map some).mapM id = some text := by
      induction text with
      | nil => rfl
      | cons c text ih => simp only [List.map_cons, List.mapM_cons, ih]; rfl
    simp [settle, h]
  | lenient =>
    rw [settle, List.map_map]
    exact congrArg _ (List.map_id text)

end ReadMode

namespace Charset

/-- Splits off the byte order mark in front of some bytes, if there is one: that of `little` tells
the one order and `big` the other. -/
def splitMark (little big bytes : List UInt8) : ByteOrder × List UInt8 :=
  if little.isPrefixOf bytes then (.littleEndian, bytes.drop little.length)
  else if big.isPrefixOf bytes then (.bigEndian, bytes.drop big.length)
  else (.littleEndian, bytes)

/-- The error of Punycode that tells no text. -/
def ofPunycode : Punycode.Error → ReadError
  | .noAscii => .broken
  | .malformed => .refused

/-- The text of some bytes. Host names are only read in the strict way. -/
def read (charset : Charset) (mode : ReadMode) (bytes : List UInt8) :
    Except ReadError (List Char) :=
  let numbers := bytes.map UInt8.toNat
  match charset with
  | .utf8 => mode.settle ((Utf8.pieces bytes).map Utf8.Piece.char?)
  | .utf8Signed =>
    let mark : List UInt8 := [0xEF, 0xBB, 0xBF]
    let bytes := if mark.isPrefixOf bytes then bytes.drop mark.length else bytes
    mode.settle ((Utf8.pieces bytes).map Utf8.Piece.char?)
  | .utf16 (some order) => mode.settle (order.readUtf16 bytes)
  | .utf16 none =>
    let (order, bytes) := splitMark [0xFF, 0xFE] [0xFE, 0xFF] bytes
    mode.settle (order.readUtf16 bytes)
  | .utf32 (some order) => mode.settle (order.readUtf32 bytes)
  | .utf32 none =>
    let (order, bytes) := splitMark [0xFF, 0xFE, 0, 0] [0, 0, 0xFE, 0xFF] bytes
    mode.settle (order.readUtf32 bytes)
  | .utf7 => mode.settle (Utf7.read numbers)
  | .codePage page => mode.settle (page.read bytes)
  | .chinese charset => mode.settle (charset.read numbers)
  | .korean charset => mode.settle (charset.read numbers)
  | .japanese charset => mode.settle (charset.read numbers)
  | .switched charset => mode.settle (charset.read numbers)
  | .escaped form => mode.settle (form.read numbers)
  | .punycode => (Punycode.read (mode == .lenient) numbers).mapError ofPunycode
  | .hostName =>
    if mode = .lenient then .error .refused else (HostName.read numbers).mapError ofPunycode
  | .undefined => .error .refused
  | .bytesOnly => .error .noText

theorem read_utf8_encode (mode : ReadMode) (text : List Char) :
    Charset.utf8.read mode (Utf8.encode text) = .ok text := by
  have h : (Utf8.pieces (Utf8.encode text)).map Utf8.Piece.char? = text.map some := by
    simp [Utf8.pieces_encode, Utf8.Piece.char?]
  rw [Charset.read, h]
  exact mode.settle_map_some text

/-! ## Names -/

/-- Whether a character is an ASCII letter, an ASCII digit or a point. -/
def isNameChar (c : Char) : Bool :=
  c.isAlphanum || c == '.'

/-- The compared form of a name: lower case, with one underscore for each run of other characters
between its letters, digits and points. -/
def compared (name : List Char) : String :=
  let words := (name.splitOnP fun c => !isNameChar c).filter fun word => !word.isEmpty
  String.intercalate "_" (words.map fun word => String.ofList (word.map Char.toLower))

/-- The charsets that are no code pages, each with its name and its other names. -/
def named : List (Charset × String × List String) :=
  [ (.utf8, "utf_8", ["cp65001", "u8", "utf", "utf8", "utf8_ucs2", "utf8_ucs4"]),
    (.utf8Signed, "utf_8_sig", []),
    (.utf16 none, "utf_16", ["u16", "utf16"]),
    (.utf16 (some .littleEndian), "utf_16_le", ["unicodelittleunmarked", "utf_16le"]),
    (.utf16 (some .bigEndian), "utf_16_be", ["unicodebigunmarked", "utf_16be"]),
    (.utf32 none, "utf_32", ["u32", "utf32"]),
    (.utf32 (some .littleEndian), "utf_32_le", ["utf_32le"]),
    (.utf32 (some .bigEndian), "utf_32_be", ["utf_32be"]),
    (.utf7, "utf_7", ["u7", "unicode_1_1_utf_7", "utf7"]),
    (.chinese .gb2312, "gb2312", ["chinese", "csiso58gb231280", "euc_cn", "euccn",
      "eucgb2312_cn", "gb2312_1980", "gb2312_80", "iso_ir_58", "x_mac_simp_chinese"]),
    (.chinese .gbk, "gbk", ["936", "cp936", "ms936"]),
    (.chinese .gb18030, "gb18030", ["gb18030_2000"]),
    (.chinese .hz, "hz", ["hz_gb", "hz_gb_2312", "hzgb"]),
    (.chinese .big5, "big5", ["big5_tw", "csbig5", "x_mac_trad_chinese"]),
    (.chinese .cp950, "cp950", ["950", "ms950"]),
    (.chinese .hongKong, "big5hkscs", ["big5_hkscs", "hkscs"]),
    (.korean .eucKr, "euc_kr", ["euckr", "korean", "ks_c_5601", "ks_c_5601_1987", "ks_x_1001",
      "ksc5601", "ksx1001", "x_mac_korean"]),
    (.korean .cp949, "cp949", ["949", "ms949", "uhc"]),
    (.korean .johab, "johab", ["cp1361", "ms1361"]),
    (.japanese .shifted, "shift_jis", ["csshiftjis", "s_jis", "shiftjis", "sjis",
      "x_mac_japanese"]),
    (.japanese .cp932, "cp932", ["932", "ms932", "ms_kanji", "mskanji"]),
    (.japanese (.shiftedPlanes .of2000), "shift_jisx0213", ["s_jisx0213", "shiftjisx0213",
      "sjisx0213"]),
    (.japanese (.shiftedPlanes .of2004), "shift_jis_2004", ["s_jis_2004", "shiftjis2004",
      "sjis_2004"]),
    (.japanese .eucJp, "euc_jp", ["eucjp", "u_jis", "ujis"]),
    (.japanese (.eucPlanes .of2000), "euc_jisx0213", ["eucjisx0213"]),
    (.japanese (.eucPlanes .of2004), "euc_jis_2004", ["euc_jis2004", "eucjis2004", "jisx0213"]),
    (.switched .korean, "iso2022_kr", ["csiso2022kr", "iso2022kr", "iso_2022_kr"]),
    (.switched .japanese, "iso2022_jp", ["csiso2022jp", "iso2022jp", "iso_2022_jp"]),
    (.switched .japanese1, "iso2022_jp_1", ["iso2022jp_1", "iso_2022_jp_1"]),
    (.switched .japanese2, "iso2022_jp_2", ["iso2022jp_2", "iso_2022_jp_2"]),
    (.switched .japanese3, "iso2022_jp_3", ["iso2022jp_3", "iso_2022_jp_3"]),
    (.switched .japanese2004, "iso2022_jp_2004", ["iso2022jp_2004", "iso_2022_jp_2004"]),
    (.switched .japaneseExt, "iso2022_jp_ext", ["iso2022jp_ext", "iso_2022_jp_ext"]),
    (.escaped .full, "unicode_escape", []),
    (.escaped .raw, "raw_unicode_escape", []),
    (.punycode, "punycode", []),
    (.hostName, "idna", []),
    (.undefined, "undefined", []),
    (.bytesOnly, "base64_codec", ["base64", "base_64"]),
    (.bytesOnly, "bz2_codec", ["bz2"]),
    (.bytesOnly, "hex_codec", ["hex"]),
    (.bytesOnly, "quopri_codec", ["quopri", "quoted_printable", "quotedprintable"]),
    (.bytesOnly, "rot_13", ["rot13"]),
    (.bytesOnly, "uu_codec", ["uu"]),
    (.bytesOnly, "zlib_codec", ["zip", "zlib"])]

/-- All code pages. -/
def pages : List CodePage :=
  [CodePage.latin1, CodePage.charmap, CodePage.ascii] ++ CodePage.iso8859 ++ CodePage.windows ++
    CodePage.dos ++ CodePage.ebcdic ++ CodePage.macintosh ++ CodePage.national

/-- All charsets, each with its name and its other names. -/
def all : List (Charset × String × List String) :=
  named ++ pages.map fun page => (.codePage page, page.name, page.aliases)

/-- The charset of a name. In the other names of a charset a point counts as an underscore. -/
def ofName? (name : List Char) : Option Charset :=
  let name := compared name
  let pointless := String.ofList (name.toList.map fun c => if c = '.' then '_' else c)
  (all.find? fun (_, own, others) =>
    own == name || others.contains name || others.contains pointless).map Prod.fst

end Charset

end SchemaVisibility.Text
