/-! # Code pages

A code page is a charset of one byte a character. It is given by the first byte that is not the
character of its own number and by the characters from there on; U+FFFD stands where a byte has no
character.
-/

namespace SchemaVisibility.Text

/-- A charset of one byte a character. -/
structure CodePage where
  /-- The name of the charset, in lower case with underscores. -/
  name : String
  /-- Its other names. -/
  aliases : List String
  /-- The bytes below stand for the characters of their numbers. -/
  first : Nat
  /-- The characters of the bytes from `first` on. -/
  upper : String
  deriving DecidableEq, Repr

namespace CodePage

/-- The characters of some bytes, `none` for a byte without one. -/
def read (page : CodePage) (bytes : List UInt8) : List (Option Char) :=
  let upper := page.upper.toList.toArray
  bytes.map fun byte =>
    if byte.toNat < page.first then some (Char.ofNat byte.toNat)
    else upper[byte.toNat - page.first]?.filter fun c => c != Char.ofNat 0xFFFD

/-- The page in which a byte is the character of its number. -/
def latin1 : CodePage :=
  ⟨"latin_1", ["8859", "cp819", "csisolatin1", "ibm819", "iso8859", "iso8859_1", "iso_8859_1",
    "iso_8859_1_1987", "iso_ir_100", "l1", "latin", "latin1"], 0x100, ""⟩

/-- The page that only names the numbers of bytes. -/
def charmap : CodePage :=
  ⟨"charmap", [], 0x100, ""⟩

/-- The page that ends with ASCII. -/
def ascii : CodePage :=
  ⟨"ascii", ["646", "ansi_x3.4_1968", "ansi_x3_4_1968", "ansi_x3.4_1986", "cp367", "csascii",
    "ibm367", "iso646_us", "iso_646.irv_1991", "iso_ir_6", "us", "us_ascii"], 0x80, ""⟩

end CodePage

end SchemaVisibility.Text
