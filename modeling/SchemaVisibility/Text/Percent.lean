import SchemaVisibility.Text.Charset

/-! # Percent escapes

In an address a byte can be spelled by `%` and two hexadecimal digits. Escapes stand for bytes and
not for characters, so a charset has to read what they spell. `readEscapes_escape` says that text
which is escaped reads back.
-/

namespace SchemaVisibility.Text.Percent

/-- The byte that two hexadecimal digits spell. -/
def hexByte? (high low : UInt8) : Option UInt8 := do
  let h ← hexValue? (Char.ofNat high.toNat)
  let l ← hexValue? (Char.ofNat low.toNat)
  return UInt8.ofNat (16 * h + l)

/-- Puts the spelled bytes in the place of escapes. What is no escape stays. -/
def unescape : List UInt8 → List UInt8
  | mark :: high :: low :: rest =>
    if mark = 0x25 then
      match hexByte? high low with
      | some byte => byte :: unescape rest
      | none => mark :: unescape (high :: low :: rest)
    else mark :: unescape (high :: low :: rest)
  | bytes => bytes

/-- Whether a character belongs to ASCII. -/
def isAscii (c : Char) : Bool :=
  c.toNat < 0x80

/-- The text of some bytes by a charset. No bytes are no text, whatever the charset. -/
def readBytes (charset : Charset) (bytes : List UInt8) : Except ReadError (List Char) :=
  if bytes.isEmpty then .ok [] else charset.read .lenient bytes

/-- Reads the escapes in each run of ASCII characters by a charset; `run` is the run that was read
so far, last byte first. Other characters stay. -/
def readRuns (charset : Charset) (run : List UInt8) : List Char → Except ReadError (List Char)
  | [] => readBytes charset (unescape run.reverse)
  | c :: rest =>
    if isAscii c then readRuns charset (UInt8.ofNat c.toNat :: run) rest
    else do
      let front ← readBytes charset (unescape run.reverse)
      let behind ← readRuns charset [] rest
      return front ++ c :: behind

/-- Reads the escapes in a text by a charset. Text without any stays as it is. -/
def readEscapes (charset : Charset) (text : List Char) : Except ReadError (List Char) :=
  if text.contains '%' then readRuns charset [] text else .ok text

/-- A hexadecimal digit, in upper case. -/
def upperDigit (n : Nat) : Char :=
  (Nat.digitChar n).toUpper

/-- The escape of a byte. -/
def escapeByte (byte : UInt8) : List Char :=
  ['%', upperDigit (byte.toNat / 16), upperDigit (byte.toNat % 16)]

/-- Whether a character needs no escape anywhere in an address. -/
def isFree (c : Char) : Bool :=
  c.isAlphanum || c == '_' || c == '.' || c == '-' || c == '~'

/-- A character in a form: a blank is a plus sign, and what is not free is escaped. -/
def escapeChar (c : Char) : List Char :=
  if c = ' ' then ['+'] else if isFree c then [c] else (Utf8.encodeChar c).flatMap escapeByte

/-- A text in a form. -/
def escape (text : List Char) : List Char :=
  text.flatMap escapeChar

/-- A text of a form with its plus signs as blanks. -/
def spacePlus (text : List Char) : List Char :=
  text.map fun c => if c = '+' then ' ' else c

/-- The bytes of ASCII text. -/
def asciiBytes (text : List Char) : List UInt8 :=
  text.map fun c => UInt8.ofNat c.toNat

theorem toNat_asciiByte {c : Char} (h : isAscii c = true) :
    (UInt8.ofNat c.toNat).toNat = c.toNat := by
  simp only [isAscii, decide_eq_true_eq] at h
  exact Utf8.toNat_ofNat (by omega)

theorem encode_ascii {text : List Char} (h : ∀ c ∈ text, isAscii c = true) :
    Utf8.encode text = asciiBytes text := by
  induction text with
  | nil => rfl
  | cons c text ih =>
    have hc := h c (by simp)
    simp only [isAscii, decide_eq_true_eq] at hc
    rw [Utf8.encode, List.flatMap_cons, ← Utf8.encode, ih fun d hd => h d (by simp [hd]),
      Utf8.encodeChar, if_pos hc]
    rfl

theorem readRuns_ascii (charset : Charset) (run : List UInt8) {text : List Char}
    (h : ∀ c ∈ text, isAscii c = true) :
    readRuns charset run text = readBytes charset (unescape (run.reverse ++ asciiBytes text)) := by
  induction text generalizing run with
  | nil => simp [readRuns, asciiBytes]
  | cons c text ih =>
    rw [readRuns, if_pos (h c (by simp)), ih _ fun d hd => h d (by simp [hd])]
    simp [asciiBytes]

theorem readBytes_utf8_encode (text : List Char) :
    readBytes .utf8 (Utf8.encode text) = .ok text := by
  have h := Charset.read_utf8_encode .lenient text
  unfold readBytes
  split
  · rename_i none
    rw [List.isEmpty_iff.mp none] at h
    exact h
  · exact h

theorem unescape_cons_of_ne {byte : UInt8} (h : byte ≠ 0x25) (rest : List UInt8) :
    unescape (byte :: rest) = byte :: unescape rest := by
  match rest with
  | [] => rfl
  | [_] => rfl
  | _ :: _ :: _ => rw [unescape, if_neg h]

theorem asciiByte_ne {c d : Char} (hc : isAscii c = true) (hd : isAscii d = true) (h : c ≠ d) :
    UInt8.ofNat c.toNat ≠ UInt8.ofNat d.toNat := by
  intro he
  have hn : c.toNat = d.toNat := by rw [← toNat_asciiByte hc, he, toNat_asciiByte hd]
  exact h (by rw [← Char.ofNat_toNat c, hn, Char.ofNat_toNat])

theorem unescape_asciiBytes {text : List Char} (h : ∀ c ∈ text, isAscii c = true)
    (none : '%' ∉ text) : unescape (asciiBytes text) = asciiBytes text := by
  induction text with
  | nil => rfl
  | cons c text ih =>
    simp only [List.mem_cons, not_or] at none
    have hc := asciiByte_ne (h c (by simp)) (by decide) (Ne.symm none.1)
    rw [asciiBytes, List.map_cons, unescape_cons_of_ne hc, ← asciiBytes,
      ih (fun d hd => h d (by simp [hd])) none.2]

/-- ASCII text reads as UTF-8 bytes with the escapes among them. -/
theorem readEscapes_ascii {text : List Char} (h : ∀ c ∈ text, isAscii c = true) :
    readEscapes .utf8 text = readBytes .utf8 (unescape (asciiBytes text)) := by
  unfold readEscapes
  split
  · exact readRuns_ascii _ [] h
  · rename_i none
    rw [unescape_asciiBytes h (by simpa using none), ← encode_ascii h, readBytes_utf8_encode]

theorem upperDigit_spec : ∀ n, n < 16 → isAscii (upperDigit n) = true ∧ upperDigit n ≠ '+' ∧
    hexValue? (upperDigit n) = some n := by
  decide

theorem unescape_escapeByte (byte : UInt8) (rest : List UInt8) :
    unescape (asciiBytes (spacePlus (escapeByte byte)) ++ rest) = byte :: unescape rest := by
  have hb : byte.toNat < 256 := byte.toNat_lt
  obtain ⟨ha, hp, hv⟩ := upperDigit_spec (byte.toNat / 16) (by omega)
  obtain ⟨la, lp, lv⟩ := upperDigit_spec (byte.toNat % 16) (by omega)
  have spelled : hexByte? (UInt8.ofNat (upperDigit (byte.toNat / 16)).toNat)
      (UInt8.ofNat (upperDigit (byte.toNat % 16)).toNat) = some byte := by
    simp only [hexByte?, toNat_asciiByte ha, toNat_asciiByte la, Char.ofNat_toNat, hv, lv,
      bind, Option.bind, pure]
    rw [show 16 * (byte.toNat / 16) + byte.toNat % 16 = byte.toNat by omega, UInt8.ofNat_toNat]
  simp only [escapeByte, spacePlus, asciiBytes, List.map_cons, List.map_nil, List.cons_append,
    List.nil_append, hp, lp, if_false]
  rw [unescape]
  simp only [spelled]
  rfl

theorem unescape_escapeBytes (bytes rest : List UInt8) :
    unescape (asciiBytes (spacePlus (bytes.flatMap escapeByte)) ++ rest) =
      bytes ++ unescape rest := by
  induction bytes with
  | nil => rfl
  | cons byte bytes ih =>
    simp only [asciiBytes, spacePlus, List.flatMap_cons, List.map_append, List.append_assoc] at ih ⊢
    rw [← spacePlus, ← asciiBytes, unescape_escapeByte, ih, List.cons_append]

theorem isAscii_of_isFree {c : Char} (h : isFree c = true) :
    isAscii c = true ∧ c ≠ '+' ∧ c ≠ '%' := by
  refine ⟨?_, by rintro rfl; revert h; decide, by rintro rfl; revert h; decide⟩
  simp only [isFree, Bool.or_eq_true, beq_iff_eq] at h
  rcases h with (((h | rfl) | rfl) | rfl) | rfl <;> try decide
  change (decide ('A'.val ≤ c.val ∧ c.val ≤ 'Z'.val) ||
    (decide ('a'.val ≤ c.val) && decide (c.val ≤ 'z'.val)) ||
    (decide ('0'.val ≤ c.val) && decide (c.val ≤ '9'.val))) = true at h
  simp only [Bool.or_eq_true, Bool.and_eq_true, decide_eq_true_eq, UInt32.le_iff_toNat_le] at h
  simp only [isAscii, decide_eq_true_eq, Char.toNat]
  have bounds : 'Z'.val.toNat = 90 ∧ 'z'.val.toNat = 122 ∧ '9'.val.toNat = 57 := by decide
  omega

theorem unescape_escapeChar (c : Char) (rest : List UInt8) :
    unescape (asciiBytes (spacePlus (escapeChar c)) ++ rest) =
      Utf8.encodeChar c ++ unescape rest := by
  unfold escapeChar
  split
  · rename_i h
    subst h
    exact unescape_cons_of_ne (by decide) rest
  split
  · rename_i h
    obtain ⟨ascii, plus, percent⟩ := isAscii_of_isFree h
    have hc : Utf8.encode [c] = asciiBytes [c] := encode_ascii (by simpa using ascii)
    simp only [Utf8.encode, List.flatMap_cons, List.flatMap_nil, List.append_nil] at hc
    rw [hc]
    simp only [spacePlus, List.map_cons, List.map_nil, plus, if_false]
    exact unescape_cons_of_ne (asciiByte_ne ascii (by decide) percent) rest
  · exact unescape_escapeBytes _ rest

theorem unescape_escape (text : List Char) :
    unescape (asciiBytes (spacePlus (escape text))) = Utf8.encode text := by
  induction text with
  | nil => rfl
  | cons c text ih =>
    have h := unescape_escapeChar c (asciiBytes (spacePlus (escape text)))
    rw [ih] at h
    rw [Utf8.encode, List.flatMap_cons, ← Utf8.encode, ← h]
    simp [escape, asciiBytes, spacePlus]

theorem isAscii_escapeByte {byte : UInt8} {c : Char} (h : c ∈ escapeByte byte) :
    isAscii c = true := by
  have hb : byte.toNat < 256 := byte.toNat_lt
  simp only [escapeByte, List.mem_cons, List.not_mem_nil, or_false] at h
  rcases h with rfl | rfl | rfl
  · decide
  · exact (upperDigit_spec _ (by omega)).1
  · exact (upperDigit_spec _ (by omega)).1

/-- Escaped text is ASCII. -/
theorem isAscii_of_mem_escape {text : List Char} {c : Char} (h : c ∈ escape text) :
    isAscii c = true := by
  obtain ⟨d, _, hd⟩ := List.mem_flatMap.mp h
  unfold escapeChar at hd
  split at hd
  · rw [List.mem_singleton.mp hd]
    decide
  split at hd
  · rename_i free
    rw [List.mem_singleton.mp hd]
    exact (isAscii_of_isFree free).1
  · obtain ⟨byte, _, hbyte⟩ := List.mem_flatMap.mp hd
    exact isAscii_escapeByte hbyte

/-- Escaped text reads back. -/
theorem readEscapes_escape (text : List Char) :
    readEscapes .utf8 (spacePlus (escape text)) = .ok text := by
  have ascii : ∀ c ∈ spacePlus (escape text), isAscii c = true := by
    intro c hc
    obtain ⟨d, hd, rfl⟩ := List.mem_map.mp hc
    split
    · decide
    · exact isAscii_of_mem_escape hd
  rw [readEscapes_ascii ascii, unescape_escape, readBytes_utf8_encode]

end SchemaVisibility.Text.Percent
