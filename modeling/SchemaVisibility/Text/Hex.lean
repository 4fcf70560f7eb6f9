/-! # Hexadecimal digits and surrogate pairs

Escapes in JSON and in GraphQL strings name a character by hexadecimal digits, where a character
beyond the basic plane takes two numbers, a high and a low surrogate. `ofUnits_units` says that
splitting characters into such numbers and joining them again gives the characters back.
-/

namespace SchemaVisibility.Text

/-- The value of a hexadecimal digit, in either case. -/
def hexValue? (c : Char) : Option Nat :=
  if '0' ≤ c ∧ c ≤ '9' then some (c.toNat - '0'.toNat)
  else if 'a' ≤ c ∧ c ≤ 'f' then some (c.toNat - 'a'.toNat + 10)
  else if 'A' ≤ c ∧ c ≤ 'F' then some (c.toNat - 'A'.toNat + 10)
  else none

/-- Reads a run of hexadecimal digits, most significant first. -/
def hexNumber? (digits : List Char) : Option Nat :=
  digits.foldlM (fun value c => (hexValue? c).map (16 * value + ·)) 0

/-- A number below `16 ^ 4` in four lower case hexadecimal digits. -/
def fourHex (n : Nat) : List Char :=
  [Nat.digitChar (n / 4096 % 16), Nat.digitChar (n / 256 % 16), Nat.digitChar (n / 16 % 16),
    Nat.digitChar (n % 16)]

theorem hexValue?_digitChar : ∀ d, d < 16 → hexValue? (Nat.digitChar d) = some d := by
  decide

theorem hexNumber?_fourHex {n : Nat} (h : n < 65536) : hexNumber? (fourHex n) = some n := by
  simp only [hexNumber?, fourHex, List.foldlM_cons, List.foldlM_nil,
    hexValue?_digitChar _ (Nat.mod_lt _ (by decide : 16 > 0)), Option.map_some, bind,
    Option.bind, pure]
  congr 1
  omega

/-- Whether a number is the first half of a surrogate pair. -/
def isHighSurrogate (u : Nat) : Bool :=
  0xD800 ≤ u && u < 0xDC00

/-- Whether a number is the second half of a surrogate pair. -/
def isLowSurrogate (u : Nat) : Bool :=
  0xDC00 ≤ u && u < 0xE000

/-- Whether a number is the code of a character. -/
def isScalar (u : Nat) : Bool :=
  u < 0xD800 || (0xE000 ≤ u && u < 0x110000)

/-- The code that a surrogate pair stands for. -/
def joinSurrogates (high low : Nat) : Nat :=
  0x10000 + (high - 0xD800) * 0x400 + (low - 0xDC00)

/-- The numbers that escapes spell a character with: its code, or a surrogate pair. -/
def units (c : Char) : List Nat :=
  if c.toNat < 0x10000 then [c.toNat]
  else [0xD800 + (c.toNat - 0x10000) / 0x400, 0xDC00 + (c.toNat - 0x10000) % 0x400]

/-- The character of one number; half a pair stands for no character and reads as U+FFFD. -/
def unitChar (u : Nat) : Char :=
  if isScalar u then Char.ofNat u else Char.ofNat 0xFFFD

/-- The characters that a run of numbers spells. -/
def ofUnits : List Nat → List Char
  | [] => []
  | [u] => [unitChar u]
  | u :: v :: rest =>
    if isHighSurrogate u && isLowSurrogate v then
      Char.ofNat (joinSurrogates u v) :: ofUnits rest
    else unitChar u :: ofUnits (v :: rest)

theorem isScalar_toNat (c : Char) : isScalar c.toNat = true := by
  have h := c.valid
  simp only [isScalar, Bool.or_eq_true, Bool.and_eq_true, decide_eq_true_eq]
  simp only [UInt32.isValidChar, Nat.isValidChar] at h
  simp only [Char.toNat]
  omega

theorem unitChar_toNat (c : Char) : unitChar c.toNat = c := by
  simp [unitChar, isScalar_toNat, Char.ofNat_toNat]

theorem ofUnits_toNat_cons (c : Char) (rest : List Nat) :
    ofUnits (c.toNat :: rest) = c :: ofUnits rest := by
  have h := isScalar_toNat c
  cases rest with
  | nil => simp [ofUnits, unitChar_toNat]
  | cons v rest =>
    have hh : isHighSurrogate c.toNat = false := by
      simp only [isScalar, Bool.or_eq_true, Bool.and_eq_true, decide_eq_true_eq] at h
      simp only [isHighSurrogate, Bool.and_eq_false_iff, decide_eq_false_iff_not]
      omega
    simp [ofUnits, hh, unitChar_toNat]

/-- Splitting a character and joining it again gives it back, whatever follows. -/
theorem ofUnits_units (c : Char) (rest : List Nat) :
    ofUnits (units c ++ rest) = c :: ofUnits rest := by
  unfold units
  split
  · exact ofUnits_toNat_cons c rest
  · rename_i hc
    have h := isScalar_toNat c
    simp only [isScalar, Bool.or_eq_true, Bool.and_eq_true, decide_eq_true_eq] at h
    have hhigh : isHighSurrogate (0xD800 + (c.toNat - 0x10000) / 0x400) = true := by
      simp only [isHighSurrogate, Bool.and_eq_true, decide_eq_true_eq]
      omega
    have hlow : isLowSurrogate (0xDC00 + (c.toNat - 0x10000) % 0x400) = true := by
      simp only [isLowSurrogate, Bool.and_eq_true, decide_eq_true_eq]
      omega
    have hjoin : joinSurrogates (0xD800 + (c.toNat - 0x10000) / 0x400)
        (0xDC00 + (c.toNat - 0x10000) % 0x400) = c.toNat := by
      unfold joinSurrogates
      omega
    rw [List.cons_append, List.cons_append, List.nil_append, ofUnits, hhigh, hlow, hjoin]
    rw [Bool.and_self, if_pos rfl, Char.ofNat_toNat]

end SchemaVisibility.Text
