import SchemaVisibility.Text.Hex

/-! # Quoted text

Text between quotation marks, where every character outside the printable ASCII range is written as
an escape. Reading accepts more than writing produces: any character that is no control character
may stand for itself. `read?_write` says that what is written reads back.
-/

namespace SchemaVisibility.Json.Quoted

/-- The escape letter of a character that has one. -/
def letter? : Char → Option Char
  | '"' => some '"'
  | '\\' => some '\\'
  | '\n' => some 'n'
  | '\r' => some 'r'
  | '\t' => some 't'
  | '\x08' => some 'b'
  | '\x0c' => some 'f'
  | _ => none

/-- Whether a character stands for itself between the quotation marks. -/
def isPlain (c : Char) : Bool :=
  ' ' ≤ c && c ≤ '~'

/-- One character: a short escape, itself, or `\u` with four digits for each of its units. -/
def writeChar (c : Char) : List Char :=
  match letter? c with
  | some l => ['\\', l]
  | none =>
    if isPlain c then [c]
    else (Text.units c).flatMap fun u => '\\' :: 'u' :: Text.fourHex u

/-- Text in quotation marks. -/
def write (text : List Char) : List Char :=
  '"' :: text.flatMap writeChar ++ ['"']

/-- The code of the character behind an escape letter. -/
def escape? : Char → Option Nat
  | '"' => some '"'.toNat
  | '\\' => some '\\'.toNat
  | '/' => some '/'.toNat
  | 'n' => some '\n'.toNat
  | 'r' => some '\r'.toNat
  | 't' => some '\t'.toNat
  | 'b' => some 8
  | 'f' => some 12
  | _ => none

/-- Reads up to the closing quotation mark: the numbers that the text is spelled with, and what
follows the mark. Control characters and unknown escapes are refused. -/
def readUnits? : List Char → Option (List Nat × List Char)
  | [] => none
  | '"' :: rest => some ([], rest)
  | '\\' :: 'u' :: a :: b :: c :: d :: rest => do
    let u ← Text.hexNumber? [a, b, c, d]
    let (us, rest) ← readUnits? rest
    some (u :: us, rest)
  | '\\' :: l :: rest => do
    let u ← escape? l
    let (us, rest) ← readUnits? rest
    some (u :: us, rest)
  | c :: rest => do
    if c = '\\' ∨ c < ' ' then none
    let (us, rest) ← readUnits? rest
    some (c.toNat :: us, rest)

/-- Reads text after its opening quotation mark. -/
def read? (source : List Char) : Option (List Char × List Char) :=
  (readUnits? source).map fun (us, rest) => (Text.ofUnits us, rest)

/-- The numbers that a written character reads as. -/
def spelled (c : Char) : List Nat :=
  if (letter? c).isSome || isPlain c then [c.toNat] else Text.units c

theorem escape?_of_letter? {c l : Char} (h : letter? c = some l) :
    escape? l = some c.toNat ∧ l ≠ 'u' := by
  unfold letter? at h
  split at h <;> simp_all <;> subst h <;> decide

theorem readUnits?_unit {u : Nat} (h : u < 65536) (rest : List Char) :
    readUnits? ('\\' :: 'u' :: Text.fourHex u ++ rest) =
      (readUnits? rest).map fun r => (u :: r.1, r.2) := by
  have hex := Text.hexNumber?_fourHex h
  simp only [Text.fourHex] at hex
  simp only [Text.fourHex, List.cons_append, List.nil_append, readUnits?, hex]
  cases readUnits? rest <;> rfl

theorem lt_of_mem_units {c : Char} {u : Nat} (h : u ∈ Text.units c) : u < 65536 := by
  have hc := Text.isScalar_toNat c
  simp only [Text.isScalar, Bool.or_eq_true, Bool.and_eq_true, decide_eq_true_eq] at hc
  unfold Text.units at h
  split at h
  · simp only [List.mem_singleton] at h
    omega
  · simp only [List.mem_cons, List.not_mem_nil, or_false] at h
    omega

theorem readUnits?_units {us : List Nat} (h : ∀ u ∈ us, u < 65536) (rest : List Char) :
    readUnits? (us.flatMap (fun u => '\\' :: 'u' :: Text.fourHex u) ++ rest) =
      (readUnits? rest).map fun r => (us ++ r.1, r.2) := by
  induction us with
  | nil => cases hr : readUnits? rest <;> simp [hr]
  | cons u us ih =>
    rw [List.flatMap_cons, List.append_assoc, readUnits?_unit (h u (by simp)),
      ih fun v hv => h v (by simp [hv])]
    cases readUnits? rest <;> rfl

theorem readUnits?_writeChar (c : Char) (rest : List Char) :
    readUnits? (writeChar c ++ rest) =
      (readUnits? rest).map fun r => (spelled c ++ r.1, r.2) := by
  cases hl : letter? c with
  | some l =>
    obtain ⟨he, hu⟩ := escape?_of_letter? hl
    simp only [writeChar, hl, spelled, Option.isSome_some, Bool.true_or, if_true,
      List.cons_append, List.nil_append]
    rw [readUnits?.eq_4 _ _ (by intro a b c d rest' h; simp_all), he]
    cases readUnits? rest <;> rfl
  | none =>
    by_cases hp : isPlain c = true
    · simp only [writeChar, hl, spelled, hp, Option.isSome_none, Bool.or_true, if_true,
        List.cons_append, List.nil_append]
      have hq : c ≠ '"' := by rintro rfl; simp [letter?] at hl
      have hb : c ≠ '\\' := by rintro rfl; simp [letter?] at hl
      have hs : ¬ c < ' ' := by
        simp only [isPlain, Bool.and_eq_true, decide_eq_true_eq] at hp
        exact fun h => absurd hp.1 (by simpa using h)
      rw [readUnits?.eq_5 _ _ (by simpa using hq) (by simp [hb]) (by simp [hb])]
      simp only [hb, hs, or_self, if_false]
      cases readUnits? rest <;> rfl
    · simp only [writeChar, hl, spelled, hp, Option.isSome_none, Bool.false_or]
      exact readUnits?_units (fun u hu => lt_of_mem_units hu) rest

theorem ofUnits_spelled (c : Char) (rest : List Nat) :
    Text.ofUnits (spelled c ++ rest) = c :: Text.ofUnits rest := by
  unfold spelled
  split
  · exact Text.ofUnits_toNat_cons c rest
  · exact Text.ofUnits_units c rest

theorem ofUnits_flatMap_spelled (text : List Char) :
    Text.ofUnits (text.flatMap spelled) = text := by
  induction text with
  | nil => rfl
  | cons c text ih =>
    rw [List.flatMap_cons, ofUnits_spelled]
    exact congrArg _ ih

theorem readUnits?_flatMap_writeChar (text rest : List Char) :
    readUnits? (text.flatMap writeChar ++ '"' :: rest) = some (text.flatMap spelled, rest) := by
  induction text with
  | nil => rfl
  | cons c text ih =>
    rw [List.flatMap_cons, List.append_assoc, readUnits?_writeChar, ih]
    rfl

/-- What is written reads back, whatever follows it. -/
theorem read?_write (text rest : List Char) :
    read? ((write text).tail ++ rest) = some (text, rest) := by
  simp [read?, write, readUnits?_flatMap_writeChar, ofUnits_flatMap_spelled]

end SchemaVisibility.Json.Quoted
