import SchemaVisibility.Text.Hex

/-! # UTF-8

Characters as bytes and bytes as characters. A sequence of bytes may also hold some that spell no
character; they are told apart as pieces, each as long as it could still have become a character.
`pieces_encode` says that encoded text reads back.
-/

namespace SchemaVisibility.Text.Utf8

/-- A byte that is not the first of its character, with the six lowest bits of a number. -/
def tailByte (n : Nat) : UInt8 :=
  UInt8.ofNat (0x80 + n % 0x40)

/-- The bytes of a character. -/
def encodeChar (c : Char) : List UInt8 :=
  if c.toNat < 0x80 then [UInt8.ofNat c.toNat]
  else if c.toNat < 0x800 then [UInt8.ofNat (0xC0 + c.toNat / 0x40), tailByte c.toNat]
  else if c.toNat < 0x10000 then
    [UInt8.ofNat (0xE0 + c.toNat / 0x1000), tailByte (c.toNat / 0x40), tailByte c.toNat]
  else
    [UInt8.ofNat (0xF0 + c.toNat / 0x40000), tailByte (c.toNat / 0x1000),
      tailByte (c.toNat / 0x40), tailByte c.toNat]

/-- The bytes of a text. -/
def encode (text : List Char) : List UInt8 :=
  text.flatMap encodeChar

/-- A piece of a sequence of bytes. -/
inductive Piece where
  | char (c : Char)
  /-- Bytes that spell no character. -/
  | broken (bytes : List UInt8)
  deriving DecidableEq, Repr

/-- A character of which not all bytes were read. -/
structure Pending where
  /-- What was read. -/
  bytes : List UInt8
  /-- The bits that were read. -/
  value : Nat
  /-- How many bytes are to follow the next one. -/
  missing : Nat
  /-- The bounds of the next byte. -/
  low : Nat
  high : Nat

/-- What a first byte announces, if it is more than itself. The bounds of the second byte keep out
longer spellings than needed, surrogates, and codes beyond the last one. -/
def announced? (byte : UInt8) : Option Pending :=
  let b := byte.toNat
  if b < 0xC2 then none
  else if b < 0xE0 then some ⟨[byte], b - 0xC0, 0, 0x80, 0xBF⟩
  else if b < 0xF0 then
    some ⟨[byte], b - 0xE0, 1, if b = 0xE0 then 0xA0 else 0x80, if b = 0xED then 0x9F else 0xBF⟩
  else if b < 0xF5 then
    some ⟨[byte], b - 0xF0, 2, if b = 0xF0 then 0x90 else 0x80, if b = 0xF4 then 0x8F else 0xBF⟩
  else none

/-- The pieces of a sequence of bytes, of which the pending character was read already. -/
def piecesAfter : Option Pending → List UInt8 → List Piece
  | none, [] => []
  | some pending, [] => [.broken pending.bytes]
  | state, byte :: rest =>
    let fresh : List Piece × Option Pending :=
      if byte.toNat < 0x80 then ([.char (Char.ofNat byte.toNat)], none)
      else
        match announced? byte with
        | some pending => ([], some pending)
        | none => ([.broken [byte]], none)
    match state with
    | none => fresh.1 ++ piecesAfter fresh.2 rest
    | some pending =>
      let value := pending.value * 0x40 + (byte.toNat - 0x80)
      if pending.low ≤ byte.toNat && byte.toNat ≤ pending.high then
        match pending.missing with
        | 0 => .char (Char.ofNat value) :: piecesAfter none rest
        | missing + 1 =>
          piecesAfter (some ⟨pending.bytes ++ [byte], value, missing, 0x80, 0xBF⟩) rest
      else .broken pending.bytes :: fresh.1 ++ piecesAfter fresh.2 rest

/-- The pieces of a sequence of bytes. -/
def pieces (bytes : List UInt8) : List Piece :=
  piecesAfter none bytes

/-- The character of a piece, if it is one. -/
def Piece.char? : Piece → Option Char
  | .char c => some c
  | .broken _ => none

theorem toNat_ofNat {n : Nat} (h : n < 256) : (UInt8.ofNat n).toNat = n := by
  simp [UInt8.toNat_ofNat', Nat.mod_eq_of_lt h]

theorem toNat_tailByte (n : Nat) : (tailByte n).toNat = 0x80 + n % 0x40 :=
  toNat_ofNat (by omega)

theorem piecesAfter_none_announced {byte : UInt8} {pending : Pending}
    (h : announced? byte = some pending) (rest : List UInt8) :
    piecesAfter none (byte :: rest) = piecesAfter (some pending) rest := by
  have hb : ¬ byte.toNat < 0x80 := by
    intro hlt
    simp only [announced?, if_pos (show byte.toNat < 0xC2 by omega)] at h
    cases h
  simp [piecesAfter, hb, h]

theorem piecesAfter_last {pending : Pending} {byte : UInt8} (h : pending.missing = 0)
    (low : pending.low ≤ byte.toNat) (high : byte.toNat ≤ pending.high) (rest : List UInt8) :
    piecesAfter (some pending) (byte :: rest) =
      .char (Char.ofNat (pending.value * 0x40 + (byte.toNat - 0x80))) :: piecesAfter none rest := by
  simp [piecesAfter, low, high, h]

theorem piecesAfter_next {pending : Pending} {byte : UInt8} (missing : Nat)
    (h : pending.missing = missing + 1) (low : pending.low ≤ byte.toNat)
    (high : byte.toNat ≤ pending.high) (rest : List UInt8) :
    piecesAfter (some pending) (byte :: rest) =
      piecesAfter (some ⟨pending.bytes ++ [byte], pending.value * 0x40 + (byte.toNat - 0x80),
        missing, 0x80, 0xBF⟩) rest := by
  simp [piecesAfter, low, high, h]

/-- An encoded character reads back, whatever follows. -/
theorem pieces_encodeChar (c : Char) (rest : List UInt8) :
    pieces (encodeChar c ++ rest) = .char c :: pieces rest := by
  have hc := isScalar_toNat c
  simp only [isScalar, Bool.or_eq_true, Bool.and_eq_true, decide_eq_true_eq] at hc
  unfold pieces encodeChar
  split
  · rename_i h
    rw [List.cons_append, List.nil_append, piecesAfter]
    simp only [toNat_ofNat (show c.toNat < 256 by omega), h, if_true, Char.ofNat_toNat]
    rfl
  split
  · have lead : (UInt8.ofNat (0xC0 + c.toNat / 0x40)).toNat = 0xC0 + c.toNat / 0x40 :=
      toNat_ofNat (by omega)
    rw [List.cons_append, List.cons_append, List.nil_append,
      piecesAfter_none_announced (by
        rw [announced?, lead, if_neg (by omega), if_pos (by omega)]),
      piecesAfter_last rfl (by dsimp only; rw [toNat_tailByte]; omega)
        (by dsimp only; rw [toNat_tailByte]; omega), toNat_tailByte]
    dsimp only
    rw [show (0xC0 + c.toNat / 0x40 - 0xC0) * 0x40 + (0x80 + c.toNat % 0x40 - 0x80) = c.toNat
      by omega, Char.ofNat_toNat]
  split
  · have lead : (UInt8.ofNat (0xE0 + c.toNat / 0x1000)).toNat = 0xE0 + c.toNat / 0x1000 :=
      toNat_ofNat (by omega)
    rw [List.cons_append, List.cons_append, List.cons_append, List.nil_append,
      piecesAfter_none_announced (by
        rw [announced?, lead, if_neg (by omega), if_neg (by omega), if_pos (by omega)]),
      piecesAfter_next 0 rfl (by dsimp only; rw [toNat_tailByte]; split <;> omega)
        (by dsimp only; rw [toNat_tailByte]; split <;> omega),
      piecesAfter_last rfl (by dsimp only; rw [toNat_tailByte]; omega)
        (by dsimp only; rw [toNat_tailByte]; omega), toNat_tailByte, toNat_tailByte]
    dsimp only
    rw [show ((0xE0 + c.toNat / 0x1000 - 0xE0) * 0x40 + (0x80 + c.toNat / 0x40 % 0x40 - 0x80)) *
        0x40 + (0x80 + c.toNat % 0x40 - 0x80) = c.toNat by omega,
      Char.ofNat_toNat]
  · have lead : (UInt8.ofNat (0xF0 + c.toNat / 0x40000)).toNat = 0xF0 + c.toNat / 0x40000 :=
      toNat_ofNat (by omega)
    rw [List.cons_append, List.cons_append, List.cons_append, List.cons_append, List.nil_append,
      piecesAfter_none_announced (by
        rw [announced?, lead, if_neg (by omega), if_neg (by omega), if_neg (by omega),
          if_pos (by omega)]),
      piecesAfter_next 1 rfl (by dsimp only; rw [toNat_tailByte]; split <;> omega)
        (by dsimp only; rw [toNat_tailByte]; split <;> omega),
      piecesAfter_next 0 rfl (by dsimp only; rw [toNat_tailByte]; omega)
        (by dsimp only; rw [toNat_tailByte]; omega),
      piecesAfter_last rfl (by dsimp only; rw [toNat_tailByte]; omega)
        (by dsimp only; rw [toNat_tailByte]; omega), toNat_tailByte, toNat_tailByte,
      toNat_tailByte]
    dsimp only
    rw [show (((0xF0 + c.toNat / 0x40000 - 0xF0) * 0x40 + (0x80 + c.toNat / 0x1000 % 0x40 - 0x80)) *
        0x40 + (0x80 + c.toNat / 0x40 % 0x40 - 0x80)) * 0x40 + (0x80 + c.toNat % 0x40 - 0x80) =
        c.toNat by omega,
      Char.ofNat_toNat]

/-- Encoded text reads back. -/
theorem pieces_encode (text : List Char) : pieces (encode text) = text.map .char := by
  induction text with
  | nil => rfl
  | cons c text ih =>
    rw [encode, List.flatMap_cons, pieces_encodeChar, ← encode, ih, List.map_cons]

end SchemaVisibility.Text.Utf8
