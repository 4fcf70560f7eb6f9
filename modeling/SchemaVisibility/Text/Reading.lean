/-! # Reading bytes step by step

Many charsets are read one step after another: a step looks at the bytes in front, takes some of
them, and tells the characters that they spell or that they spell none. Between steps a state tells
how the bytes to come are to be read.
-/

namespace SchemaVisibility.Text

/-- What a step tells of the bytes in front. -/
structure Reading (σ : Type) where
  /-- What the bytes spell, if they spell anything. -/
  chars? : Option (List Char)
  /-- How many bytes belong to it beyond the first one. -/
  more : Nat
  /-- The state for the bytes to come. -/
  state : σ

namespace Reading

variable {σ : Type}

/-- The pieces of a reading: its characters, or `none`. -/
def pieces (reading : Reading σ) : List (Option Char) :=
  match reading.chars? with
  | some chars => chars.map some
  | none => [none]

/-- The characters of some bytes, `none` once for the bytes of each step that spell nothing. A step
gets the state, the first byte, and the bytes behind it. -/
def all (step : σ → Nat → List Nat → Reading σ) (state : σ) : List Nat → List (Option Char)
  | [] => []
  | byte :: rest =>
    let reading := step state byte rest
    reading.pieces ++ all step reading.state (rest.drop reading.more)
termination_by bytes => bytes.length
decreasing_by simp only [List.length_cons, List.length_drop]; omega

/-- The characters of some bytes by steps that need no state. -/
def allPlain (step : Nat → List Nat → Reading Unit) (bytes : List Nat) : List (Option Char) :=
  all (fun _ => step) () bytes

/-- A character that takes one byte. -/
def single (number : Nat) : Reading Unit :=
  ⟨some [Char.ofNat number], 0, ()⟩

/-- Bytes that spell nothing. -/
def broken (more : Nat) : Reading Unit :=
  ⟨none, more, ()⟩

/-- Characters that take some bytes beyond the first one. If there are none, the first byte spells
nothing by itself. -/
def ofChars? (chars? : Option (List Char)) (more : Nat) : Reading Unit :=
  match chars? with
  | some chars => ⟨some chars, more, ()⟩
  | none => broken 0

/-- What a code of two bytes spells. Without its second byte the first one spells nothing. -/
def pair (chars? : Nat → Option (List Char)) (byte : Nat) : List Nat → Reading Unit
  | [] => broken 0
  | second :: _ => ofChars? (chars? (0x100 * byte + second)) 1

/-- What ASCII or a code of two bytes spells. -/
def asciiOrPair (chars? : Nat → Option (List Char)) (byte : Nat) (rest : List Nat) :
    Reading Unit :=
  if byte < 0x80 then single byte else pair chars? byte rest

end Reading

end SchemaVisibility.Text
