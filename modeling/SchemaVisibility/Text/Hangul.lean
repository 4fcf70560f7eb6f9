/-! # Hangul

A Korean syllable is an initial consonant, a vowel, and perhaps a final consonant.
-/

namespace SchemaVisibility.Text.Hangul

/-- The consonants that begin a syllable. -/
def initials : List Char :=
  "ㄱㄲㄴㄷㄸㄹㅁㅂㅃㅅㅆㅇㅈㅉㅊㅋㅌㅍㅎ".toList

/-- The vowels. -/
def vowels : List Char :=
  "ㅏㅐㅑㅒㅓㅔㅕㅖㅗㅘㅙㅚㅛㅜㅝㅞㅟㅠㅡㅢㅣ".toList

/-- The consonants that end a syllable. -/
def finals : List Char :=
  "ㄱㄲㄳㄴㄵㄶㄷㄹㄺㄻㄼㄽㄾㄿㅀㅁㅂㅄㅅㅆㅇㅈㅊㅋㅌㅍㅎ".toList

/-- The syllable of two or three letters, if they make one. -/
def syllable? (initial vowel : Char) (final? : Option Char) : Option Char := do
  let i ← initials.idxOf? initial
  let v ← vowels.idxOf? vowel
  let f ← match final? with
    | none => some 0
    | some final => (finals.idxOf? final).map (· + 1)
  return Char.ofNat (0xAC00 + (i * 21 + v) * 28 + f)

/-- The number of the first syllable. -/
def firstSyllable : Nat := 0xAC00

/-- The number of syllables. -/
def syllableCount : Nat := 19 * 21 * 28

end SchemaVisibility.Text.Hangul
