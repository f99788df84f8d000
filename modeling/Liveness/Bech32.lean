import Liveness.Words

/-!
# Bech32

A Bech32 text is a human-readable part, the separator `1`, and words of five bits written in a
32-letter alphabet, the last six of which are a checksum over all the others. Two checksum constants
are in use; both are accepted when reading and the first is written. A text is all lower case or all
upper case, and stands for the same value in either.
-/

namespace Liveness

/-- A word of five bits. -/
abbrev Word := BitVec 5

namespace Bech32

/-- Why a text is no Bech32 text, or a value has no Bech32 text. -/
inductive Error where
  /-- There is no `1` in the text. -/
  | missingSeparator
  /-- The checksum belongs to neither constant. -/
  | invalidChecksum
  /-- The human-readable part is empty or too long, or there is no room for a checksum. -/
  | invalidLength
  /-- The character has no place where it stands. -/
  | invalidChar (c : Char)
  /-- The words do not end where a byte ends. -/
  | invalidPadding
  /-- Letters of both cases. -/
  | mixedCase
  deriving DecidableEq, Repr

/-- The wording of an error. -/
def Error.message : Error → String
  | .missingSeparator => "missing human-readable separator, \"1\""
  | .invalidChecksum => "invalid checksum"
  | .invalidLength => "invalid length"
  | .invalidChar c => s!"invalid character (code={c})"
  | .invalidPadding => "invalid padding"
  | .mixedCase => "mixed-case strings not allowed"

/-! ## Alphabet -/

/-- The letter of each word, in the order of the words. -/
def alphabet : List Char := "qpzry9x8gf2tvdw0s3jn54khce6mua7l".toList

/-- The letter of a word. -/
def letter (w : Word) : Char := alphabet.getD w.toNat 'q'

/-- The word of a letter, in either case. -/
def word? (c : Char) : Option Word := (alphabet.idxOf? c.toLower).map (BitVec.ofNat 5)

/-! ## Letter case -/

/-- The case of the letters seen so far. -/
inductive LetterCase where
  /-- No letter yet. -/
  | none
  /-- Lower case only. -/
  | lower
  /-- Upper case only. -/
  | upper
  deriving DecidableEq, Repr

/-- The case after one more character. -/
def LetterCase.join (seen : LetterCase) (c : Char) : Except Error LetterCase :=
  if c.isLower then (if seen = .upper then .error .mixedCase else .ok .lower)
  else if c.isUpper then (if seen = .lower then .error .mixedCase else .ok .upper)
  else .ok seen

/-! ## Human-readable part -/

/-- Every byte of a human-readable part is a printable ASCII character other than the space. -/
def checkBytes (seen : LetterCase) : List UInt8 → Except Error LetterCase
  | [] => .ok seen
  | b :: rest =>
    let c := Char.ofNat b.toNat
    if 33 ≤ b.toNat ∧ b.toNat ≤ 126 then
      match seen.join c with
      | .ok seen' => checkBytes seen' rest
      | .error e => .error e
    else .error (.invalidChar c)

/-- The case of a human-readable part, which has 1 to 83 bytes. -/
def checkHrp (hrp : List Char) : Except Error LetterCase :=
  let bytes := hrp.flatMap String.utf8EncodeChar
  if bytes.isEmpty || 83 < bytes.length then .error .invalidLength else checkBytes .none bytes

/-! ## Checksum -/

/-- The feedback of each of the five bits that leave the register. -/
def generators : List (BitVec 30) :=
  [0x3b6a57b2#30, 0x26508e6d#30, 0x1ea119fa#30, 0x3d4233dd#30, 0x2a1462b3#30]

/-- The feedback of the bits that leave the register. -/
def feedback (register : BitVec 30) : BitVec 30 :=
  generators.zipIdx.foldl
    (fun acc (g, i) => if register.getLsbD (25 + i) then acc ^^^ g else acc) 0#30

/-- One word enters the register. -/
def shiftIn (register : BitVec 30) (w : Word) : BitVec 30 :=
  (register <<< 5) ^^^ w.setWidth 30 ^^^ feedback register

/-- The register after all words, started at one. -/
def polymod (words : List Word) : BitVec 30 := words.foldl shiftIn 1#30

/-- The words that stand for the human-readable part in the checksum. -/
def expandHrp (hrp : List Char) : List Word :=
  hrp.map (fun c => BitVec.ofNat 5 (c.toNat / 32)) ++ [0#5] ++
    hrp.map (fun c => BitVec.ofNat 5 (c.toNat % 32))

/-- The two checksum constants. -/
inductive Variant where
  /-- The first form. -/
  | bech32
  /-- The modified form. -/
  | bech32m
  deriving DecidableEq, Repr

/-- The register at the end of a valid text. -/
def Variant.residue : Variant → BitVec 30
  | .bech32 => 1#30
  | .bech32m => 0x2bc830a3#30

/-- The form whose checksum ends the words. -/
def variant? (hrp : List Char) (words : List Word) : Option Variant :=
  let residue := polymod (expandHrp hrp ++ words)
  if residue = Variant.bech32.residue then some .bech32
  else if residue = Variant.bech32m.residue then some .bech32m
  else none

/-- The six words that complete the text. -/
def checksum (v : Variant) (hrp : List Char) (words : List Word) : List Word :=
  let register := polymod (expandHrp hrp ++ words ++ List.replicate 6 0#5) ^^^ v.residue
  [25, 20, 15, 10, 5, 0].map fun i => (register >>> i).setWidth 5

/-! ## Texts -/

/-- What a Bech32 text stands for. -/
structure Decoded where
  /-- The human-readable part, in lower case if it was all upper case. -/
  hrp : String
  /-- The words before the checksum. -/
  words : List Word
  /-- The form of the checksum. -/
  variant : Variant
  deriving DecidableEq, Repr

/-- The words of the part after the separator. -/
def readWords (seen : LetterCase) : List Char → Except Error (List Word)
  | [] => .ok []
  | c :: rest =>
    if c.toNat < 128 then
      match seen.join c with
      | .error e => .error e
      | .ok seen' =>
        match word? c with
        | none => .error (.invalidChar c)
        | some w => (readWords seen' rest).map (w :: ·)
    else .error (.invalidChar c)

/-- The characters before and after the last `1`. -/
def splitLast (cs : List Char) : Option (List Char × List Char) :=
  let after := cs.reverse.takeWhile (· ≠ '1')
  match cs.reverse.dropWhile (· ≠ '1') with
  | [] => none
  | _ :: before => some (before.reverse, after.reverse)

/-- The human-readable part as the checksum covers it. -/
def normalHrp (seen : LetterCase) (hrp : List Char) : List Char :=
  if seen = .upper then hrp.map Char.toLower else hrp

/-- Reads a text. -/
def decode (s : String) : Except Error Decoded :=
  match splitLast s.toList with
  | none => .error .missingSeparator
  | some (rawHrp, rawData) => do
    let seen ← checkHrp rawHrp
    let hrp := normalHrp seen rawHrp
    let words ← readWords seen rawData
    if words.length < 6 then throw .invalidLength
    match variant? hrp words with
    | some v => return ⟨String.ofList hrp, words.take (words.length - 6), v⟩
    | none => throw .invalidChecksum

/-- Writes a text with the given checksum form. -/
def encodeAs (v : Variant) (hrp : String) (words : List Word) : Except Error String := do
  let seen ← checkHrp hrp.toList
  let hrp := normalHrp seen hrp.toList
  return String.ofList (hrp ++ '1' :: (words ++ checksum v hrp words).map letter)

/-- Writes a text with the first checksum form. -/
def encode (hrp : String) (words : List Word) : Except Error String := encodeAs .bech32 hrp words

/-! ## Bytes -/

/-- The bytes whose bits the words carry. At most four zero bits may be left over. -/
def toBytes (words : List Word) : Except Error (List UInt8) :=
  let (bytes, rest) := Bits.chunks 8 (words.flatMap Bits.ofWord)
  if 5 ≤ rest.length || rest.any id then .error .invalidPadding
  else .ok (bytes.map fun b => ⟨Bits.toWord 8 b⟩)

/-- The words that carry the bits of the bytes, filled up with zero bits. -/
def ofBytes (bytes : List UInt8) : List Word :=
  let (words, rest) := Bits.chunks 5 (bytes.flatMap fun b => Bits.ofWord b.toBitVec)
  let filled :=
    if rest.isEmpty then words else words ++ [rest ++ List.replicate (5 - rest.length) false]
  filled.map (Bits.toWord 5)

end Bech32

end Liveness
