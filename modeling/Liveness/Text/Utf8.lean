/-!
# UTF-8

Bytes read as characters. The bytes are cut into characters and into pieces that are none: a piece
is the longest beginning of a character that the next byte does not continue. Strict reading refuses
the first such piece and says where it lies; lenient reading puts `U+FFFD` in its place.
-/

namespace Liveness.Text.Utf8

/-- The bytes of a text. -/
def encode (s : String) : List UInt8 := s.toUTF8.toList

/-- What some bytes in a row are. -/
inductive Piece where
  /-- A character of `size` bytes. -/
  | char (c : Char) (size : Nat)
  /-- The beginning of a character, `size` bytes of it, that does not go on. -/
  | broken (size : Nat)
  /-- The beginning of a character at the end of the bytes. -/
  | cut (size : Nat)
  deriving DecidableEq, Repr

/-- The beginning of a character. -/
structure Opened where
  /-- The bits so far. -/
  value : Nat
  /-- The number of bytes so far. -/
  size : Nat
  /-- The lowest and the highest value of each byte to come. -/
  tails : List (UInt8 × UInt8)
  deriving DecidableEq, Repr

/-- A byte that goes on with a character may have any of these values. -/
def anyTail : UInt8 × UInt8 := (0x80, 0xBF)

/-- The beginning of a character whose first byte is `b`. The second byte is limited where it would
spell a character that fewer bytes spell, half of a surrogate pair, or nothing below `U+110000`. -/
def opened? (b : UInt8) : Option Opened :=
  let n := b.toNat
  if n < 0x80 then some ⟨n, 1, []⟩
  else if n < 0xC2 then none
  else if n < 0xE0 then some ⟨n - 0xC0, 1, [anyTail]⟩
  else if n < 0xF0 then
    let second := if n = 0xE0 then (0xA0, 0xBF) else if n = 0xED then (0x80, 0x9F) else anyTail
    some ⟨n - 0xE0, 1, [second, anyTail]⟩
  else if n < 0xF5 then
    let second := if n = 0xF0 then (0x90, 0xBF) else if n = 0xF4 then (0x80, 0x8F) else anyTail
    some ⟨n - 0xF0, 1, [second, anyTail, anyTail]⟩
  else none

/-- The beginning with one more byte, if that byte may follow. -/
def Opened.extend? (o : Opened) (b : UInt8) : Option Opened :=
  match o.tails with
  | [] => none
  | (low, high) :: tails =>
    if low ≤ b && b ≤ high then some ⟨64 * o.value + (b.toNat - 0x80), o.size + 1, tails⟩ else none

/-- The piece of a character that is complete. -/
def Opened.piece? (o : Opened) : Option Piece :=
  if o.tails.isEmpty then some (.char (Char.ofNat o.value) o.size) else none

/-- The pieces of bytes, of which the beginning of a character may have been read already. -/
def piecesFrom (start : Option Opened) : List UInt8 → List Piece
  | [] =>
    match start with
    | none => []
    | some o => [.cut o.size]
  | b :: rest =>
    let left : List Piece × Option Opened :=
      match start with
      | none => ([], opened? b)
      | some o =>
        match o.extend? b with
        | some o => ([], some o)
        | none => ([.broken o.size], opened? b)
    match left with
    | (pieces, none) => pieces ++ .broken 1 :: piecesFrom none rest
    | (pieces, some o) =>
      match o.piece? with
      | some piece => pieces ++ piece :: piecesFrom none rest
      | none => pieces ++ piecesFrom (some o) rest

/-- The pieces of bytes. -/
def pieces (bytes : List UInt8) : List Piece := piecesFrom none bytes

/-- Why bytes are no text. -/
inductive Error where
  /-- At `offset` stand `size` bytes that are no character. -/
  | invalid (offset size : Nat)
  /-- The bytes end inside the character at `offset`. -/
  | incomplete (offset : Nat)
  deriving DecidableEq, Repr

/-- The wording of an error. -/
def Error.message : Error → String
  | .invalid offset size => s!"invalid utf-8 sequence of {size} bytes from index {offset}"
  | .incomplete offset => s!"incomplete utf-8 byte sequence from index {offset}"

/-- The characters of pieces, the first of them `offset` bytes into the text. -/
def charsOf (offset : Nat) : List Piece → Except Error (List Char)
  | [] => .ok []
  | .char c size :: rest => (charsOf (offset + size) rest).map (c :: ·)
  | .broken size :: _ => .error (.invalid offset size)
  | .cut _ :: _ => .error (.incomplete offset)

/-- The text that bytes spell. -/
def decode (bytes : List UInt8) : Except Error String :=
  (charsOf 0 (pieces bytes)).map String.ofList

/-- The character that stands for a piece that is none. -/
def replacement : Char := '\uFFFD'

/-- The text that bytes spell, with a replacement for every piece that is no character. -/
def decodeLenient (bytes : List UInt8) : String :=
  String.ofList ((pieces bytes).map fun
    | .char c _ => c
    | .broken _ | .cut _ => replacement)

end Liveness.Text.Utf8
