import Liveness.Words

/-!
# Base64

Three bytes are written as four symbols of six bits in a 64-letter alphabet. The last quad of a text
may carry one or two bytes; it is then filled up with `=`, and the bits that carry no byte are zero.
Reading accepts exactly the written forms, and says at which byte of the text the first defect lies.
-/

namespace Liveness.Base64

/-- A symbol of six bits. -/
abbrev Symbol := BitVec 6

/-- Why a text is no written form. -/
inductive Error where
  /-- The byte at `offset` stands where it may not. -/
  | invalidSymbol (byte : UInt8) (offset : Nat)
  /-- The text ends inside a byte. -/
  | invalidLength (length : Nat)
  /-- The symbol at `offset` has bits that carry no byte and are not zero. -/
  | invalidLastSymbol (byte : UInt8) (offset : Nat)
  /-- The last quad is not filled up. -/
  | invalidPadding
  deriving DecidableEq, Repr

/-- The wording of an error. -/
def Error.message : Error → String
  | .invalidSymbol byte offset => s!"Invalid symbol {byte.toNat}, offset {offset}."
  | .invalidLength length => s!"Invalid input length: {length}"
  | .invalidLastSymbol byte offset => s!"Invalid last symbol {byte.toNat}, offset {offset}."
  | .invalidPadding => "Invalid padding"

/-! ## Alphabet -/

/-- The byte of each symbol, in the order of the symbols. -/
def alphabet : List UInt8 :=
  "ABCDEFGHIJKLMNOPQRSTUVWXYZabcdefghijklmnopqrstuvwxyz0123456789+/".toList.map (·.toUInt8)

/-- The byte that fills up a quad. -/
def padByte : UInt8 := 61

/-- The symbol of a byte. -/
def symbol? (b : UInt8) : Option Symbol := (alphabet.idxOf? b).map (BitVec.ofNat 6)

/-- The byte of a symbol. -/
def symbolByte (x : Symbol) : UInt8 := alphabet.getD x.toNat padByte

/-! ## Reading -/

/-- The symbols of full quads, the first of them `offset` bytes into the text. -/
def readQuads (offset : Nat) : List UInt8 → Except Error (List Symbol)
  | [] => .ok []
  | b :: rest =>
    match symbol? b with
    | none => .error (.invalidSymbol b offset)
    | some x => (readQuads (offset + 1) rest).map (x :: ·)

/-- The last quad: its symbols and the number of padding bytes behind them. -/
structure LastQuad where
  /-- The symbols with their bytes, in order. -/
  symbols : List (Symbol × UInt8)
  /-- The number of padding bytes. -/
  padding : Nat

/-- Reads the last quad, which starts `offset` bytes into the text. -/
def readLast (offset : Nat) (read : LastQuad) : List UInt8 → Except Error LastQuad
  | [] => .ok read
  | b :: rest =>
    let index := read.symbols.length + read.padding
    if b = padByte then
      if index < 2 then .error (.invalidSymbol b (offset + index))
      else readLast offset { read with padding := read.padding + 1 } rest
    else if 0 < read.padding then
      .error (.invalidSymbol padByte (offset + read.symbols.length))
    else
      match symbol? b with
      | none => .error (.invalidSymbol b (offset + index))
      | some x => readLast offset { read with symbols := read.symbols ++ [(x, b)] } rest

/-- The bytes whose bits the symbols carry, and the bits left over. -/
def toBytes (symbols : List Symbol) : List UInt8 × List Bool :=
  let (bytes, rest) := Bits.chunks 8 (symbols.flatMap Bits.ofWord)
  (bytes.map fun b => ⟨Bits.toWord 8 b⟩, rest)

/-- The last quad holds two to four symbols, is filled up, and leaves only zero bits over. -/
def checkLast (offset : Nat) (last : LastQuad) : Except Error (List Symbol) :=
  let symbols := last.symbols.map (·.1)
  if symbols.length < 2 then .error (.invalidLength (offset + symbols.length))
  else if (symbols.length + last.padding) % 4 ≠ 0 then .error .invalidPadding
  else
    match (toBytes symbols).2.any id, last.symbols.getLast? with
    | true, some (_, b) => .error (.invalidLastSymbol b (offset + symbols.length - 1))
    | _, _ => .ok symbols

/-- Reads the bytes of a text. A lone last byte that is neither a symbol nor padding is reported
before anything else. -/
def decode (bytes : List UInt8) : Except Error (List UInt8) := do
  if bytes.length % 4 = 1 then
    if let some b := bytes.getLast? then
      if b ≠ padByte && (symbol? b).isNone then
        throw (.invalidSymbol b (bytes.length - 1))
  if bytes.isEmpty then return []
  let offset := (bytes.length - 1) / 4 * 4
  let quads ← readQuads 0 (bytes.take offset)
  let last ← readLast offset ⟨[], 0⟩ (bytes.drop offset)
  let symbols ← checkLast offset last
  return (toBytes (quads ++ symbols)).1

/-! ## Writing -/

/-- The written form of the bytes. -/
def encode (bytes : List UInt8) : List UInt8 :=
  let (full, rest) := Bits.chunks 6 (bytes.flatMap fun b => Bits.ofWord b.toBitVec)
  let filled :=
    if rest.isEmpty then full else full ++ [rest ++ List.replicate (6 - rest.length) false]
  let symbols := filled.map fun s => symbolByte (Bits.toWord 6 s)
  symbols ++ List.replicate ((4 - symbols.length % 4) % 4) padByte

end Liveness.Base64
