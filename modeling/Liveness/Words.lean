/-!
# Words

Words of fixed widths: how many there are, their bits, and their hexadecimal digits. A string of
bits is a list, most significant bit first, and lists are cut into pieces of one length: converting
between five-bit words, six-bit symbols and bytes is one cut of the same bit string at other places.
-/

/-! ## Bounds: one more than the greatest number of each width -/

namespace Liveness.Bound

/-- Words of 32 bits. -/
def word32 : Nat := 4294967296

/-- Signed words of 64 bits. -/
def signed64 : Nat := 9223372036854775808

/-- Words of 64 bits. -/
def word64 : Nat := 18446744073709551616

/-- Words of 128 bits. -/
def word128 : Nat := 340282366920938463463374607431768211456

end Liveness.Bound

/-! ## Bit strings -/

namespace Liveness.Bits

/-- The bits of a word, most significant first. -/
def ofWord {w : Nat} (x : BitVec w) : List Bool := (List.range w).map x.getMsbD

/-- The word of width `w` whose value the bits spell in base two. -/
def toWord (w : Nat) (bits : List Bool) : BitVec w :=
  BitVec.ofNat w (bits.foldl (fun n b => 2 * n + b.toNat) 0)

/-- The list cut into pieces of length `n`, and the rest, which is shorter than a piece. -/
def chunks {α : Type} (n : Nat) (l : List α) : List (List α) × List α :=
  if _h : 0 < n ∧ n ≤ l.length then
    let (pieces, rest) := chunks n (l.drop n)
    (l.take n :: pieces, rest)
  else ([], l)
termination_by l.length
decreasing_by simp; omega

@[simp] theorem length_ofWord {w : Nat} (x : BitVec w) : (ofWord x).length = w := by
  simp [ofWord]

end Liveness.Bits

/-! ## Hexadecimal digits: two for each byte, the high one first; either case is read -/

namespace Liveness.Hex

/-- The sixteen digits with letters in upper case. -/
def upperDigit (n : Nat) : Char := "0123456789ABCDEF".toList.getD n '0'

/-- The bytes as upper-case digits. -/
def encodeUpper (bytes : List UInt8) : String :=
  String.ofList (bytes.flatMap fun b => [upperDigit (b.toNat / 16), upperDigit (b.toNat % 16)])

/-- The value of a digit. -/
def value? (c : Char) : Option Nat :=
  let n := c.toNat
  if 0x30 ≤ n && n ≤ 0x39 then some (n - 0x30)
  else if 0x41 ≤ n && n ≤ 0x46 then some (n - 0x41 + 10)
  else if 0x61 ≤ n && n ≤ 0x66 then some (n - 0x61 + 10)
  else none

end Liveness.Hex
