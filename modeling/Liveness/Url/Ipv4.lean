import Liveness.Text.Split
import Liveness.Words

/-!
# Addresses of four bytes

Addresses are written as four decimal numbers. When they are read, each number may also be octal or
hexadecimal, and the last one stands for all bytes that have no number of their own.
-/

namespace Liveness.Url

/-- An address of four bytes, as one number. -/
structure Ipv4 where
  /-- The number. -/
  number : Nat
  deriving DecidableEq, Repr

namespace Ipv4

/-- The number of addresses for which `n` bytes suffice. -/
def span (n : Nat) : Nat := Nat.pow 256 n

/-- The four bytes. -/
def bytes (a : Ipv4) : List Nat := (List.range 4).reverse.map fun i => a.number / span i % 256

/-- The address as it is written. -/
def text (a : Ipv4) : String := ".".intercalate (a.bytes.map toString)

/-- The number of some digits to a base; without digits it is zero. -/
def ofDigits? (base : Nat) (cs : List Char) : Option Nat :=
  cs.foldlM (fun n c => do
    let d ← Hex.value? c
    if d < base then some (base * n + d) else none) 0

/-- The number of a part: hexadecimal after `0x`, octal after `0`, or else decimal. -/
def part? : List Char → Option Nat
  | [] => none
  | '0' :: 'x' :: digits => ofDigits? 16 digits
  | '0' :: d :: digits => ofDigits? 8 (d :: digits)
  | digits => ofDigits? 10 digits

/-- The parts of a name; a full stop may end it. -/
def parts (name : List Char) : List (List Char) :=
  let all := Text.parts (· == '.') name
  if 1 < all.length && all.getLast? == some [] then all.dropLast else all

/-- The name ends in a number, so that it must be an address. -/
def isNumeric (name : List Char) : Bool :=
  match (parts name).getLast? with
  | none | some [] => false
  | some last => last.all Char.isDigit || (part? last).isSome

/-- The address of numbers, of which only the last may be more than a byte. -/
def ofNumbers? (numbers : List Nat) : Option Ipv4 :=
  match numbers.reverse with
  | [] => none
  | last :: firsts =>
    let bytes := firsts.reverse
    if bytes.length < 4 && bytes.all (· < 256) && last < span (4 - bytes.length) then
      some ⟨bytes.foldl (fun n b => 256 * n + b) 0 * span (4 - bytes.length) + last⟩
    else none

/-- The address of a name. -/
def ofName? (name : List Char) : Option Ipv4 := do ofNumbers? (← (parts name).mapM part?)

end Ipv4

end Liveness.Url
