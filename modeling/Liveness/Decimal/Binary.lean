/-!
# Binary floating point, taken apart

A finite value of binary64 is a natural number times a power of two, with a sign. Everything the
library prints is computed from these three parts in exact arithmetic.
-/

namespace Liveness.Decimal

/-- A binary64 value as a sign, a natural number and a power of two. -/
inductive Binary where
  /-- No number. -/
  | nan
  /-- Beyond all numbers. -/
  | infinite (negative : Bool)
  /-- The number `mantissa * 2 ^ exponent` with its sign. -/
  | finite (negative : Bool) (mantissa : Nat) (exponent : Int)
  deriving DecidableEq, Repr

/-- The parts of a value. -/
def Binary.ofFloat (x : Float) : Binary :=
  let bits := x.toBits.toNat
  let negative := Nat.pow 2 63 ≤ bits
  let field : Nat := bits / Nat.pow 2 52 % Nat.pow 2 11
  let tail : Nat := bits % Nat.pow 2 52
  if field = 2047 then (if tail = 0 then .infinite negative else .nan)
  else if field = 0 then .finite negative tail (-1074)
  else .finite negative (Nat.pow 2 52 + tail) ((field : Int) - 1075)

/-- The quotient rounded to the nearest natural number, a half to the even neighbour. -/
def roundDiv (num den : Nat) : Nat :=
  let q := num / den
  let r := num % den
  if 2 * r < den then q
  else if den < 2 * r then q + 1
  else if q % 2 = 0 then q else q + 1

/-- `mantissa * 2 ^ exponent` as a fraction of natural numbers. -/
def fraction (mantissa : Nat) (exponent : Int) : Nat × Nat :=
  (mantissa * Nat.pow 2 exponent.toNat, Nat.pow 2 (-exponent).toNat)

end Liveness.Decimal
