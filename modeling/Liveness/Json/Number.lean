import Liveness.Decimal.Numeral
import Liveness.Words

/-!
# Numbers of a document

A numeral without point and exponent is a natural number below `2 ^ 64` or an integer not below
`-2 ^ 63`; every other numeral, and `-0`, is a floating-point number. That value is the number
formed by the leading digits that fit into 64 bits, multiplied or divided by a power of ten in one
floating-point operation (several beyond `10 ^ 308`); a numeral whose value would be infinite has
none.
-/

namespace Liveness.Json

/-- A number as a document keeps it. -/
inductive Number where
  /-- A natural number. -/
  | natural (n : Nat)
  /-- The negation of a positive natural number. -/
  | negative (n : Nat)
  /-- A floating-point number. -/
  | float (x : Float)
  deriving DecidableEq, Repr

namespace Number

/-- The number if it is natural. -/
def natural? : Number → Option Nat
  | .natural n => some n
  | _ => none

/-- The number if it is an integer that fits 64 bits with sign. -/
def int? : Number → Option Int
  | .natural n => if n < Bound.signed64 then some n else none
  | .negative n => some (-(n : Int))
  | .float _ => none

/-- The floating-point value nearest to the number. -/
def toFloat : Number → Float
  | .natural n => n.toUInt64.toFloat
  | .negative n => - n.toUInt64.toFloat
  | .float x => x

end Number

/-- The parts of a numeral. -/
structure Numeral where
  /-- It starts with a minus sign. -/
  negative : Bool
  /-- The digits before the point. -/
  whole : List Char
  /-- The digits behind the point, if there is one. -/
  places : Option (List Char)
  /-- The exponent, if there is one: negative or not, and its digits. -/
  exponent : Option (Bool × List Char)
  deriving DecidableEq, Repr

namespace Numeral

/-! ## Grammar -/

/-- Digits before the point: `0`, or digits that start with another one. -/
def areWhole (ds : List Char) : Bool :=
  Decimal.areDigits ds && (ds.head? != some '0' || ds.length == 1)

/-- The exponent after its letter. -/
def readExponent (cs : List Char) : Option (Bool × List Char) :=
  let (negative, ds) :=
    match cs with
    | '-' :: rest => (true, rest)
    | rest => (false, Decimal.dropPlus rest)
  if Decimal.areDigits ds then some (negative, ds) else none

/-- Reads a whole text as a numeral. -/
def read (cs : List Char) : Option Numeral :=
  let (negative, cs) :=
    match cs with
    | '-' :: rest => (true, rest)
    | rest => (false, rest)
  let whole := cs.takeWhile Char.isDigit
  if !areWhole whole then none
  else
    let (places, rest) :=
      match cs.dropWhile Char.isDigit with
      | '.' :: rest => (some (rest.takeWhile Char.isDigit), rest.dropWhile Char.isDigit)
      | rest => (none, rest)
    if places == some [] then none
    else
      match rest with
      | [] => some ⟨negative, whole, places, none⟩
      | e :: rest =>
        if e.toLower = 'e' then
          (readExponent rest).map fun exponent => ⟨negative, whole, places, some exponent⟩
        else none

/-! ## Value -/

/-- The number formed by the leading digits while it fits into 64 bits, and the other digits. -/
def absorb (n : Nat) : List Char → Nat × List Char
  | [] => (n, [])
  | c :: rest =>
    let n' := 10 * n + (c.toNat - '0'.toNat)
    if n' < Bound.word64 then absorb n' rest else (n, c :: rest)

/-- `10 ^ k` in floating point. -/
def powerOfTen (k : Nat) : Float := Float.ofScientific 1 false k

/-- `x` scaled by a power of ten; none if that is infinite. -/
def scale (x : Float) (exponent : Int) : Option Float :=
  if 0 ≤ exponent then
    if exponent ≤ 308 then
      let y := x * powerOfTen exponent.toNat
      if y.isInf then none else some y
    else if x == 0.0 then some x else none
  else if -308 ≤ exponent then some (x / powerOfTen exponent.natAbs)
  else if x == 0.0 then some x
  else scale (x / powerOfTen 308) (exponent + 308)
termination_by exponent.natAbs
decreasing_by omega

/-- The number a numeral stands for. -/
def number? (n : Numeral) : Option Number :=
  let (significand, rest) := absorb 0 n.whole
  let magnitude := significand.toUInt64.toFloat
  let signed := fun (x : Float) => Number.float (if n.negative then - x else x)
  match rest, n.places, n.exponent with
  | [], none, none =>
    if !n.negative then some (.natural significand)
    else if significand = 0 || Bound.signed64 < significand then some (signed magnitude)
    else some (.negative significand)
  | rest, places, exponent =>
    let (significand, unread) := absorb significand (places.getD [])
    let shift : Int := rest.length - ((places.getD []).length - unread.length : Nat)
    let power : Int :=
      match exponent with
      | none => 0
      | some (true, ds) => -(Decimal.digitsValue ds : Int)
      | some (false, ds) => Decimal.digitsValue ds
    (scale significand.toUInt64.toFloat (shift + power)).map signed

end Numeral

end Liveness.Json
