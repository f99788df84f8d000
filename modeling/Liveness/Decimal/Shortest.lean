import Liveness.Decimal.Binary

/-!
# Shortest decimal

The fewest digits that read back as the same value, and of those the nearest to it. A decimal reads
back as the value if it lies in the interval of numbers that round to it; the ends belong to the
interval when the mantissa is even. On the grid of decimals with `n` digits only the two neighbours
of the value have to be tried, since if any point of the grid lies in the interval, one of them
does.
-/

namespace Liveness.Decimal

/-- The numbers that round to a positive value, and the value itself, over one denominator. -/
structure Interval where
  /-- The lower end. -/
  low : Nat
  /-- The value. -/
  mid : Nat
  /-- The upper end. -/
  high : Nat
  /-- The denominator of the three. -/
  den : Nat
  /-- The ends belong to the interval. -/
  closed : Bool

/-- The interval of `mantissa * 2 ^ exponent`. Below a power of two neighbours are half as far. -/
def Interval.around (mantissa : Nat) (exponent : Int) : Interval :=
  let (_, den) := fraction 1 (exponent - 2)
  let unit := Nat.pow 2 (exponent - 2).toNat
  let below := if mantissa = Nat.pow 2 52 ∧ -1074 < exponent then 1 else 2
  ⟨(4 * mantissa - below) * unit, 4 * mantissa * unit, (4 * mantissa + 2) * unit, den,
    mantissa % 2 == 0⟩

/-- The decimal `digits * 10 ^ exponent`. -/
structure Scaled where
  /-- The digits as one number. -/
  digits : Nat
  /-- The power of ten. -/
  exponent : Int
  deriving DecidableEq, Repr

/-- The decimal over the denominator of the interval, both scaled by `10 ^ scale`. -/
def Scaled.over (d : Scaled) (den scale : Nat) : Nat :=
  d.digits * Nat.pow 10 (d.exponent + scale).toNat * den

/-- The decimal reads back as the value, where `scale` clears its negative exponent. -/
def Interval.has (i : Interval) (d : Scaled) (scale : Nat) : Bool :=
  let x := d.over i.den scale
  let low := i.low * Nat.pow 10 scale
  let high := i.high * Nat.pow 10 scale
  if i.closed then low ≤ x && x ≤ high else low < x && x < high

/-- The distance of the decimal from the value. -/
def Interval.distance (i : Interval) (d : Scaled) (scale : Nat) : Nat :=
  let x := d.over i.den scale
  let mid := i.mid * Nat.pow 10 scale
  (x - mid) + (mid - x)

/-- The power of ten above the value: the least `e` with `num / den < 10 ^ e`. -/
def magnitude (num den : Nat) : Int :=
  let up := (List.range 400).find? fun k => num < Nat.pow 10 k * den
  match up with
  | some (k + 1) => k + 1
  | _ => -((List.range 400).find? fun k => ¬ num * Nat.pow 10 (k + 1) < den).getD 0

/-- The best decimal on the grid of step `10 ^ exponent`, if one reads back. -/
def Interval.onGrid (i : Interval) (exponent : Int) : Option Scaled :=
  let scale := (-exponent).toNat
  let below : Nat := i.mid * Nat.pow 10 scale / (Nat.pow 10 exponent.toNat * i.den)
  let above : Scaled :=
    if (below + 1) % 10 = 0 then ⟨(below + 1) / 10, exponent + 1⟩ else ⟨below + 1, exponent⟩
  let candidates := [⟨below, exponent⟩, above].filter (i.has · scale)
  match candidates with
  | [] => none
  | [d] => some d
  | d :: e :: _ =>
    if i.distance e scale < i.distance d scale then some e
    else if i.distance d scale < i.distance e scale then some d
    else if d.digits % 2 = 0 then some d else some e

/-- The shortest decimal of the positive value `mantissa * 2 ^ exponent`. -/
def shortest (mantissa : Nat) (exponent : Int) : Scaled :=
  let i := Interval.around mantissa exponent
  let top := magnitude i.mid i.den
  ((List.range 17).findSome? fun (n : Nat) => i.onGrid (top - (n + 1))).getD ⟨0, 0⟩

/-! ## Texts -/

/-- The digits, with zeros and a point where the exponent puts it. -/
def Scaled.positional (d : Scaled) (wholeTail : String) : String :=
  let ds := toString d.digits
  if 0 ≤ d.exponent then ds ++ String.ofList (List.replicate d.exponent.toNat '0') ++ wholeTail
  else
    let places := (-d.exponent).toNat
    let padded := String.ofList (List.replicate (places + 1 - ds.length) '0') ++ ds
    String.ofList (padded.toList.take (padded.length - places)) ++ "." ++
      String.ofList (padded.toList.drop (padded.length - places))

/-- One digit, the others behind a point, and the exponent with its sign. -/
def Scaled.scientific (d : Scaled) : String :=
  let ds := (toString d.digits).toList
  let exponent := d.exponent + (ds.length - 1 : Nat)
  let tail := if ds.length ≤ 1 then "" else "." ++ String.ofList (ds.drop 1)
  let sign := if exponent < 0 then "-" else "+"
  String.ofList (ds.take 1) ++ tail ++ "e" ++ sign ++ toString exponent.natAbs

/-- How a document writes a number: positional with at least one place from `10 ^ -5` up to
`10 ^ 16`, scientific outside. -/
def Scaled.documentText (d : Scaled) : String :=
  let exponent := d.exponent + ((toString d.digits).length - 1 : Nat)
  if -5 ≤ exponent ∧ exponent ≤ 15 then d.positional ".0" else d.scientific

/-- A finite value as a document writes it; a value that is no number is `null`. -/
def documentText (x : Float) : String :=
  match Binary.ofFloat x with
  | .nan | .infinite _ => "null"
  | .finite negative mantissa exponent =>
    let sign := if negative then "-" else ""
    if mantissa = 0 then sign ++ "0.0" else sign ++ (shortest mantissa exponent).documentText

/-- A value for people: always positional, and whole numbers without a point. -/
def plainText (x : Float) : String :=
  match Binary.ofFloat x with
  | .nan => "NaN"
  | .infinite negative => if negative then "-inf" else "inf"
  | .finite negative mantissa exponent =>
    let sign := if negative then "-" else ""
    if mantissa = 0 then sign ++ "0" else sign ++ (shortest mantissa exponent).positional ""

end Liveness.Decimal
