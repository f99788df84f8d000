/-!
# Numerals

Numbers read from text. A natural number may have one leading plus sign and must fit its width. A
floating-point number is the correctly rounded value of a decimal with optional point and exponent,
or one of the words `inf`, `infinity` and `nan` in any case, each with an optional sign.
-/

namespace Liveness.Decimal

/-- The number that decimal digits spell. -/
def digitsValue (ds : List Char) : Nat := ds.foldl (fun n c => 10 * n + (c.toNat - '0'.toNat)) 0

/-- All characters are digits, and there is at least one. -/
def areDigits (ds : List Char) : Bool := !ds.isEmpty && ds.all Char.isDigit

/-- The characters after one leading plus sign. -/
def dropPlus : List Char → List Char
  | '+' :: rest => rest
  | cs => cs

/-- A natural number below `bound`. -/
def readNat (bound : Nat) (s : String) : Option Nat :=
  let ds := dropPlus s.toList
  if areDigits ds && digitsValue ds < bound then some (digitsValue ds) else none

/-- The value `digits * 10 ^ exponent`, rounded to the nearest; far outside the range of exponents
it is infinite or zero whatever the digits are. -/
def rounded (digits : Nat) (exponent : Int) : Float :=
  let size : Int := (toString digits).length
  if digits = 0 then 0.0
  else if 400 < exponent + size then 1.0 / 0.0
  else if exponent + size < -400 then 0.0
  else Float.ofScientific digits (exponent < 0) exponent.natAbs

/-- The exponent after its letter: an optional sign and digits. -/
def readExponent (cs : List Char) : Option Int :=
  match cs with
  | '-' :: ds => if areDigits ds then some (-(digitsValue ds : Int)) else none
  | ds => if areDigits (dropPlus ds) then some (digitsValue (dropPlus ds) : Int) else none

/-- Digits, a point and digits, and an exponent; one of the two runs of digits may be empty. -/
def readMagnitude (cs : List Char) : Option Float :=
  let whole := cs.takeWhile Char.isDigit
  let afterWhole := cs.dropWhile Char.isDigit
  let (places, afterPlaces) :=
    match afterWhole with
    | '.' :: rest => (rest.takeWhile Char.isDigit, rest.dropWhile Char.isDigit)
    | rest => ([], rest)
  if whole.isEmpty && places.isEmpty then none
  else
    let value := fun (e : Int) => rounded (digitsValue (whole ++ places)) (e - places.length)
    match afterPlaces with
    | [] => some (value 0)
    | e :: rest => if e.toLower = 'e' then (readExponent rest).map value else none

/-- A floating-point number. -/
def readFloat (s : String) : Option Float :=
  let unsigned := fun (cs : List Char) =>
    let word := String.ofList (cs.map Char.toLower)
    if word = "inf" || word = "infinity" then some (1.0 / 0.0 : Float)
    else if word = "nan" then some (0.0 / 0.0 : Float)
    else readMagnitude cs
  match s.toList with
  | '-' :: rest => (unsigned rest).map (- ·)
  | cs => unsigned (dropPlus cs)

end Liveness.Decimal
