import Liveness.Decimal.Binary

/-!
# Fixed places

A value with a given number of decimal places: the exact binary value rounded to the nearest, a half
to the even neighbour. The sign of a negative value stands also before zeros.
-/

namespace Liveness.Decimal

/-- When a sign is written. -/
inductive Sign where
  /-- A minus before negative values. -/
  | negative
  /-- A plus or a minus before every number. -/
  | always
  deriving DecidableEq, Repr

/-- The text of a sign. -/
def Sign.text (s : Sign) (negative : Bool) : String :=
  if negative then "-"
  else match s with
    | .negative => ""
    | .always => "+"

/-- The digits of `n` as units of `10 ^ -places`. -/
def placed (n places : Nat) : String :=
  let whole := toString (n / Nat.pow 10 places)
  if places = 0 then whole
  else
    let part := toString (n % Nat.pow 10 places)
    whole ++ "." ++ String.ofList (List.replicate (places - part.length) '0') ++ part

/-- The value with `places` decimal places. -/
def fixed (sign : Sign) (places : Nat) (x : Float) : String :=
  match Binary.ofFloat x with
  | .nan => "NaN"
  | .infinite negative => sign.text negative ++ "inf"
  | .finite negative mantissa exponent =>
    let (num, den) := fraction mantissa exponent
    sign.text negative ++ placed (roundDiv (num * Nat.pow 10 places) den) places

end Liveness.Decimal
