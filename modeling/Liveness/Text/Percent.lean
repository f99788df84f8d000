import Liveness.Text.Split
import Liveness.Text.Utf8
import Liveness.Words

/-!
# Percent encoding

Bytes written as `%` and two hexadecimal digits. Which characters are written so depends on the
place; reading takes every such triple for its byte and leaves other characters as they are, so that
a `%` without digits stands for itself. On top of it stand the pairs of a form: `name=value&…`, in
which a plus sign is a space.
-/

namespace Liveness.Text.Percent

/-- The bytes that a text stands for. -/
def decode : List Char → List UInt8
  | '%' :: high :: low :: rest =>
    match Hex.value? high, Hex.value? low with
    | some h, some l => UInt8.ofNat (16 * h + l) :: decode rest
    | _, _ => 0x25 :: decode (high :: low :: rest)
  | c :: rest => String.utf8EncodeChar c ++ decode rest
  | [] => []

/-- A byte as a triple. -/
def triple (b : UInt8) : List Char :=
  ['%', Hex.upperDigit (b.toNat / 16), Hex.upperDigit (b.toNat % 16)]

/-- The text in which the chosen characters are written as triples. -/
def encode (chosen : Char → Bool) (cs : List Char) : List Char :=
  cs.flatMap fun c => if chosen c then (String.utf8EncodeChar c).flatMap triple else [c]

/-! ## Forms -/

/-- A name or a value of a form. -/
def decodeField (cs : List Char) : String :=
  Utf8.decodeLenient (decode (cs.map fun c => if c = '+' then ' ' else c))

/-- The pairs of a form; a name without an equals sign has the empty value. -/
def formPairs (cs : List Char) : List (String × String) :=
  ((parts (· == '&') cs).filter (!·.isEmpty)).map fun pair =>
    let (name, value) := cutAt '=' pair
    (decodeField name, decodeField (value.getD []))

end Liveness.Text.Percent
