import Liveness.Url.Ipv4

/-!
# Addresses of eight pieces

Addresses are written as hexadecimal pieces of two bytes each between colons. Two colons in a row
stand for all pieces that are missing, which are zero; they are written for the longest run of at
least two zeros. When an address is read, its last two pieces may also be given as an address of
four bytes.
-/

namespace Liveness.Url

/-- An address of eight pieces. -/
structure Ipv6 where
  /-- The pieces. -/
  pieces : List Nat
  deriving DecidableEq, Repr

namespace Ipv6

/-! ## Writing -/

/-- The lengths of the runs of zeros that begin at each piece. -/
def zerosFrom : List Nat → List Nat
  | [] => []
  | p :: rest =>
    let after := zerosFrom rest
    (if p = 0 then after.headD 0 + 1 else 0) :: after

/-- A number in hexadecimal digits without leading zeros. -/
def pieceText (n : Nat) : String := String.ofList (Nat.toDigits 16 n)

/-- Pieces between colons. -/
def joined (pieces : List Nat) : String := ":".intercalate (pieces.map pieceText)

/-- The address as it is written. -/
def text (a : Ipv6) : String :=
  let zeros := zerosFrom a.pieces
  let longest := zeros.foldl max 0
  if 2 ≤ longest then
    let start := zeros.idxOf longest
    joined (a.pieces.take start) ++ "::" ++ joined (a.pieces.drop (start + longest))
  else joined a.pieces

/-! ## Reading -/

/-- A piece of one to four digits. -/
def piece? (cs : List Char) : Option Nat :=
  if 1 ≤ cs.length && cs.length ≤ 4 then Ipv4.ofDigits? 16 cs else none

/-- A decimal byte without leading zeros. -/
def byte? (cs : List Char) : Option Nat :=
  if cs.isEmpty || (1 < cs.length && cs.head? == some '0') then none
  else (Ipv4.ofDigits? 10 cs).filter (· < 256)

/-- The two pieces of four bytes with full stops between them. -/
def embedded? (cs : List Char) : Option (List Nat) :=
  match (Text.parts (· == '.') cs).mapM byte? with
  | some [a, b, c, d] => some [256 * a + b, 256 * c + d]
  | _ => none

/-- Pieces between colons, the last of which may be an address of four bytes if `atEnd`. -/
def pieces? (atEnd : Bool) (cs : List Char) : Option (List Nat) :=
  let all := Text.parts (· == ':') cs
  match cs, all.getLast? with
  | [], _ | _, none => some []
  | _, some last =>
    if atEnd && last.contains '.' then do
      return (← all.dropLast.mapM piece?) ++ (← embedded? last)
    else all.mapM piece?

/-- What stands before and after the first two colons in a row. -/
def cutAtGap : List Char → List Char × Option (List Char)
  | ':' :: ':' :: rest => ([], some rest)
  | c :: rest =>
    let (before, after) := cutAtGap rest
    (c :: before, after)
  | [] => ([], none)

/-- The address of a text. -/
def ofText? (cs : List Char) : Option Ipv6 := do
  match cutAtGap cs with
  | (all, none) =>
    let pieces ← pieces? true all
    if pieces.length = 8 then some ⟨pieces⟩ else none
  | (before, some after) =>
    let first ← pieces? false before
    let last ← pieces? true after
    let missing := 8 - (first.length + last.length)
    if 0 < missing then some ⟨first ++ List.replicate missing 0 ++ last⟩ else none

end Ipv6

end Liveness.Url
