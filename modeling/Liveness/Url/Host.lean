import Liveness.Text.Percent
import Liveness.Url.Domain
import Liveness.Url.Ipv6

/-!
# Hosts

A host is an address or a name. Names that stand for machines of a network are brought into one
form, names of other kinds are left as they are.
-/

namespace Liveness.Url

/-- A host. -/
inductive Host where
  /-- A name; it may be empty where the scheme allows that. -/
  | name (text : String)
  /-- An address of four bytes. -/
  | v4 (address : Ipv4)
  /-- An address of eight pieces. -/
  | v6 (address : Ipv6)
  deriving DecidableEq, Repr

namespace Host

/-- The host as it is written. -/
def text : Host → String
  | name s => s
  | v4 a => a.text
  | v6 a => "[" ++ a.text ++ "]"

/-- The character is no printable ASCII character. -/
def isControl (c : Char) : Bool := c.toNat < 0x20 || 0x7E < c.toNat

/-- The character cannot stand in a name of any kind. -/
def isForbidden (c : Char) : Bool := "\x00\t\n\r #/:<>?@[\\]^|".toList.contains c

/-- What brackets hold, if the text begins with one. -/
def bracketed? : List Char → Option (Option (List Char))
  | '[' :: cs => some (if cs.getLast? == some ']' then some cs.dropLast else none)
  | _ => none

/-- The host of a network that a text stands for. -/
def ofNetwork? (cs : List Char) : Option Host :=
  match bracketed? cs with
  | some inner => do return v6 (← Ipv6.ofText? (← inner))
  | none => do
    let name ← Domain.toAscii? (← (Text.Utf8.decode (Text.Percent.decode cs)).toOption)
    if Ipv4.isNumeric name then return v4 (← Ipv4.ofName? name)
    else return .name (String.ofList name)

/-- The host of any other kind that a text stands for. -/
def ofOther? (cs : List Char) : Option Host :=
  match bracketed? cs with
  | some inner => do return v6 (← Ipv6.ofText? (← inner))
  | none =>
    if cs.any isForbidden then none
    else some (name (String.ofList (Text.Percent.encode isControl cs)))

end Host

end Liveness.Url
