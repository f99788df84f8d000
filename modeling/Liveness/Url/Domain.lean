import Liveness.Text.Split
import Liveness.Url.Domain.Composition
import Liveness.Url.Domain.Direction
import Liveness.Url.Domain.Joining
import Liveness.Url.Punycode

/-!
# Names of hosts

The name of a host in ASCII. The characters of a name are first replaced by those that they stand
for and composed. A label of the name with other characters than ASCII is then written as `xn--` and
its Punycode; a label that begins so already has to stand for a text that is written so. No label
may begin with a combining mark, have joiners where they make no difference, or mix directions.
-/

namespace Liveness.Url.Domain

/-- The text with every character replaced by what it stands for, and composed. -/
def fold? (cs : List Char) : Option (List Char) := do
  return composed (← cs.mapM image?).flatten

/-- The character cannot stand in a name in ASCII. -/
def isForbidden (c : Char) : Bool :=
  c.toNat ≤ 0x20 || c.toNat == 0x7F || "%#/:<>?@[\\]^|".toList.contains c

/-- What labels begin with that are written in Punycode. -/
def encodedStart : List Char := "xn--".toList

/-- The number of characters up to which a label is written in Punycode. -/
def maxPlain : Nat := 1000

/-- The number of characters up to which Punycode is read. -/
def maxEncoded : Nat := 2000

/-- A label of a name. -/
structure Label where
  /-- The characters that it has to a reader. -/
  meant : List Char
  /-- What stands for it in ASCII. -/
  written : List Char
  deriving DecidableEq, Repr

namespace Label

/-- The label that a text stands for, if it is not written in Punycode. -/
def ofPlain? (cs : List Char) : Option Label :=
  if cs.all Punycode.isAscii then some ⟨cs, cs⟩
  else if cs.length ≤ maxPlain then some ⟨cs, encodedStart ++ Punycode.encode cs⟩
  else none

/-- The label that Punycode stands for: with some character besides ASCII, and none that stands for
another. -/
def ofEncoded? (cs : List Char) : Option Label := do
  if maxEncoded < cs.length then none
  let meant ← Punycode.decode? cs
  if !meant.all Punycode.isAscii && fold? meant == some meant && Punycode.encode meant == cs then
    return ⟨meant, encodedStart ++ cs⟩
  else none

/-- The label that a text stands for. -/
def ofText? (cs : List Char) : Option Label :=
  match Text.afterStart? encodedStart cs with
  | some rest => ofEncoded? rest
  | none => ofPlain? cs

/-- The label does not begin with a mark, and joiners in it make a difference. -/
def isProper (l : Label) : Bool := !l.meant.head?.any Text.isMark && joinsRightly [] l.meant

end Label

/-- The labels of a name; nothing if it is no name. -/
def labels? (name : List Char) : Option (List Label) := do
  let labels ← (Text.parts (· == '.') (← fold? name)).mapM Label.ofText?
  let isMixed := labels.any fun l => isReversed l.meant
  if labels.all Label.isProper && (!isMixed || labels.all fun l => hasDirection l.meant) then
    return labels
  else none

/-- The name in ASCII; nothing if it is no name. -/
def toAscii? (name : String) : Option (List Char) := do
  let name := ['.'].intercalate ((← labels? name.toList).map Label.written)
  if name.isEmpty || name.any isForbidden then none else some name

end Liveness.Url.Domain
