import Liveness.Text.Mark
import Liveness.Text.Shown
import Liveness.Url.Domain.Image.Multiple
import Liveness.Url.Domain.Image.Shifted
import Liveness.Url.Domain.Image.Single

/-!
# Images of characters

What a character stands for in the name of a host: itself, one or more other characters, or nothing.
Some characters cannot stand in a name. Variants in case, width and style stand for the ordinary
characters; the images of the three ideographic full stops are full stops.
-/

namespace Liveness.Url.Domain

/-- The ranges of characters that stand for nothing: fillers, invisible operators and selectors of
variants. -/
def ignoredRanges : List (Nat × Nat) :=
  [(0x00AD, 0x00AD), (0x034F, 0x034F), (0x115F, 0x1160), (0x17B4, 0x17B5), (0x180B, 0x180F),
   (0x200B, 0x200B), (0x2060, 0x2064), (0x206A, 0x206F), (0x3164, 0x3164), (0xFE00, 0xFE0F),
   (0xFEFF, 0xFEFF), (0xFFA0, 0xFFA0), (0x1BCA0, 0x1BCA3), (0x1D173, 0x1D17A),
   (0xE0100, 0xE01EF)]

/-- The ranges of characters that show and yet cannot stand in a name: those that are written for
texts with full stops in them, those that describe ideographs, and those that stand in for something
that is missing. -/
def excludedRanges : List (Nat × Nat) :=
  [(0x2024, 0x2026), (0x2488, 0x249B), (0x2FF0, 0x2FFF), (0x31EF, 0x31EF), (0x33C2, 0x33C2),
   (0x33C7, 0x33C7), (0x33D8, 0x33D8), (0xFE12, 0xFE12), (0xFE19, 0xFE19), (0xFE30, 0xFE30),
   (0xFE52, 0xFE52), (0xFFFC, 0xFFFD), (0x1F100, 0x1F100)]

/-- The character keeps its neighbours apart in writing that joins letters. -/
def nonJoiner : Char := '\u200C'

/-- The character joins its neighbours. -/
def joiner : Char := '\u200D'

/-- The character may stand for itself in a name. -/
def isPlain (c : Char) : Bool :=
  (Text.isShown c || Text.isMark c || c == nonJoiner || c == joiner) &&
    !Text.inRanges excludedRanges c

/-- What a table says about a character whose code point is `n`. -/
def entryOf? {α : Type} (table : List (Nat × List α)) (n : Nat) : Option α :=
  table.findSome? fun (first, images) => if first ≤ n then images[n - first]? else none

/-- What a character stands for, if it can stand in a name. -/
def image? (c : Char) : Option (List Char) :=
  if Text.inRanges ignoredRanges c then some []
  else
    match Text.shifted? shiftedImages c, entryOf? singleImages c.toNat,
      entryOf? multipleImages c.toNat with
    | some d, _, _ => some [d]
    | none, some n, _ => some [Char.ofNat n]
    | none, none, some ns => some (ns.map Char.ofNat)
    | none, none, none => if isPlain c then some [c] else none

end Liveness.Url.Domain
