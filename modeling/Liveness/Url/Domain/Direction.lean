import Liveness.Text.Mark

/-!
# Directions of labels

Some alphabets are written from right to left. In a name with a character of theirs, every label has
one direction, which its first character sets, so that the labels of a name are seen apart and each
is read in one way.
-/

namespace Liveness.Url.Domain

/-- How a character goes with the direction of a text. -/
inductive Direction where
  /-- A letter that is written from left to right. -/
  | leftToRight
  /-- A letter that is written from right to left. -/
  | rightToLeft
  /-- A European digit. -/
  | europeanNumber
  /-- An Arabic digit. -/
  | arabicNumber
  /-- A mark that goes with the character before it. -/
  | mark
  /-- A sign that has no direction. -/
  | neutral
  deriving DecidableEq, Repr

/-- The ranges of characters that are neither marks nor letters from left to right. A range may also
hold marks and characters that cannot stand in a name. -/
def directions : List (Nat × Nat × Direction) :=
  [(0x0021, 0x002E, .neutral), (0x0030, 0x0039, .europeanNumber), (0x003B, 0x0060, .neutral),
   (0x007B, 0x00D7, .neutral), (0x00F7, 0x00F7, .neutral), (0x02B9, 0x02BA, .neutral),
   (0x02C2, 0x02CF, .neutral), (0x02D2, 0x02ED, .neutral), (0x02EF, 0x02FF, .neutral),
   (0x0375, 0x0375, .neutral), (0x03F6, 0x03F6, .neutral), (0x058A, 0x058F, .neutral),
   (0x05BE, 0x05F4, .rightToLeft), (0x0606, 0x0607, .neutral), (0x0608, 0x0608, .rightToLeft),
   (0x0609, 0x060A, .neutral), (0x060B, 0x060B, .rightToLeft), (0x060C, 0x060C, .neutral),
   (0x060D, 0x060D, .rightToLeft), (0x060E, 0x060F, .neutral), (0x061B, 0x064A, .rightToLeft),
   (0x0660, 0x0669, .arabicNumber), (0x066A, 0x066A, .neutral), (0x066B, 0x066C, .arabicNumber),
   (0x066D, 0x06D5, .rightToLeft), (0x06DE, 0x06DE, .neutral), (0x06E5, 0x06E6, .rightToLeft),
   (0x06E9, 0x06E9, .neutral), (0x06EE, 0x06EF, .rightToLeft), (0x06F0, 0x06F9, .europeanNumber),
   (0x06FA, 0x07F5, .rightToLeft), (0x07F6, 0x07F9, .neutral), (0x07FA, 0x08C9, .rightToLeft),
   (0x09F2, 0x09F3, .neutral), (0x09FB, 0x09FB, .neutral), (0x0AF1, 0x0AF1, .neutral),
   (0x0BF3, 0x0BFA, .neutral), (0x0C78, 0x0C7E, .neutral), (0x0E3F, 0x0E3F, .neutral),
   (0x0F3A, 0x0F3D, .neutral), (0x1390, 0x1399, .neutral), (0x1400, 0x1400, .neutral),
   (0x169B, 0x169C, .neutral), (0x17DB, 0x17DB, .neutral), (0x17F0, 0x180A, .neutral),
   (0x1940, 0x1945, .neutral), (0x19DE, 0x19FF, .neutral), (0x200C, 0x214D, .neutral),
   (0x218A, 0x2335, .neutral), (0x237B, 0x2394, .neutral), (0x2396, 0x26AB, .neutral),
   (0x26AD, 0x27FF, .neutral), (0x2900, 0x2BFF, .neutral), (0x2CE5, 0x2CEA, .neutral),
   (0x2CF9, 0x2CFF, .neutral), (0x2E00, 0x3004, .neutral), (0x3008, 0x3020, .neutral),
   (0x3030, 0x3030, .neutral), (0x3037, 0x3037, .neutral), (0x303D, 0x303F, .neutral),
   (0x30A0, 0x30A0, .neutral), (0x30FB, 0x30FB, .neutral), (0x31C0, 0x31E5, .neutral),
   (0x4DC0, 0x4DFF, .neutral), (0xA490, 0xA4C6, .neutral), (0xA60D, 0xA60F, .neutral),
   (0xA673, 0xA67F, .neutral), (0xA700, 0xA721, .neutral), (0xA788, 0xA788, .neutral),
   (0xA828, 0xA82B, .neutral), (0xA838, 0xA839, .neutral), (0xA874, 0xA877, .neutral),
   (0xAB6A, 0xAB6B, .neutral), (0xFBB2, 0xFBC2, .rightToLeft), (0xFBC3, 0xFE46, .neutral),
   (0xFE73, 0xFE73, .rightToLeft), (0x10101, 0x10101, .neutral), (0x10140, 0x1018C, .neutral),
   (0x10190, 0x101A0, .neutral), (0x102E1, 0x102FB, .europeanNumber),
   (0x10800, 0x1091B, .rightToLeft), (0x1091F, 0x1091F, .neutral), (0x10920, 0x10B35, .rightToLeft),
   (0x10B39, 0x10B3F, .neutral), (0x10B40, 0x10D23, .rightToLeft),
   (0x10D30, 0x10D49, .arabicNumber), (0x10D4A, 0x10D4F, .rightToLeft),
   (0x10D6E, 0x10D6E, .neutral), (0x10D6F, 0x10D8F, .rightToLeft),
   (0x10E60, 0x10E7E, .arabicNumber), (0x10E80, 0x10EC7, .rightToLeft),
   (0x10ED0, 0x10ED8, .neutral), (0x10F00, 0x10FF6, .rightToLeft), (0x11052, 0x11065, .neutral),
   (0x11660, 0x1166C, .neutral), (0x11FD5, 0x11FF1, .neutral), (0x16FE2, 0x16FE2, .neutral),
   (0x1CC00, 0x1CEF0, .neutral), (0x1D1E9, 0x1D245, .neutral), (0x1D300, 0x1D356, .neutral),
   (0x1E2FF, 0x1E2FF, .neutral), (0x1E800, 0x1ED3D, .rightToLeft), (0x1EEF0, 0x1F12F, .neutral),
   (0x1F16D, 0x1F16F, .neutral), (0x1F1AD, 0x1F1AD, .neutral), (0x1F260, 0x1FBFA, .neutral)]

/-- The ranges of marks that are written from left to right like letters. -/
def forwardMarks : List (Nat × Nat) :=
  [(0x0CBF, 0x0CBF), (0x0CC6, 0x0CC6), (0x11A07, 0x11A08), (0x11C3F, 0x11C3F)]

/-- The direction of a character. -/
def direction (c : Char) : Direction :=
  if Text.isNonspacing c then
    if Text.inRanges forwardMarks c then .leftToRight else .mark
  else
    match directions.find? fun (first, last, _) => first ≤ c.toNat && c.toNat ≤ last with
    | some (_, _, d) => d
    | none => .leftToRight

/-- A name with a character of this kind has labels in both directions, or may have. -/
def Direction.isReversed (d : Direction) : Bool := d = .rightToLeft || d = .arabicNumber

/-- Characters of this kind may stand in a label that is written from left to right. -/
def Direction.isForward (d : Direction) : Bool := !d.isReversed

/-- Characters of this kind may stand in a label that is written from right to left. -/
def Direction.isBackward (d : Direction) : Bool := d ≠ .leftToRight

/-- Some character of the text is of a kind that is written from right to left. -/
def isReversed (cs : List Char) : Bool := cs.any fun c => (direction c).isReversed

/-- The label has one direction. Marks at its end do not count; before them stands a letter of that
direction or a digit, and two kinds of digits do not meet in a label from right to left. -/
def hasDirection (cs : List Char) : Bool :=
  let ds := cs.map direction
  let last := (ds.reverse.dropWhile (· == .mark)).head?
  match ds.head? with
  | none => true
  | some .leftToRight =>
    ds.all Direction.isForward && last.any [.leftToRight, .europeanNumber].contains
  | some .rightToLeft =>
    ds.all Direction.isBackward &&
      last.any [.rightToLeft, .europeanNumber, .arabicNumber].contains &&
      !(ds.contains .europeanNumber && ds.contains .arabicNumber)
  | some _ => false

end Liveness.Url.Domain
