/-!
# Cutting texts

A text cut at every place where a separator stands, or at the first one, and a text without the
blanks at its two ends. Blank are the characters with the Unicode property `White_Space`.
-/

namespace Liveness.Text

/-- The parts between the characters that separate; they are one more than those. -/
def parts (separates : Char → Bool) : List Char → List (List Char)
  | [] => [[]]
  | c :: rest =>
    let others := parts separates rest
    if separates c then [] :: others
    else
      match others with
      | [] => [[c]]
      | first :: more => (c :: first) :: more

/-- What stands before and after the first `separator`; without one, nothing stands after it. -/
def cutAt (separator : Char) (cs : List Char) : List Char × Option (List Char) :=
  match cs.dropWhile (· != separator) with
  | [] => (cs, none)
  | _ :: after => (cs.takeWhile (· != separator), some after)

/-- What follows `start` at the beginning of a text. -/
def afterStart? (start cs : List Char) : Option (List Char) :=
  if start.isPrefixOf cs then some (cs.drop start.length) else none

/-- The text after every `start` that it begins with in a row. -/
def dropStarts (start cs : List Char) : List Char :=
  if _h : start ≠ [] ∧ start.isPrefixOf cs then dropStarts start (cs.drop start.length) else cs
termination_by cs.length
decreasing_by
  have hpos : 0 < start.length := List.length_pos_iff.2 _h.1
  have hle : start.length ≤ cs.length := (List.isPrefixOf_iff_prefix.1 _h.2).length_le
  simp only [List.length_drop]
  omega

/-! ## Blank characters -/

/-- The character is white space: the controls TAB to CR, the space, and the other separators. -/
def isBlank (c : Char) : Bool :=
  let n := c.toNat
  (0x09 ≤ n && n ≤ 0x0D) || n == 0x20 || n == 0x85 || n == 0xA0 || n == 0x1680 ||
    (0x2000 ≤ n && n ≤ 0x200A) || n == 0x2028 || n == 0x2029 || n == 0x202F || n == 0x205F ||
    n == 0x3000

/-- The text without the blanks at its two ends. -/
def trim (s : String) : String :=
  String.ofList (((s.toList.dropWhile isBlank).reverse.dropWhile isBlank).reverse)

/-- The text has no character but blanks. -/
def isBlankText (s : String) : Bool := s.toList.all isBlank

end Liveness.Text
