/-!
# Punycode

A text over any characters written in ASCII letters, digits and hyphens. The ASCII characters come
first; behind the last hyphen stands, for each other character in the order of code points, how far
on it lies from the one before, where a step is one place in the text or, from its end, one code
point. The distances are written to the base of 36 with thresholds that adapt to the size of earlier
ones.
-/

namespace Liveness.Url.Punycode

/-! ## Numbers -/

/-- The base of the numbers. -/
def base : Nat := 36

/-- The letter or digit for a value below `base`. -/
def digit (d : Nat) : Char := "abcdefghijklmnopqrstuvwxyz0123456789".toList.getD d 'a'

/-- The value of a letter in either case, or of a digit. -/
def digitValue? (c : Char) : Option Nat :=
  "abcdefghijklmnopqrstuvwxyz0123456789".toList.idxOf? c.toLower

/-- A digit below the threshold of its place is the last one of its number. -/
def threshold (place bias : Nat) : Nat :=
  if place ≤ bias then 1 else if bias + 26 ≤ place then 26 else place - bias

theorem threshold_pos (place bias : Nat) : 1 ≤ threshold place bias := by
  unfold threshold
  split
  · omega
  · split <;> omega

/-- The bias for a distance, from the places that were passed for it so far. -/
def biasFrom (distance places : Nat) : Nat :=
  if 455 < distance then biasFrom (distance / 35) (places + base)
  else places + base * distance / (distance + 38)
termination_by distance
decreasing_by exact Nat.div_lt_self (by omega) (by omega)

/-- The bias after a distance was written for the character number `count`. -/
def adapt (distance count : Nat) (isFirst : Bool) : Nat :=
  let scaled := if isFirst then distance / 700 else distance / 2
  biasFrom (scaled + scaled / count) 0

/-- The digits of a distance from a place on. -/
def writeNumber (bias place distance : Nat) : List Char :=
  let t := threshold place bias
  if distance < t then [digit distance]
  else
    digit (t + (distance - t) % (base - t)) ::
      writeNumber bias (place + base) ((distance - t) / (base - t))
termination_by distance
decreasing_by
  have hpos := threshold_pos place bias
  have hle : (distance - threshold place bias) / (base - threshold place bias)
      ≤ distance - threshold place bias := Nat.div_le_self _ _
  omega

/-- A distance from its digits and what follows them; the digit at `place` weighs `weight`. -/
def readNumber (bias place weight distance : Nat) : List Char → Option (Nat × List Char)
  | [] => none
  | c :: rest =>
    match digitValue? c with
    | none => none
    | some d =>
      let t := threshold place bias
      let distance := distance + d * weight
      if d < t then some (distance, rest)
      else readNumber bias (place + base) (weight * (base - t)) distance rest

theorem length_readNumber {bias place weight distance : Nat} {cs : List Char}
    {r : Nat × List Char} (h : readNumber bias place weight distance cs = some r) :
    r.2.length < cs.length := by
  induction cs generalizing place weight distance with
  | nil => simp [readNumber] at h
  | cons c rest ih =>
    simp only [readNumber] at h
    split at h
    · simp at h
    · split at h
      · cases h; simp
      · exact Nat.lt_succ_of_lt (ih h)

/-! ## Writing -/

/-- The character is ASCII. -/
def isAscii (c : Char) : Bool := c.toNat < 0x80

/-- A text that is written in part. -/
structure Progress where
  /-- What is written of the distances. -/
  out : List Char
  /-- The steps since the last character that was written. -/
  distance : Nat
  /-- The bias. -/
  bias : Nat
  /-- The number of characters that were written. -/
  count : Nat

/-- Passes a place of the text, at which only `code` is written now. -/
def Progress.pass (ascii code : Nat) (p : Progress) (c : Char) : Progress :=
  if c.toNat < code then { p with distance := p.distance + 1 }
  else if c.toNat = code then
    { out := p.out ++ writeNumber p.bias base p.distance
      distance := 0
      bias := adapt p.distance (p.count + 1) (p.count == ascii)
      count := p.count + 1 }
  else p

/-- Passes the whole text for each code point, where `next` comes after the one before. -/
def Progress.run (cs : List Char) (ascii : Nat) : List Nat → Nat → Progress → Progress
  | [], _, p => p
  | code :: codes, next, p =>
    let p := { p with distance := p.distance + (code - next) * (p.count + 1) }
    let p := cs.foldl (Progress.pass ascii code) p
    Progress.run cs ascii codes (code + 1) { p with distance := p.distance + 1 }

/-- The written form of a text. -/
def encode (cs : List Char) : List Char :=
  let ascii := cs.filter isAscii
  let codes := (((cs.filter (!isAscii ·)).map Char.toNat).mergeSort (· ≤ ·)).eraseDups
  let p := Progress.run cs ascii.length codes 0x80 ⟨[], 0, 72, ascii.length⟩
  ascii ++ (if ascii.isEmpty then [] else ['-']) ++ p.out

/-! ## Reading -/

/-- The text after the remaining distances; the next one is counted from `code` and `place`. -/
def insertAll (cs : List Char) (code place bias : Nat) (isFirst : Bool) (digits : List Char) :
    Option (List Char) :=
  if digits.isEmpty then some cs
  else
    match _h : readNumber bias base 1 0 digits with
    | none => none
    | some (distance, rest) =>
      let count := cs.length + 1
      let total := place + distance
      let code := code + total / count
      let place := total % count
      if code.isValidChar then
        insertAll (cs.insertIdx place (Char.ofNat code)) code (place + 1)
          (adapt distance count isFirst) false rest
      else none
termination_by digits.length
decreasing_by exact length_readNumber _h

/-- The text of a written form. -/
def decode? (cs : List Char) : Option (List Char) :=
  let digits := (cs.reverse.takeWhile (· != '-')).reverse
  let ascii := (cs.take (cs.length - digits.length)).dropLast
  if ascii.all isAscii then insertAll ascii 0x80 0 72 true digits else none

end Liveness.Url.Punycode
