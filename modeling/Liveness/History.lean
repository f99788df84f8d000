import Liveness.Block

/-!
# Attendance history

The most recent observations of one validator, oldest first, in strictly increasing order of height.
An observation that is not newer than the newest one is refused.
-/

namespace Liveness

/-- One observation. -/
structure Attendance where
  /-- The height of the block. -/
  height : Nat
  /-- The vote was present. -/
  found : Bool
  deriving DecidableEq, Repr

/-- The observations that are kept, oldest first. -/
structure History where
  /-- The observations. -/
  entries : List Attendance
  deriving DecidableEq, Repr

namespace History

/-- The history without observations. -/
def empty : History := ⟨[]⟩

/-- The newest observation. -/
def newest? (h : History) : Option Attendance := h.entries.getLast?

/-- The number of observations. -/
def size (h : History) : Nat := h.entries.length

/-- The number of missing votes. -/
def missed (h : History) : Nat := h.entries.countP (!·.found)

/-- The observation comes after all others. -/
def accepts (h : History) (e : Attendance) : Bool :=
  match h.newest? with
  | none => true
  | some last => last.height < e.height

/-- The last `limit` entries of a list. -/
def keepLast {α : Type} (limit : Nat) (l : List α) : List α := l.drop (l.length - limit)

/-- The history with one more observation, of which the last `limit` are kept; none if the
observation does not come after all others. -/
def push? (h : History) (e : Attendance) (limit : Nat) : Option History :=
  if h.accepts e then some ⟨keepLast limit (h.entries ++ [e])⟩ else none

end History

/-! ## Percentages -/

/-- A percentage rounded to two places, a half away from zero. -/
def roundPercent (x : Float) : Float := (x * 100.0).round / 100.0

/-- `part` of `whole` in percent with two places, and zero of nothing. -/
def percentOf (part whole : Nat) : Float :=
  if whole = 0 then 0.0 else roundPercent (Float.ofNat part / Float.ofNat whole * 100.0)

/-- The share of votes that were present. -/
def History.uptime (h : History) : Float := percentOf (h.size - h.missed) h.size

/-- The number of blocks proposed by a consensus address. -/
def proposedBy (blocks : List BlockRecord) (address : String) : Nat :=
  blocks.countP fun b => Text.caseless b.proposer address

/-- The share of blocks proposed by a consensus address. -/
def proposalShare (blocks : List BlockRecord) (address : String) : Float :=
  percentOf (proposedBy blocks address) blocks.length

/-! ## Lemmas -/

namespace History

@[simp] theorem length_keepLast {α : Type} (limit : Nat) (l : List α) :
    (keepLast limit l).length = min limit l.length := by
  simp [keepLast]; omega

theorem keepLast_suffix {α : Type} (limit : Nat) (l : List α) : keepLast limit l <:+ l :=
  List.drop_suffix _ _

theorem push?_eq_none_iff {h : History} {e : Attendance} {limit : Nat} :
    h.push? e limit = none ↔ h.accepts e = false := by
  simp [push?]

end History

end Liveness
