import Liveness.Chain.Basic

/-!
# Scripted chains

A chain whose answers are laid down beforehand: its validators in the order they were added, what
they and the pool were at single heights, and which queries fail.
-/

namespace Liveness

/-- A query that can be made to fail. -/
inductive Outage where
  /-- The query for all validators. -/
  | validators
  /-- The query for the pool. -/
  | pool
  /-- The query for transactions. -/
  | transactions
  /-- The query for one validator. -/
  | validator (operator : String)
  deriving DecidableEq, Repr

/-- A chain whose answers are laid down. -/
structure Scripted where
  /-- The validators. -/
  snapshots : List Snapshot
  /-- The validators at single heights. -/
  snapshotsAt : List ((String × Nat) × Snapshot)
  /-- The pool. -/
  pool : StakingPool
  /-- The pool at single heights. -/
  poolsAt : List (Nat × StakingPool)
  /-- The parameters for slashing, once they are known. -/
  params : Option SlashingParams
  /-- The transactions by height. -/
  transactionsAt : List (Nat × List Transaction)
  /-- The queries that fail. -/
  outages : List Outage
  deriving DecidableEq, Repr

namespace Scripted

/-- The chain without validators. -/
def empty : Scripted := ⟨[], [], ⟨0, 0⟩, [], none, [], []⟩

/-- The rows with one more, which takes the place of an earlier one of its key. -/
def assign {α β : Type} [DecidableEq α] (rows : List (α × β)) (key : α) (value : β) :
    List (α × β) :=
  (key, value) :: rows.filter (·.1 ≠ key)

/-- The chain with a validator, which takes the place of an earlier one of its operator. -/
def putSnapshot (c : Scripted) (s : Snapshot) : Scripted :=
  if c.snapshots.any (·.operator == s.operator) then
    { c with snapshots := c.snapshots.map fun t => if t.operator == s.operator then s else t }
  else { c with snapshots := c.snapshots ++ [s] }

/-- The chain with a validator at one height. -/
def putSnapshotAt (c : Scripted) (height : Nat) (s : Snapshot) : Scripted :=
  { c with snapshotsAt := assign c.snapshotsAt (s.operator, height) s }

/-- The chain without a validator. -/
def removeSnapshot (c : Scripted) (operator : String) : Scripted :=
  { c with snapshots := c.snapshots.filter (·.operator != operator) }

/-- The chain with a validator in or out of jail. -/
def setJailed (c : Scripted) (operator : String) (jailed : Bool) : Scripted :=
  { c with snapshots := c.snapshots.map fun s =>
      if s.operator == operator then { s with jailed := jailed } else s }

/-- The chain with a pool, in general or at one height. -/
def setPool (c : Scripted) (height : Option Nat) (pool : StakingPool) : Scripted :=
  match height with
  | none => { c with pool := pool }
  | some h => { c with poolsAt := assign c.poolsAt h pool }

/-- The chain with transactions at one height. -/
def setTransactions (c : Scripted) (height : Nat) (txs : List Transaction) : Scripted :=
  { c with transactionsAt := assign c.transactionsAt height txs }

/-- The chain with a query that fails, or no longer fails. -/
def setOutage (c : Scripted) (o : Outage) (fails : Bool) : Scripted :=
  let others := c.outages.filter (· ≠ o)
  { c with outages := if fails then o :: others else others }

/-- A query, unless it fails. -/
def answer {α : Type} (c : Scripted) (o : Outage) (wording : String) (result : Except Failure α) :
    Except Failure α × Scripted :=
  (if o ∈ c.outages then .error (.chain wording) else result, c)

/-- A validator, at a height if it is laid down for it. -/
def snapshot? (c : Scripted) (operator : String) (height : Option Nat) : Option Snapshot :=
  (height.bind fun h => c.snapshotsAt.lookup (operator, h)).or
    (c.snapshots.find? (·.operator == operator))

end Scripted

instance : Chain Scripted where
  validators c := c.answer .validators "validators unavailable" (.ok c.snapshots)
  validator c operator height :=
    c.answer (.validator operator) s!"HTTP 500: {operator}" <|
      match c.snapshot? operator height with
      | some s => .ok s
      | none => .error (.chain s!"validator does not exist: {operator}")
  stakingPool c height :=
    c.answer .pool "pool unavailable" (.ok ((height.bind fun h => c.poolsAt.lookup h).getD c.pool))
  slashingParams c :=
    (match c.params with
      | some p => .ok p
      | none => .error (.chain "slashing params unavailable"), c)
  transactions c height :=
    c.answer .transactions "tx search unavailable" (.ok ((c.transactionsAt.lookup height).getD []))

end Liveness
