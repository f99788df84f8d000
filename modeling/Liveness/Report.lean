import Liveness.Alert
import Liveness.Decimal.Fixed
import Liveness.Validator

/-!
# Reports

The change of a validator between two heights, and its text. Values have two places; a change always
shows its sign.
-/

namespace Liveness

/-- A value at the start and at the end of a report. -/
structure Delta where
  /-- At the start. -/
  before : Float
  /-- At the end. -/
  after : Float
  deriving DecidableEq, Repr

namespace Delta

/-- The difference. -/
def change (d : Delta) : Float := d.after - d.before

/-- One line of a report. -/
def line (d : Delta) (label unit : String) : String :=
  let value := fun x => Decimal.fixed .negative 2 x ++ unit
  let change := Decimal.fixed .always 2 d.change
  s!"{label}: {value d.before} → {value d.after} ({change})\n"

end Delta

/-- A validator between two heights. -/
structure Report where
  /-- The operator address. -/
  operator : String
  /-- The name to show. -/
  moniker : String
  /-- The height at the start. -/
  fromHeight : Nat
  /-- The height at the end. -/
  toHeight : Nat
  /-- The commission rate in percent. -/
  commissionRate : Delta
  /-- The greatest commission rate in percent. -/
  maxCommissionRate : Delta
  /-- The share of the bonded tokens in percent. -/
  votingPower : Delta
  /-- The tokens in display units. -/
  tokens : Delta
  /-- The attendance in percent. -/
  uptime : Float
  /-- The number of retained blocks that the validator proposed. -/
  proposed : Nat
  /-- The number of retained blocks. -/
  retained : Nat
  /-- The share of retained blocks that it proposed, in percent. -/
  share : Float
  deriving DecidableEq, Repr

namespace Report

/-- The base units in a display unit of tokens. -/
def tokenScale : Float := 1000000.0

/-- The text of a report. -/
def render (r : Report) : String :=
  let uptime := Decimal.fixed .negative 2 r.uptime
  let share := Decimal.fixed .negative 2 r.share
  s!"📊 Report for {r.moniker} ({r.operator}), blocks {r.fromHeight}..{r.toHeight}\n" ++
    r.commissionRate.line "Commission rate" "%" ++
    r.maxCommissionRate.line "Max commission rate" "%" ++
    r.votingPower.line "Voting power" "%" ++
    r.tokens.line "Total tokens" "" ++
    s!"Uptime: {uptime}%\n" ++
    s!"Proposed blocks: {r.proposed} of {r.retained} ({share}%)"

/-- The first height of a report that ends at `height`. -/
def startHeight (height interval : Nat) : Nat := max (height - interval) 1

/-- The report of a validator from its two snapshots and the pools at both heights. -/
def build (sub : Subscription) (record : ValidatorRecord) (blocks : List BlockRecord)
    (height interval : Nat) (before after : Snapshot) (poolBefore poolAfter : StakingPool) :
    Report where
  operator := sub.operator
  moniker := record.displayName
  fromHeight := startHeight height interval
  toHeight := height
  commissionRate := ⟨before.commission.rate * 100.0, after.commission.rate * 100.0⟩
  maxCommissionRate := ⟨before.commission.maxRate * 100.0, after.commission.maxRate * 100.0⟩
  votingPower := ⟨poolBefore.votingPower before.tokens, poolAfter.votingPower after.tokens⟩
  tokens := ⟨Float.ofNat before.tokens / tokenScale, Float.ofNat after.tokens / tokenScale⟩
  uptime := sub.tracking.history.uptime
  proposed := proposedBy blocks record.consensus
  retained := blocks.length
  share := proposalShare blocks record.consensus

end Report

end Liveness
