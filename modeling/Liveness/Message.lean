import Liveness.Alert
import Liveness.Report

/-!
# Messages

What targets are told, and the words it is put into.
-/

namespace Liveness

namespace Notice

/-- A streak of misses. -/
def missed (v : ValidatorRecord) (counter height level : Nat) : String :=
  let plural := if counter = 1 then "" else "s"
  s!"{severityMarks level} Alert: {v.displayName} has missed {counter} " ++
    s!"consecutive block{plural} (latest at height {height}).\nOperator: {v.operator}"

/-- A validator went to jail. -/
def jailed (v : ValidatorRecord) (height : Nat) : String :=
  s!"⛔ {v.displayName} has been jailed (detected at height {height}).\nOperator: {v.operator}"

/-- A validator left jail. -/
def unjailed (v : ValidatorRecord) (height : Nat) : String :=
  s!"✅ {v.displayName} was unjailed at height {height} and is tracked again."

end Notice

/-- A message. -/
inductive Message where
  /-- A streak of misses that has a level. -/
  | missed (record : ValidatorRecord) (counter height level : Nat)
  /-- A validator went to jail. -/
  | jailed (record : ValidatorRecord) (height : Nat)
  /-- A validator left jail. -/
  | unjailed (record : ValidatorRecord) (height : Nat)
  /-- A report. -/
  | report (r : Report)
  deriving DecidableEq, Repr

/-- The text of a message. -/
def Message.text : Message → String
  | .missed record counter height level => Notice.missed record counter height level
  | .jailed record height => Notice.jailed record height
  | .unjailed record height => Notice.unjailed record height
  | .report r => r.render

end Liveness
