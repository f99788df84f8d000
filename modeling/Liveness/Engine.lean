import Liveness.Config.Tracker
import Liveness.Following
import Liveness.Mutation
import Liveness.Report.Pass

/-!
# The engine

What happens at a new block. A block that is not newer than the latest one does nothing. For any
other the record of the block, the scan of its transactions, a refresh of the window and a report
are put off, every tracked validator is updated on its own, and what was put off is done. A failure,
or a step that waits for ever, stays with the validator or the job it happened to.

What a block puts off need not wait for the updates, nor the updates for each other: they may go on
side by side. `handleBlock` takes one of the orders in which this can end, that of a single thread:
what the block put off comes first, then the updates, and then the rechecks and refreshes which these
put off. Every order of whole tasks is an `Engine.Interleaving`.
-/

namespace Liveness

/-- What a block did. -/
structure Outcome where
  /-- The validators with a new observation. -/
  updated : Nat
  /-- Those among them that missed the block. -/
  missed : Nat
  /-- Those among them whose streak was announced. -/
  notified : Nat
  /-- The validators whose update failed or took too long. -/
  failed : Nat
  deriving DecidableEq, Repr

namespace Outcome

/-- Nothing happened. -/
def zero : Outcome := ⟨0, 0, 0, 0⟩

/-- The observation is a miss. -/
def isMiss : Observation → Bool
  | .missed _ _ _ => true
  | _ => false

/-- Counts the update of one validator. -/
def count (o : Outcome) : Except Stop Observation → Outcome
  | .ok .stale => o
  | .ok obs =>
    { o with
      updated := o.updated + 1
      missed := o.missed + (isMiss obs).toNat
      notified := o.notified + obs.shouldNotify.toNat }
  | .error _ => { o with failed := o.failed + 1 }

end Outcome

/-- The world at the start. -/
def World.start {κ σ : Type} (config : TrackerConfig) (chain : κ) (store : σ) : World κ σ where
  chain := chain
  store := store
  lastHeight := 0
  window := clampWindow config.initialWindow
  reports := .every config.reportInterval
  rechecking := []
  backlog := []
  outbox := []

namespace Engine

open Work

variable {κ σ : Type} [Chain κ] [Store σ] (config : TrackerConfig)

/-! ## Single tasks -/

/-- Sets the slashing window to that of the chain. -/
def refreshWindow : Work κ σ Float := do
  let params ← ask Chain.slashingParams
  modify fun w => { w with window := params.window }
  return params.window

/-- The targets that follow an operator. -/
def followers (operator : String) : Work κ σ (List String) := do
  return ((← Registry.subscription? operator).map (·.subscribers)).getD []

/-- Tells the followers of a validator that it left jail, and counts them. -/
def announceUnjail (record : ValidatorRecord) (height : Nat) : Work κ σ Nat := do
  let targets ← followers record.operator
  broadcast targets (.unjailed record height)
  return targets.length

/-- Asks whether a validator is jailed. If it was not known to be, its followers are told. -/
def checkJailed (operator : String) (height : Nat) : Work κ σ Bool := do
  let s ← ask (Chain.validator · operator none)
  if !s.jailed then return false
  if !(← Registry.markJailed operator) then return false
  match ← fetch (Store.findValidator · operator) with
  | none => fail (Store.noValidator operator)
  | some record =>
    broadcast (← followers operator) (.jailed record height)
    return true

/-- Scans the transactions of a block, and tells the followers of the validators that left jail. -/
def scanAndAnnounce (height : Nat) : Work κ σ Unit := do
  let applied ← Registry.scan config.accountPrefix height
  applied.forM fun (m, record) =>
    match m with
    | .unjailed _ =>
      if record.jailed then pure () else discard (isolate (announceUnjail record height))
    | _ => pure ()

/-! ## Work put off -/

/-- Does a piece of work that was put off. -/
def perform : Job → Work κ σ Unit
  | .keep block => commit (Store.insertBlock · block config.blockLimit)
  | .scan height => scanAndAnnounce config height
  | .refreshWindow => discard refreshWindow
  | .report interval height => discard (Report.pass interval height)
  | .recheck operator height => do
    discard (isolate (checkJailed operator height))
    modify fun w => { w with rechecking := w.rechecking.filter (· != operator) }
  | .refetch operator => discard (Registry.refreshOne config.accountPrefix operator)

/-- Does all the work that was put off, oldest first. -/
def drain : Work κ σ Unit := do
  let jobs := (← get).backlog
  modify fun w => { w with backlog := [] }
  jobs.forM fun job => discard (attempt (perform config job))

/-- A step, and all the work that it put off. -/
def settled {α : Type} (x : Work κ σ α) : Work κ σ α := do
  let outcome ← attempt x
  drain config
  MonadExcept.ofExcept outcome

/-! ## Blocks -/

/-- Puts off a recheck of an operator unless one is not finished yet. -/
def recheckLater (operator : String) (height : Nat) : Work κ σ Unit := do
  if (← get).rechecking.contains operator then return
  modify fun w => { w with rechecking := w.rechecking ++ [operator] }
  putOff (.recheck operator height)

/-- Updates one validator. Without a subscription there is nothing to do, and without a record it is
asked for. -/
def update (b : Block) (operator : String) : Work κ σ Observation := do
  match ← Registry.subscription? operator with
  | none => return .stale
  | some sub =>
    match ← fetch (Store.findValidator · operator) with
    | none =>
      putOff (.refetch operator)
      return .stale
    | some record =>
      let found := b.signedBy record.consensus
      let (tracking, observation) :=
        sub.tracking.observe b.height found record.jailed (← get).window config.historyWindow
      if observation = .stale then return .stale
      if let .missed counter level true := observation then
        broadcast sub.subscribers (.missed record counter b.height level)
        recheckLater operator b.height
      commit (Store.updateTracking · operator tracking)
      return observation

/-- Updates validators one after another, each whether or not others fail. -/
def updateAll (b : Block) (operators : List String) : Work κ σ Outcome :=
  operators.foldlM (fun o operator => return o.count (← attempt (update config b operator))) .zero

/-- A refresh of the slashing window is due. -/
def refreshDue (height : Nat) : Bool := height % max config.refreshInterval 1 == 0

/-- Takes a new block: remembers its height and puts off what is due. -/
def accept (b : Block) : Work κ σ Unit := do
  modify fun w => { w with lastHeight := b.height }
  putOff (.keep b.record)
  if 0 < b.txs then putOff (.scan b.height)
  if refreshDue config b.height then putOff .refreshWindow
  let (_, reports) ← Report.trigger (← get).reports b.height
  modify fun w => { w with reports := reports }

/-- The validators that are tracked. -/
def isTracked (sub : Subscription) : Bool := config.trackAll || sub.hasSubscribers

/-- Handles a block. If no validator is tracked, the work put off waits for the next block that has
one, or for the end. -/
def handleBlock (b : Block) : Work κ σ Outcome := do
  if b.height ≤ (← get).lastHeight then return .zero
  accept config b
  match ← isolate (fetch Store.allSubscriptions) with
  | .error _ => return .zero
  | .ok subs =>
    let tracked := (subs.filter (isTracked config)).map (·.operator)
    if tracked.isEmpty then return .zero
    drain config
    let outcome ← updateAll config b tracked
    drain config
    return outcome

/-- Handles blocks in order, after a refresh of the slashing window. -/
def runBlocks (bs : List Block) : Work κ σ Unit := do
  discard (isolate refreshWindow)
  bs.forM fun b => discard (handleBlock config b)

end Engine

end Liveness
