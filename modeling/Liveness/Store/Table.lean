import Liveness.Store.Basic
import Liveness.Store.Columns
import Liveness.Words

/-!
# The table store

Rows as a database keeps them: numbers are signed words of 64 bits, so that heights are ordered by
sign, and lists and descriptions are documents. Records stand in the order they were last written; a
block takes the place of an earlier one of its height, and the lowest heights are dropped. A limit
that is negative as a signed word is none.
-/

namespace Liveness

namespace Table

/-! ## Rows -/

/-- The signed word of 64 bits with the bits of a natural number. -/
def signed (n : Nat) : Int := Int.bmod n Bound.word64

/-- The natural number with the bits of a signed word of 64 bits. -/
def unsigned (i : Int) : Nat := (i % Bound.word64).toNat

/-- The natural number with the low 32 bits of a signed word. -/
def unsigned32 (i : Int) : Nat := (i % Bound.word32).toNat

/-- A truth value as a signed word. -/
def flag (b : Bool) : Int := if b then 1 else 0

/-- The failure of a column that holds no document of its kind. -/
def corrupt : Failure := .storage "corrupt JSON column"

/-- The content of a column, or the failure of there being none. -/
def orCorrupt {α : Type} (content : Option α) : Except Failure α :=
  match content with
  | some a => .ok a
  | none => .error corrupt

/-- A subscription as a row. -/
structure SubscriptionRow where
  /-- The operator, the key. -/
  operator : String
  /-- The streak. -/
  counter : Int
  /-- The alert level. -/
  level : Int
  /-- The height of the newest miss. -/
  lastMissed : Int
  /-- The history, as a document. -/
  history : String
  /-- The targets, as a document. -/
  subscribers : String
  deriving DecidableEq, Repr

/-- A record as a row. -/
structure ValidatorRow where
  /-- The operator, the key. -/
  operator : String
  /-- The consensus address. -/
  consensus : String
  /-- The account that owns the operator. -/
  selfDelegation : String
  /-- The consensus key. -/
  key : String
  /-- The validator is jailed. -/
  jailed : Int
  /-- The description, as a document. -/
  description : String
  deriving DecidableEq, Repr

/-- A block as a row. -/
structure BlockRow where
  /-- The height, the key. -/
  height : Int
  /-- The proposer. -/
  proposer : String
  /-- The number of transactions. -/
  txs : Int
  deriving DecidableEq, Repr

/-- The row with this tracking. -/
def SubscriptionRow.track (row : SubscriptionRow) (t : Tracking) : SubscriptionRow :=
  { row with
    counter := signed t.counter
    level := signed t.level
    lastMissed := signed t.lastMissed
    history := Column.ofHistory t.history }

/-- The row of a subscription. -/
def SubscriptionRow.ofSubscription (s : Subscription) : SubscriptionRow :=
  SubscriptionRow.track ⟨s.operator, 0, 0, 0, "", Column.ofTargets s.subscribers⟩ s.tracking

/-- The subscription of a row. -/
def SubscriptionRow.subscription (row : SubscriptionRow) : Except Failure Subscription := do
  let history ← orCorrupt (Column.history? row.history)
  let subscribers ← orCorrupt (Column.targets? row.subscribers)
  return ⟨row.operator,
    ⟨unsigned row.counter, unsigned32 row.level, unsigned row.lastMissed, history⟩, subscribers⟩

/-- The row of a record. -/
def ValidatorRow.ofRecord (r : ValidatorRecord) : ValidatorRow :=
  ⟨r.operator, r.consensus, r.selfDelegation, r.key, flag r.jailed,
    Column.ofDescription r.description⟩

/-- The record of a row. -/
def ValidatorRow.record (row : ValidatorRow) : Except Failure ValidatorRecord := do
  let description ← orCorrupt (Column.description? row.description)
  return ⟨row.operator, row.consensus, row.selfDelegation, row.key, row.jailed != 0, description⟩

/-- The row of a block. -/
def BlockRow.ofRecord (b : BlockRecord) : BlockRow := ⟨signed b.height, b.proposer, signed b.txs⟩

/-- The block of a row. -/
def BlockRow.record (row : BlockRow) : BlockRecord :=
  ⟨unsigned row.height, row.proposer, unsigned32 row.txs⟩

/-- The rows after a block was written in its place by height. -/
def putBlock : List BlockRow → BlockRow → List BlockRow
  | [], b => [b]
  | c :: rest, b =>
    if b.height < c.height then b :: c :: rest
    else if b.height = c.height then b :: rest
    else c :: putBlock rest b

/-- The greatest heights up to a limit, unless the limit is negative. -/
def keepGreatest (limit : Int) (rows : List BlockRow) : List BlockRow :=
  if limit < 0 then rows else rows.drop (rows.length - limit.toNat)

end Table

/-- A store in tables. -/
structure Table where
  /-- The subscriptions by operator. -/
  subscriptions : List Table.SubscriptionRow
  /-- The records, in the order they were last written. -/
  validators : List Table.ValidatorRow
  /-- The blocks by height. -/
  blocks : List Table.BlockRow
  deriving DecidableEq, Repr

namespace Table

/-- The store that holds nothing. -/
def empty : Table := ⟨[], [], []⟩

/-! ## Subscriptions -/

/-- The row of an operator. -/
def row? (t : Table) (operator : String) : Option SubscriptionRow :=
  Rows.find? SubscriptionRow.operator t.subscriptions operator

/-- The subscription of an operator. -/
def findSubscription (t : Table) (operator : String) : Except Failure (Option Subscription) :=
  match t.row? operator with
  | none => .ok none
  | some row => row.subscription.map some

/-- The subscriptions by operator. -/
def allSubscriptions (t : Table) : Except Failure (List Subscription) :=
  t.subscriptions.mapM SubscriptionRow.subscription

/-- The store with a row written. -/
def putRow (t : Table) (row : SubscriptionRow) : Table :=
  { t with subscriptions := Rows.put SubscriptionRow.operator t.subscriptions row }

/-- The failure of an operation that the database refused. -/
def refused (code : Nat) (what : String) : Failure :=
  .storage s!"error returned from database: (code: {code}) {what}"

/-- Adds a row; the key must be new. -/
def insertSubscription (t : Table) (sub : Subscription) : Except Failure Table :=
  if (t.row? sub.operator).isSome then
    .error (refused 1555 "UNIQUE constraint failed: subscriptions.operator_address")
  else .ok (t.putRow (.ofSubscription sub))

/-- Changes a row that exists. -/
def changeRow (t : Table) (operator : String) (f : SubscriptionRow → SubscriptionRow) :
    Except Failure Table :=
  match t.row? operator with
  | none => .error (Store.noSubscription operator)
  | some row => .ok (t.putRow (f row))

/-- Replaces the tracking of a row. -/
def updateTracking (t : Table) (operator : String) (tracking : Tracking) : Except Failure Table :=
  t.changeRow operator (·.track tracking)

/-- Replaces the targets of a row. -/
def setSubscribers (t : Table) (operator : String) (subscribers : List String) :
    Except Failure Table :=
  t.changeRow operator fun row => { row with subscribers := Column.ofTargets subscribers }

/-- Removes a row. -/
def deleteSubscription (t : Table) (operator : String) : Table :=
  { t with subscriptions := Rows.erase SubscriptionRow.operator t.subscriptions operator }

/-! ## Records -/

/-- The record of a row, if there is a row. -/
def recordOf? (row : Option ValidatorRow) : Except Failure (Option ValidatorRecord) :=
  match row with
  | none => .ok none
  | some row => row.record.map some

/-- The record of an operator. -/
def findValidator (t : Table) (operator : String) : Except Failure (Option ValidatorRecord) :=
  recordOf? (t.validators.find? (·.operator == operator))

/-- A record with this consensus address; behind a NUL only the lengths count. -/
def findByConsensus (t : Table) (address : String) : Except Failure (Option ValidatorRecord) :=
  recordOf? (t.validators.find? fun row => Text.caselessToNul row.consensus address)

/-- The records by operator. -/
def allValidators (t : Table) : Except Failure (List ValidatorRecord) :=
  (t.validators.foldl (Rows.put ValidatorRow.operator) []).mapM ValidatorRow.record

/-- Writes a record behind all others, without an earlier one of its operator. -/
def upsertValidator (t : Table) (record : ValidatorRecord) : Table :=
  { t with
    validators := t.validators.filter (·.operator != record.operator) ++ [.ofRecord record] }

/-- Sets the jailed flag of a row where it is another, and tells whether there was such a row. If
there was none, the record must exist. -/
def setJailed (t : Table) (operator : String) (jailed : Bool) : Except Failure (Bool × Table) :=
  let changes (row : ValidatorRow) : Bool := row.operator == operator && row.jailed != flag jailed
  if t.validators.any changes then
    let set (row : ValidatorRow) : ValidatorRow :=
      if changes row then { row with jailed := flag jailed } else row
    .ok (true, { t with validators := t.validators.map set })
  else
    match t.findValidator operator with
    | .error f => .error f
    | .ok none => .error (Store.noValidator operator)
    | .ok (some _) => .ok (false, t)

/-! ## Blocks -/

/-- Writes a block and drops the lowest heights beyond `limit`. -/
def insertBlock (t : Table) (block : BlockRecord) (limit : Nat) : Table :=
  { t with blocks := keepGreatest (signed limit) (putBlock t.blocks (.ofRecord block)) }

end Table

instance : Store Table where
  findSubscription t operator := (t.findSubscription operator).mapError .failed
  allSubscriptions t := t.allSubscriptions.mapError .failed
  findValidator t operator := (t.findValidator operator).mapError .failed
  findByConsensus t address := (t.findByConsensus address).mapError .failed
  allValidators t := t.allValidators.mapError .failed
  blocks t := .ok (t.blocks.map (·.record))
  insertSubscription t sub := Store.written t (t.insertSubscription sub)
  updateTracking t operator tracking := Store.written t (t.updateTracking operator tracking)
  setSubscribers t operator subscribers := Store.written t (t.setSubscribers operator subscribers)
  deleteSubscription t operator := (.ok (), t.deleteSubscription operator)
  upsertValidator t record := (.ok (), t.upsertValidator record)
  setJailed t operator jailed :=
    match t.setJailed operator jailed with
    | .ok (changed, t') => (.ok changed, t')
    | .error f => (.error (.failed f), t)
  insertBlock t block limit := (.ok (), t.insertBlock block limit)

end Liveness
