import Liveness.Address
import Liveness.Transaction

/-!
# Validator mutations

What the transactions of a block changed about validators. A successful message tells it by the
action of its first `message` event; the acting operator is the sender. A sender given as an account
is put under the operator part, and for a creation the `create_validator` event names the operator
first.
-/

namespace Liveness

/-- What happened to an operator. -/
inductive Mutation where
  /-- It came into being. -/
  | created (operator : String)
  /-- It changed its description. -/
  | edited (operator : String)
  /-- It left jail. -/
  | unjailed (operator : String)
  deriving DecidableEq, Repr

namespace Mutation

/-- The operator it happened to. -/
def operator : Mutation → String
  | .created op | .edited op | .unjailed op => op

/-- The kinds of mutation. -/
inductive Kind where
  /-- A creation. -/
  | create
  /-- An edit. -/
  | edit
  /-- An unjailing. -/
  | unjail
  deriving DecidableEq, Repr

/-- What follows the last point of an action. -/
def lastSegment (action : String) : String :=
  String.ofList (action.toList.reverse.takeWhile (· ≠ '.')).reverse

/-- The kind of an action, in its short form or as a type name. -/
def Kind.ofAction? (action : String) : Option Kind :=
  match lastSegment action with
  | "create_validator" | "MsgCreateValidator" => some .create
  | "edit_validator" | "MsgEditValidator" => some .edit
  | "unjail" | "MsgUnjail" => some .unjail
  | _ => none

/-- `part` begins the text. -/
def startsWith (s part : String) : Bool := part.toList.isPrefixOf s.toList

/-- The operator of a sender, which may be an operator or an account. -/
def operatorOf? (sender hrp : String) : Option String :=
  if startsWith sender hrp then some sender else (Address.reencode sender hrp).toOption

/-- The operator that sent a message: the first sender that is one, or else the operator of the
first sender. -/
def sender? (message : Event) (hrp : String) : Option String :=
  ((message.values "sender").find? (startsWith · hrp)).or
    ((message.value? "sender").bind (operatorOf? · hrp))

/-- The mutation that the log of a message tells. -/
def ofLog? (hrp : String) (log : MessageLog) : Option Mutation := do
  let message ← log.event? "message"
  let kind ← (message.values "action").findSome? Kind.ofAction?
  let sender := sender? message hrp
  match kind with
  | .create =>
    let named := (log.event? "create_validator").bind (·.value? "validator")
    (named.or sender).map .created
  | .edit => sender.map .edited
  | .unjail => sender.map .unjailed

/-- The mutations with one more at the end, unless it is there already. -/
def insert (ms : List Mutation) (m : Mutation) : List Mutation :=
  if ms.contains m then ms else ms ++ [m]

/-- The mutations of a list of transactions, each once, in the order they first occur. -/
def ofTransactions (txs : List Transaction) (accountPrefix : String) : List Mutation :=
  let logs := (txs.filter (·.success)).flatMap (·.logs)
  (logs.filterMap (ofLog? (Address.operatorHrp accountPrefix))).foldl insert []

end Mutation

end Liveness
