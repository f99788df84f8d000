/-!
# Transactions

A transaction reduced to its success and to the events that its messages emitted.
-/

namespace Liveness

/-- A name with a value. -/
structure Attribute where
  /-- The name. -/
  key : String
  /-- The value. -/
  value : String
  deriving DecidableEq, Repr

/-- An event of a message. -/
structure Event where
  /-- The type. -/
  kind : String
  /-- The attributes in order. -/
  attributes : List Attribute
  deriving DecidableEq, Repr

/-- The first value of an attribute. -/
def Event.value? (e : Event) (key : String) : Option String :=
  (e.attributes.find? (·.key == key)).map (·.value)

/-- Every value of an attribute. -/
def Event.values (e : Event) (key : String) : List String :=
  (e.attributes.filter (·.key == key)).map (·.value)

/-- The events of one message. -/
structure MessageLog where
  /-- The index of the message. -/
  index : Nat
  /-- The events in order. -/
  events : List Event
  deriving DecidableEq, Repr

/-- The first event of a type. -/
def MessageLog.event? (l : MessageLog) (kind : String) : Option Event :=
  l.events.find? (·.kind == kind)

/-- A transaction. -/
structure Transaction where
  /-- The hash. -/
  hash : String
  /-- It was executed without an error. -/
  success : Bool
  /-- The logs of its messages. -/
  logs : List MessageLog
  deriving DecidableEq, Repr

end Liveness
