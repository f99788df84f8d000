import Liveness.Json.Document

/-!
# Values

The values that payloads and requests are made of: documents without faults, at most 127 levels
deep, in which of two members of one name the last one stands.
-/

namespace Liveness

/-- A value. -/
inductive Json where
  /-- Nothing. -/
  | null
  /-- A truth value. -/
  | bool (b : Bool)
  /-- A number. -/
  | number (n : Json.Number)
  /-- A text. -/
  | text (s : String)
  /-- An array. -/
  | array (items : List Json)
  /-- An object; no two members have one name. -/
  | object (members : List (String × Json))
  deriving Inhabited

namespace Json

/-! ## From documents and back -/

/-- The members after one more, which takes the place of an earlier one of its name. -/
def setMember (members : List (String × Json)) (name : String) (value : Json) :
    List (String × Json) :=
  if members.any (·.1 == name) then
    members.map fun m => if m.1 == name then (name, value) else m
  else members ++ [(name, value)]

mutual

/-- The value of a document that is at most `room` levels deep. -/
def ofDocument? (room : Nat) : Document → Option Json
  | .null => some .null
  | .bool b => some (.bool b)
  | .number n => n.map .number
  | .text s => s.map .text
  | .array items =>
    match room with
    | 0 => none
    | room + 1 => (itemsOf? room items).map .array
  | .object members =>
    match room with
    | 0 => none
    | room + 1 => (membersOf? room members).map fun ms =>
      .object (ms.foldl (fun acc m => setMember acc m.1 m.2) [])

/-- The values of the items of an array. -/
def itemsOf? (room : Nat) : List Document → Option (List Json)
  | [] => some []
  | d :: rest => do
    let v ← ofDocument? room d
    let vs ← itemsOf? room rest
    return v :: vs

/-- The members of an object with their values. -/
def membersOf? (room : Nat) : List (Option String × Document) → Option (List (String × Json))
  | [] => some []
  | (name, d) :: rest => do
    let name ← name
    let v ← ofDocument? room d
    let vs ← membersOf? room rest
    return (name, v) :: vs

end

/-- The deepest nesting of arrays and objects. -/
def maxDepth : Nat := 127

/-- The value of a text. -/
def parse? (text : String) : Option Json := do ofDocument? maxDepth (← Document.parse? text)

mutual

/-- The value as a document. -/
def toDocument : Json → Document
  | .null => .null
  | .bool b => .bool b
  | .number n => .number (some n)
  | .text s => .text (some s)
  | .array items => .array (itemsToDocuments items)
  | .object members => .object (membersToDocuments members)

/-- The items as documents. -/
def itemsToDocuments : List Json → List Document
  | [] => []
  | v :: rest => toDocument v :: itemsToDocuments rest

/-- The members as documents. -/
def membersToDocuments : List (String × Json) → List (Option String × Document)
  | [] => []
  | (name, v) :: rest => (some name, toDocument v) :: membersToDocuments rest

end

/-! ## Parts -/

/-- The value is `null`. -/
def isNull : Json → Bool
  | .null => true
  | _ => false

/-- The member of this name. -/
def get? (v : Json) (name : String) : Option Json :=
  match v with
  | .object members => members.lookup name
  | _ => none

/-- The value at the end of a path of member names. -/
def at? (v : Json) : List String → Option Json
  | [] => some v
  | name :: rest => (v.get? name).bind (·.at? rest)

/-- The text. -/
def text? : Json → Option String
  | .text s => some s
  | _ => none

/-- The items. -/
def items? : Json → Option (List Json)
  | .array items => some items
  | _ => none

/-- The truth value. -/
def bool? : Json → Option Bool
  | .bool b => some b
  | _ => none

/-- A natural number. -/
def ofNat (n : Nat) : Json := .number (.natural n)

/-- A floating-point number. -/
def ofFloat (x : Float) : Json := .number (.float x)

end Json

end Liveness
