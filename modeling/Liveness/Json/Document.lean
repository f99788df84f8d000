import Liveness.Json.Token

/-!
# Documents

A document is a tree read off the tokens by a machine that keeps a stack of open arrays and objects.
It is not yet a value: numbers and strings may be missing, names may occur twice in an object, and
nothing limits its depth. What a reader passes over may have all these faults.
-/

namespace Liveness.Json

/-- A document. -/
inductive Document where
  /-- The word `null`. -/
  | null
  /-- A truth value. -/
  | bool (b : Bool)
  /-- A number, unless it is out of range. -/
  | number (n : Option Number)
  /-- A text, unless it holds half of a surrogate pair. -/
  | text (s : Option String)
  /-- An array. -/
  | array (items : List Document)
  /-- An object with its members in order. -/
  | object (members : List (Option String × Document))

namespace Document

/-- An array or object that is still open; what it holds is kept newest first. -/
inductive Frame where
  /-- An array. -/
  | array (items : List Document)
  /-- An object, and the name of the member whose value is awaited. -/
  | object (members : List (Option String × Document)) (name : Option String)

/-- What may come next. -/
inductive State where
  /-- A value. -/
  | value (stack : List Frame)
  /-- The first item of an array, or its end. -/
  | firstItem (stack : List Frame)
  /-- The first member of an object, or its end. -/
  | firstMember (stack : List Frame)
  /-- The name of a further member. -/
  | member (members : List (Option String × Document)) (stack : List Frame)
  /-- The colon after a name. -/
  | colon (members : List (Option String × Document)) (name : Option String) (stack : List Frame)
  /-- A comma or the end of the innermost array or object. -/
  | next (top : Frame) (below : List Frame) (item : Document)
  /-- Nothing. -/
  | done (d : Document)

/-- The state after a whole value. -/
def State.supply (d : Document) : List Frame → State
  | [] => .done d
  | top :: below => .next top below d

/-- The value that a token is by itself. -/
def scalar? : Token → Option Document
  | .null => some .null
  | .bool b => some (.bool b)
  | .number n => some (.number n)
  | .text s => some (.text s)
  | _ => none

/-- The state after a token where a value is awaited. -/
def State.begin (stack : List Frame) (t : Token) : Option State :=
  match t with
  | .openArray => some (.firstItem stack)
  | .openObject => some (.firstMember stack)
  | t => (scalar? t).map fun d => supply d stack

/-- The state after one more token. -/
def State.step (t : Token) : State → Option State
  | .value stack => begin stack t
  | .firstItem stack =>
    match t with
    | .closeArray => some (supply (.array []) stack)
    | t => begin (.array [] :: stack) t
  | .firstMember stack =>
    match t with
    | .closeObject => some (supply (.object []) stack)
    | .text name => some (.colon [] name stack)
    | _ => none
  | .member members stack =>
    match t with
    | .text name => some (.colon members name stack)
    | _ => none
  | .colon members name stack =>
    match t with
    | .colon => some (.value (.object members name :: stack))
    | _ => none
  | .next (.array items) below d =>
    match t with
    | .comma => some (.value (.array (d :: items) :: below))
    | .closeArray => some (supply (.array (d :: items).reverse) below)
    | _ => none
  | .next (.object members name) below d =>
    match t with
    | .comma => some (.member ((name, d) :: members) below)
    | .closeObject => some (supply (.object ((name, d) :: members).reverse) below)
    | _ => none
  | .done _ => none

/-- The document that the tokens spell. -/
def ofTokens? (tokens : List Token) : Option Document :=
  match tokens.foldlM (fun state t => state.step t) (State.value []) with
  | some (.done d) => some d
  | _ => none

/-- The document of a text. -/
def parse? (text : String) : Option Document := do ofTokens? (← lex text)

end Document

end Liveness.Json
