import Liveness.Json.Value

/-!
# Reading documents of a known shape

A record is an object, in which unknown members are passed over and a known name may occur once, or
an array of its fields in order, which may be too short but not too long. Fields that are missing
take their default; a field that has none is required.
-/

namespace Liveness.Json

/-- A reader of documents. -/
abbrev Reader (α : Type) := Document → Option α

namespace Reader

/-- A text. -/
def text : Reader String
  | .text s => s
  | _ => none

/-- A truth value. -/
def bool : Reader Bool
  | .bool b => some b
  | _ => none

/-- A natural number below `bound`. -/
def natural (bound : Nat) : Reader Nat
  | .number (some (.natural n)) => if n < bound then some n else none
  | _ => none

/-- Any number. -/
def float : Reader Float
  | .number (some n) => some n.toFloat
  | _ => none

/-- `null`, or what the reader reads. -/
def nullable {α : Type} (read : Reader α) : Reader (Option α)
  | .null => some none
  | d => (read d).map some

/-- An array of what the reader reads. -/
def list {α : Type} (read : Reader α) : Reader (List α)
  | .array items => items.mapM read
  | _ => none

/-- An object of any names; the last member of a name stands. -/
def dictionary {α : Type} (read : Reader α) : Reader (List (String × α))
  | .object members =>
    members.foldlM (fun acc (name, d) => do
      let name ← name
      let value ← read d
      return acc.filter (·.1 != name) ++ [(name, value)]) []
  | _ => none

end Reader

/-- The fields of a record, each present or missing. -/
abbrev Fields := List (String × Document)

/-- The fields of an object: every name is a text, and no known name occurs twice. -/
def Fields.ofMembers (names : List String) (members : List (Option String × Document)) :
    Option Fields := do
  let fields ← members.mapM fun (name, d) => name.map (·, d)
  let known := fields.filter (names.contains ·.1)
  if known.map (·.1) = (known.map (·.1)).eraseDups then some known else none

/-- The fields of a record. -/
def fields (names : List String) : Reader Fields
  | .object members => Fields.ofMembers names members
  | .array items => if items.length ≤ names.length then some (names.zip items) else none
  | _ => none

/-- A field that has a default. -/
def Fields.optional {α : Type} (fs : Fields) (name : String) (default : α) (read : Reader α) :
    Option α :=
  match fs.lookup name with
  | none => some default
  | some d => read d

/-- A field that has none. -/
def Fields.required {α : Type} (fs : Fields) (name : String) (read : Reader α) : Option α :=
  (fs.lookup name).bind read

end Liveness.Json
