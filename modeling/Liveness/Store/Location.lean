import Liveness.Failure
import Liveness.Text.Percent
import Liveness.Text.Shown

/-!
# Locations of databases

A database is given by the path of its file or by an address `sqlite:path?parameter=value&…`. A
plain path stands for a database that is created where it is missing, which is said by one parameter
behind it; a question mark in the path begins the parameters earlier.
-/

namespace Liveness

/-- How a database may be used. -/
inductive Access where
  /-- It is read. -/
  | readOnly
  /-- It is read and written. -/
  | readWrite
  /-- It is read and written, and created if there is none. -/
  | create
  deriving DecidableEq, Repr

/-- Where a database is and how it is opened. -/
structure Location where
  /-- The name of the database. -/
  name : String
  /-- It is only read. -/
  isReadOnly : Bool
  /-- It is created if there is none. -/
  isCreated : Bool
  /-- It is lost at the end. -/
  isVolatile : Bool
  /-- Nobody else changes it, so that no locks are taken. -/
  isImmutable : Bool
  /-- The name of the part of the engine that reads and writes files. -/
  fileSystem : Option String
  deriving DecidableEq, Repr

namespace Location

/-- Why a text is no location. -/
inductive Error where
  /-- The bytes of the name are no text. -/
  | badName (e : Text.Utf8.Error)
  /-- The parameter cannot have this value. -/
  | badValue (parameter value : String)
  /-- There is no such parameter. -/
  | unknown (parameter : String)
  deriving DecidableEq, Repr

/-- The wording of an error. -/
def Error.message : Error → String
  | .badName e => e.message
  | .badValue parameter value =>
    let shown := Text.Quoted.encode value
    s!"unknown value {shown} for \x60{parameter}\x60"
  | .unknown parameter =>
    s!"unknown query parameter \x60{parameter}\x60 while parsing connection URL"

/-- The failure of a store whose location is none. -/
def Error.failure (e : Error) : Failure := .storage s!"error with configuration: {e.message}"

/-- The name of a database that has no file. -/
def volatileName : String := ":memory:"

/-- What the addresses of databases begin with. -/
def scheme : String := "sqlite:"

/-- The location of a name. -/
def ofName (name : String) : Location := ⟨name, false, false, false, false, none⟩

/-- The location of a database that has no file unless a part of the engine gives it one. -/
def volatile : Location := { ofName "file:volatile" with isVolatile := true }

/-- The truth value of a text. -/
def truth? : String → Option Bool
  | "true" | "1" => some true
  | "false" | "0" => some false
  | _ => none

/-- The location with one more parameter. -/
def set (l : Location) : String × String → Except Error Location
  | ("mode", "ro") => .ok { l with isReadOnly := true }
  | ("mode", "rw") => .ok l
  | ("mode", "rwc") => .ok { l with isCreated := true }
  | ("mode", "memory") => .ok { l with isVolatile := true }
  | ("cache", "private") | ("cache", "shared") => .ok l
  | ("vfs", value) => .ok { l with fileSystem := some value }
  | (parameter, value) =>
    if parameter = "mode" || parameter = "cache" then .error (.badValue parameter value)
    else if parameter = "immutable" then
      match truth? value with
      | some b => .ok { l with isImmutable := b }
      | none => .error (.badValue parameter value)
    else .error (.unknown parameter)

/-- The location of an address without its beginning. -/
def ofAddress (cs : List Char) : Except Error Location := do
  let (name, parameters) := Text.cutAt '?' cs
  let l ←
    if name = volatileName.toList then .ok volatile
    else ((Text.Utf8.decode (Text.Percent.decode name)).mapError .badName).map ofName
  (Text.Percent.formPairs (parameters.getD [])).foldlM set l

/-- The location of a text. The beginning of an address may stand there more than once, and with two
slashes before without them. -/
def ofText (text : String) : Except Error Location :=
  let isAddress := scheme.toList.isPrefixOf text.toList
  let address :=
    if isAddress then text.toList else scheme.toList ++ text.toList ++ "?mode=rwc".toList
  let withSlashes := scheme.toList ++ ['/', '/']
  ofAddress (Text.dropStarts scheme.toList (Text.dropStarts withSlashes address))

/-- How the database may be used. -/
def access (l : Location) : Access :=
  if l.isReadOnly then .readOnly else if l.isCreated then .create else .readWrite

end Location

end Liveness
