import Liveness.Store.Location
import Liveness.Store.Table
import Liveness.Text.Case

/-!
# Opening databases

What the engine is to open for a location. The engine is told how files are read and written by the
parameters of an address that begins with `file:`, and any name that begins so is read as one.
-/

namespace Liveness

/-- The parts of the engine that read and write files. -/
inductive FileSystem where
  /-- Several programs may use one file and its log at once. -/
  | shared
  /-- There is no memory that programs share, and so no log. -/
  | simple
  /-- There are no files. -/
  | memory
  deriving DecidableEq, Repr

/-- The part of the engine with this name. -/
def FileSystem.ofName? : String → Option FileSystem
  | "unix" | "unix-excl" => some .shared
  | "unix-none" | "unix-dotfile" => some .simple
  | "memdb" => some .memory
  | _ => none

/-- Why a database is not opened, or an operation on it is not carried out. -/
inductive Refusal where
  /-- The name has a NUL character. -/
  | nulInName
  /-- There is no part of the engine with this name. -/
  | noFileSystem (name : String)
  /-- An address names another machine. -/
  | authority (name : String)
  /-- A parameter of an address does not have this value. -/
  | noMode (parameter value : String)
  /-- A parameter of an address asks for more than is allowed. -/
  | modeNotAllowed (parameter value : String)
  /-- The database is only read. -/
  | readOnly
  /-- There is no file at the path, or none that can be opened. -/
  | cannotOpen
  /-- The file holds something else. -/
  | notADatabase
  /-- What is at the path cannot be read. -/
  | unreadable
  /-- What is at the path cannot be brought to a length. -/
  | unresizable
  /-- There is no file whose permissions a file could be given. -/
  | noModel
  deriving DecidableEq, Repr

namespace Refusal

/-- The failure of an operation that was refused. -/
def failure : Refusal → Failure
  | nulInName => .storage ("error communicating with database: " ++
      "filename passed to SQLite must not contain nul bytes")
  | noFileSystem name => Table.refused 1 s!"no such vfs: {name}"
  | authority name => Table.refused 1 s!"invalid uri authority: {name}"
  | noMode parameter value => Table.refused 1 s!"no such {parameter} mode: {value}"
  | modeNotAllowed parameter value => Table.refused 3 s!"{parameter} mode not allowed: {value}"
  | readOnly => Table.refused 8 "attempt to write a readonly database"
  | cannotOpen => Table.refused 14 "unable to open database file"
  | notADatabase => Table.refused 26 "file is not a database"
  | unreadable => Table.refused 266 "disk I/O error"
  | unresizable => Table.refused 1034 "disk I/O error"
  | noModel => Table.refused 1802 "disk I/O error"

end Refusal

/-- What the engine is to open. -/
structure Opening where
  /-- The path of the file. -/
  path : String
  /-- How the database may be used. -/
  access : Access
  /-- It is lost at the end. -/
  isVolatile : Bool
  /-- Nobody else changes it. -/
  isImmutable : Bool
  /-- How files are read and written. -/
  fileSystem : FileSystem
  /-- The path of a file whose permissions the file is given if it is created. -/
  modelFile : Option String
  deriving DecidableEq, Repr

namespace Opening

/-- How much an access allows. -/
def rank : Access → Nat
  | .readOnly => 1
  | .readWrite => 2
  | .create => 6

/-! ## Addresses of files -/

/-- A component of an address: what a `%00` begins does not count. -/
def component (cs : List Char) : String :=
  Text.beforeNul (Text.Utf8.decodeLenient (Text.Percent.decode cs))

/-- The number of some digits to a base. -/
def ofDigits (base : Nat) (cs : List Char) : Nat :=
  cs.foldl (fun n c => base * n + (Hex.value? c).getD 0) 0

/-- The number that a text begins with, which may be hexadecimal; a number that does not fit into 31
bits counts as zero. -/
def leadingNumber (cs : List Char) : Nat :=
  let n :=
    match cs with
    | '0' :: 'x' :: digits | '0' :: 'X' :: digits =>
      ofDigits 16 (digits.takeWhile fun c => (Hex.value? c).isSome)
    | digits => ofDigits 10 (digits.takeWhile Char.isDigit)
  if n < 0x80000000 then n else 0

/-- The parameter is set: it is a word for yes, or a number of which the last byte is not zero. -/
def isTrue (value : String) : Bool :=
  if value.toList.head?.any Char.isDigit then leadingNumber value.toList % 256 != 0
  else ["yes", "true", "on"].contains (Text.asciiLower value)

/-- The access that a value of `mode` asks for, unless it is `memory`. -/
def access? : String → Option Access
  | "ro" => some .readOnly
  | "rw" => some .readWrite
  | "rwc" => some .create
  | _ => none

/-- The opening with one more parameter, and the name of the part of the engine to use. -/
def set (x : Opening × Option String) (parameter : String × String) :
    Except Refusal (Opening × Option String) :=
  let (o, name) := x
  match parameter with
  | ("vfs", value) => .ok (o, some value)
  | ("cache", "shared") | ("cache", "private") => .ok x
  | ("cache", value) => .error (.noMode "cache" value)
  | ("mode", "memory") => .ok ({ o with isVolatile := true, access := .readWrite }, name)
  | ("mode", value) =>
    match access? value with
    | none => .error (.noMode "access" value)
    | some access =>
      if o.isVolatile || rank access ≤ rank o.access then
        .ok ({ o with access := access, isVolatile := false }, name)
      else .error (.modeNotAllowed "access" value)
  | _ => .ok x

/-- The parameters of an address, without those that have no name. -/
def parameters (cs : List Char) : List (String × String) :=
  ((Text.parts (· == '&') cs).map fun pair =>
    let (name, value) := Text.cutAt '=' pair
    (component name, component (value.getD []))).filter (·.1 != "")

/-- What an address stands for, from what follows `file:`. -/
def ofFileAddress (o : Opening) (cs : List Char) : Except Refusal Opening := do
  let (cs, _) := Text.cutAt '#' cs
  let cs ←
    match Text.afterStart? ['/', '/'] cs with
    | none => .ok cs
    | some rest =>
      let machine := String.ofList (rest.takeWhile (· != '/'))
      if machine = "" || machine = "localhost" then .ok (rest.dropWhile (· != '/'))
      else .error (.authority machine)
  let (path, query) := Text.cutAt '?' cs
  let ps := parameters (query.getD [])
  let (o, name) ← ps.foldlM set ({ o with path := component path }, none)
  let fileSystem ←
    match name with
    | none => .ok .shared
    | some name =>
      match FileSystem.ofName? name with
      | some fileSystem => .ok fileSystem
      | none => .error (.noFileSystem name)
  let isUnlocked := (ps.lookup "nolock").any isTrue
  return { o with
    isImmutable := (ps.lookup "immutable").any isTrue
    fileSystem := if isUnlocked && fileSystem = .shared then .simple else fileSystem
    modelFile := ps.lookup "modeof" }

/-! ## Locations -/

/-- What begins the address of a file. -/
def fileScheme : String := "file:"

/-- The name by which the engine is asked for the database at a location. In the address of a file,
the name of the location is hidden behind `%` forms, but not that of the part of the engine. -/
def nameOf (l : Location) : String :=
  let immutable := if l.isImmutable then ["immutable=true"] else []
  match immutable ++ (l.fileSystem.map ("vfs=" ++ ·)).toList with
  | [] => l.name
  | ps =>
    let name := Text.Percent.encode (!·.isAlphanum) l.name.toList
    fileScheme ++ String.ofList name ++ "?" ++ "&".intercalate ps

/-- What the engine is to open for a location. -/
def ofLocation (l : Location) : Except Refusal Opening :=
  let name := (nameOf l).toList
  let o : Opening := ⟨String.ofList name, l.access, l.isVolatile, false, .shared, none⟩
  if name.contains '\x00' then .error .nulInName
  else
    match Text.afterStart? fileScheme.toList name with
    | some rest => ofFileAddress o rest
    | none => .ok o

/-- The database has no name that a file could have. -/
def isNameless (o : Opening) : Bool :=
  o.isVolatile || o.path = "" || o.path = Location.volatileName

/-- The database has no file. -/
def isFileless (o : Opening) : Bool := o.isNameless || o.fileSystem = .memory

/-- A database without a file may be written. That nobody is to change a database counts only if it
has a name. -/
def isWritable (o : Opening) : Bool :=
  o.access ≠ .readOnly && (o.isNameless || !o.isImmutable)

end Opening

end Liveness
