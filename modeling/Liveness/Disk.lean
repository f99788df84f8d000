import Liveness.Store.Opening

/-!
# Disks

Directories and files by their places, and the two ways in which paths lead to places. Reading
follows a path name by name, so that every name on the way must be there. Opening a database first
takes `.` and `..` out of the path, so that a name that `..` takes back may be missing.
-/

namespace Liveness

/-- What is at a place. -/
inductive Entry where
  /-- A directory, in which files may be created or not. -/
  | directory (isWritable : Bool)
  /-- A file that holds a text. -/
  | text (content : String)
  /-- A file that holds a database, with a log of changes or not. -/
  | database (table : Table) (hasLog : Bool)
  /-- A device that takes everything and gives nothing. -/
  | sink
  deriving DecidableEq, Repr

/-- Directories and files. -/
structure Disk where
  /-- What is at each place, which is the list of the names that lead to it. -/
  entries : List (List String × Entry)
  /-- Where paths begin that do not begin with a slash. -/
  workingDirectory : List String

namespace Disk

/-- What is at a place. -/
def find? (d : Disk) (place : List String) : Option Entry := d.entries.lookup place

/-- The disk with something put at a place. -/
def put (d : Disk) (place : List String) (e : Entry) : Disk :=
  { d with entries := (place, e) :: d.entries.filter (·.1 != place) }

/-- Names may lead on from the place. -/
def isDirectory (d : Disk) (place : List String) : Bool :=
  match d.find? place with
  | some (.directory _) => true
  | _ => false

/-- The names of a path. -/
def names (path : String) : List String :=
  (Text.parts (· == '/') path.toList).map String.ofList

/-- Where a path begins. -/
def start (d : Disk) (path : String) : List String :=
  if path.toList.head? = some '/' then [] else d.workingDirectory

/-- The disk with nothing but a directory where all paths begin. -/
def empty : Disk := ⟨[([], .directory true)], []⟩

/-- The disk with a directory at a place, unless something is there. -/
def ensure (d : Disk) (place : List String) : Disk :=
  if (d.find? place).isSome then d else d.put place (.directory true)

/-- The disk with a text at a path, and with directories on the way there. -/
def withText (d : Disk) (path content : String) : Disk :=
  let (d, place) := (names path).foldl (fun (d, place) name =>
    if name = "" || name = "." then (d, place)
    else if name = ".." then (d, place.dropLast)
    else (d.ensure place, place ++ [name])) (d, d.start path)
  d.put place (.text content)

/-- The length in bytes up to which a name can be used. -/
def maxName : Nat := 255

/-! ## Reading -/

/-- Why a file cannot be read. -/
inductive ReadError where
  /-- There is nothing at the path. -/
  | notFound
  /-- The path leads through a file. -/
  | notDirectory
  /-- The path leads to a directory. -/
  | isDirectory
  /-- The path or a name in it is too long. -/
  | nameTooLong
  /-- The file does not hold a text. -/
  | notText
  deriving DecidableEq, Repr

/-- The wording of an error. -/
def ReadError.message : ReadError → String
  | .notFound => "No such file or directory (os error 2)"
  | .notDirectory => "Not a directory (os error 20)"
  | .isDirectory => "Is a directory (os error 21)"
  | .nameTooLong => "File name too long (os error 36)"
  | .notText => "stream did not contain valid UTF-8"

/-- The length in bytes from which on a path cannot be read. -/
def maxReadPath : Nat := 4096

/-- The place to which names lead from a place. -/
def follow (d : Disk) (place : List String) : List String → Except ReadError (List String)
  | [] => .ok place
  | name :: rest =>
    match d.find? place with
    | none => .error .notFound
    | some (.directory _) =>
      if name = "" || name = "." then d.follow place rest
      else if name = ".." then d.follow place.dropLast rest
      else if maxName < name.utf8ByteSize then .error .nameTooLong
      else d.follow (place ++ [name]) rest
    | some _ => .error .notDirectory

/-- What is at a path. -/
def locate (d : Disk) (path : String) : Except ReadError Entry := do
  if path = "" then throw .notFound
  if maxReadPath ≤ path.utf8ByteSize then throw .nameTooLong
  match d.find? (← d.follow (d.start path) (names path)) with
  | none => throw .notFound
  | some e => return e

/-- The text of the file at a path. -/
def read (d : Disk) (path : String) : Except ReadError String := do
  match ← d.locate path with
  | .directory _ => throw .isDirectory
  | .text content => return content
  | .database .. => throw .notText
  | .sink => return ""

/-! ## Databases -/

/-- The length in bytes from which on the path of a database is too long. -/
def maxDatabasePath : Nat := 512

/-- The length in bytes up to which a database can have files beside it named after it. -/
def maxDatabaseName : Nat := 247

/-- The place one name further on; nothing if the way there leads through a file. -/
def step? (d : Disk) (place : List String) (name : String) : Option (List String) :=
  if name = "" || name = "." then some place
  else if name = ".." then some place.dropLast
  else
    let next := place ++ [name]
    let length := next.foldl (fun n s => n + s.utf8ByteSize + 1) 0
    let isBlocked := (d.find? place).isSome && !d.isDirectory place
    if isBlocked || maxName < name.utf8ByteSize || maxDatabasePath ≤ length then none else some next

/-- The place of a database. -/
def databasePlace? (d : Disk) (path : String) : Option (List String) :=
  ((names path).foldlM d.step? (d.start path)).filter (!·.isEmpty)

/-- An open database. -/
structure Opened where
  /-- What it holds. -/
  table : Table
  /-- Where it is kept, and whether with a log. -/
  place : Option (List String × Bool)
  /-- It is only read. -/
  isReadOnly : Bool

/-- A database that is new at a place. -/
def openNew (o : Opening) (place : List String) : Except Refusal Opened :=
  if o.isImmutable || o.access = .readOnly then .error .readOnly
  else if maxDatabaseName < (place.getLast?.getD "").utf8ByteSize then .error .cannotOpen
  else .ok ⟨.empty, some (place, o.fileSystem = .shared), false⟩

/-- A database from what is at its place. A log is kept up with and begun only where programs can
share it, and one that nobody is to change is not looked at. -/
def openEntry (o : Opening) (place : List String) : Entry → Except Refusal Opened
  | .directory _ => .error (if o.access = .readOnly then .unreadable else .cannotOpen)
  | .sink => .error (if o.access = .readOnly || o.isImmutable then .readOnly else .unresizable)
  | .text content => if content = "" then openNew o place else .error .notADatabase
  | .database table hasLog =>
    let isReadOnly := o.access = .readOnly || o.isImmutable
    let opened : Opened := ⟨table, some (place, hasLog || o.fileSystem = .shared), isReadOnly⟩
    if hasLog then
      if o.isImmutable then .error .readOnly
      else if o.fileSystem = .simple then .error .cannotOpen
      else .ok opened
    else if o.fileSystem = .shared && o.access = .readOnly && !o.isImmutable then .error .readOnly
    else .ok opened

/-- Opens a database; a file is created also where the database in it is then refused. -/
def openDatabase (d : Disk) (o : Opening) : Except Refusal Opened × Disk :=
  if o.isFileless then
    (if o.isWritable then .ok ⟨.empty, none, false⟩ else .error .readOnly, d)
  else
    match d.databasePlace? o.path with
    | none => (.error .cannotOpen, d)
    | some place =>
      let isMissing (path : String) := (d.locate path).toOption.isNone
      if o.modelFile.any isMissing then (.error .noModel, d)
      else
        match d.find? place with
        | some e => (openEntry o place e, d)
        | none =>
          if o.access = .create && d.find? place.dropLast = some (.directory true) then
            (openNew o place, d.put place (.text ""))
          else (.error .cannotOpen, d)

/-- The disk after an open database has come to hold a table. -/
def keep (d : Disk) (opened : Opened) (table : Table) : Disk :=
  match opened.place with
  | none => d
  | some (place, hasLog) => if opened.isReadOnly then d else d.put place (.database table hasLog)

/-- Opens the database at a location. -/
def openLocation (d : Disk) (text : String) : Except Failure Opened × Disk :=
  match Location.ofText text with
  | .error e => (.error e.failure, d)
  | .ok l =>
    match Opening.ofLocation l with
    | .error e => (.error e.failure, d)
    | .ok o =>
      let (r, d) := d.openDatabase o
      (r.mapError Refusal.failure, d)

end Disk

end Liveness
