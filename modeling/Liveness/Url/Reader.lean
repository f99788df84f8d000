import Liveness.Url.Basic

/-!
# Reading addresses of documents

An address is read leniently: blanks around it and line breaks in it do not count, characters that
cannot stand where they are written are written with `%`, backslashes count as slashes where the
host is a machine of a network, and `.` and `..` are taken out of paths, in which a drive is never
left. Only a missing scheme, a host that is none and a port that is none are errors.
-/

namespace Liveness.Url

/-! ## Characters -/

/-- The character is written with `%` in a query. -/
def isQueryEscape (networked : Bool) (c : Char) : Bool :=
  Host.isControl c || " \"#<>".toList.contains c || (networked && c == '\'')

/-- The character is written with `%` in a fragment. -/
def isFragmentEscape (c : Char) : Bool := Host.isControl c || " \"<>\x60".toList.contains c

/-- The character is written with `%` in a name of a path. -/
def isPathEscape (c : Char) : Bool := isFragmentEscape c || "#?\x7b\x7d".toList.contains c

/-- The character is written with `%` in the name or password of a user. -/
def isUserEscape (c : Char) : Bool := isPathEscape c || "/:;=@[\\]^|".toList.contains c

/-- A text in which the chosen characters are written with `%`. -/
def escaped (chosen : Char → Bool) (cs : List Char) : String :=
  String.ofList (Text.Percent.encode chosen cs)

/-- The text without blanks and controls at its ends, and without line breaks and tabulators. -/
def cleaned (cs : List Char) : List Char :=
  let isEdge : Char → Bool := fun c => c.toNat ≤ 0x20
  (((cs.dropWhile isEdge).reverse.dropWhile isEdge).reverse).filter fun c =>
    c != '\t' && c != '\n' && c != '\r'

/-! ## Parts -/

/-- The scheme and what follows its colon. -/
def scheme? (cs : List Char) : Option (String × List Char) :=
  match Text.cutAt ':' cs with
  | (c :: rest, some after) =>
    if c.isAlpha && rest.all (fun c => c.isAlphanum || "+-.".toList.contains c) then
      some (String.ofList ((c :: rest).map Char.toLower), after)
    else none
  | _ => none

/-- A slash begins or ends a name in a path; a backslash does so too at machines of a network. -/
def isSlash (networked : Bool) (c : Char) : Bool := c == '/' || (networked && c == '\\')

/-- A name with the full stops read that are written with `%`. -/
def plainDots : List Char → List Char
  | '%' :: '2' :: 'e' :: rest | '%' :: '2' :: 'E' :: rest => '.' :: plainDots rest
  | c :: rest => c :: plainDots rest
  | [] => []

/-- The text names a drive: it is a letter with a colon, or with a bar in place of it. -/
def isDrive : List Char → Bool
  | [c, d] => c.isAlpha && (d == ':' || d == '|')
  | _ => false

/-- The names, the last one first, to which `..` leads from `before`; a drive is not left. -/
def parent : List String → List String
  | [] => []
  | name :: before => if isDrive name.toList then name :: before else before

/-- A name of a drive with a colon. -/
def withColon (name : List Char) : List Char := name.take 1 ++ [':']

/-- The names that are left once `.` and `..` are followed; `before` are those so far, the last one
first. Either of the two at the end leaves an empty name. A drive at the beginning of a path that
leads to a file is written with a colon. -/
def walk (isFile : Bool) (before : List String) : List (List Char) → List String
  | [] => before.reverse
  | name :: rest =>
    match plainDots name with
    | ['.'] => if rest.isEmpty then ("" :: before).reverse else walk isFile before rest
    | ['.', '.'] =>
      if rest.isEmpty then ("" :: parent before).reverse else walk isFile (parent before) rest
    | _ =>
      let name := if isFile && before.isEmpty && isDrive name then withColon name else name
      walk isFile (escaped isPathEscape name :: before) rest

/-- The names of a path, the slash before the first of which is left out. -/
def names (networked : Bool) (cs : List Char) : List String :=
  walk false [] (Text.parts (isSlash networked) cs)

/-- The names of the path behind a host; at machines of a network there is at least one. -/
def namesAfterHost (networked : Bool) : List Char → List String
  | [] => if networked then [""] else []
  | c :: rest => names networked (if isSlash networked c then rest else c :: rest)

/-- The port behind a colon, without the usual one of the scheme; without digits there is none. -/
def port? (scheme : String) (cs : List Char) : Option (Option Nat) :=
  if cs.all Char.isDigit then
    let n := cs.foldl (fun n d => 10 * n + (d.toNat - '0'.toNat)) 0
    if n < 65536 then some (if cs.isEmpty || some n == usualPort? scheme then none else some n)
    else none
  else none

/-- What stands before the colon of the port, outside brackets, and what stands behind it. -/
def cutAtPort (inside : Bool) : List Char → List Char × Option (List Char)
  | [] => ([], none)
  | c :: rest =>
    if c == ':' && !inside then ([], some rest)
    else
      let inside := c == '[' || (inside && c != ']')
      let (host, port) := cutAtPort inside rest
      (c :: host, port)

/-- What stands before and from the first backslash on. -/
def cutAtBackslash (cs : List Char) : List Char × List Char :=
  (cs.takeWhile (· != '\\'), cs.dropWhile (· != '\\'))

/-- What stands before and after the last `@`. -/
def cutAtUser (cs : List Char) : Option (List Char) × List Char :=
  let host := (cs.reverse.takeWhile (· != '@')).reverse
  if cs.contains '@' then (some (cs.take (cs.length - host.length - 1)), host) else (none, host)

/-- The name and the password of a user; an empty password is none. -/
def credentials (cs : List Char) : String × Option String :=
  let (name, password) := Text.cutAt ':' cs
  (escaped isUserEscape name, (password.filter (!·.isEmpty)).map (escaped isUserEscape))

/-- The query and the fragment, and what stands before them. -/
def cutAtQuery (networked : Bool) (cs : List Char) :
    List Char × Option String × Option String :=
  let (cs, fragment) := Text.cutAt '#' cs
  let (cs, query) := Text.cutAt '?' cs
  (cs, query.map (escaped (isQueryEscape networked)), fragment.map (escaped isFragmentEscape))

/-! ## Kinds of addresses -/

/-- An address with a host, from what follows the slashes before it. A backslash always ends the
port. Without the name of a host, nothing may be said about a user or a port; an `@` alone says
nothing, but cannot stand where the place begins. -/
def withHost? (scheme : String) (cs : List Char) : Option Url := do
  let networked := isNetworked scheme
  let (cs, query, fragment) := cutAtQuery networked cs
  let place := cs.dropWhile (!isSlash networked ·)
  let (userPart, hostPart) := cutAtUser (cs.takeWhile (!isSlash networked ·))
  let (user, password) := credentials (userPart.getD [])
  let (hostPart, rest) := cutAtPort false hostPart
  let (portPart, afterPort) := cutAtBackslash (rest.getD [])
  let isPlaced := !place.isEmpty || query.isSome || fragment.isSome
  let hasUser := user != "" || password.isSome || (userPart == some [] && isPlaced)
  let host ← if networked then Host.ofNetwork? hostPart else Host.ofOther? hostPart
  let port ← port? scheme portPart
  if hostPart.isEmpty && (rest.isSome || hasUser) then none
  else
    return { scheme, user, password, host, port
             path := .names (namesAfterHost networked (afterPort ++ place)), query, fragment }

/-- The names of a path without empty ones at the beginning. -/
def dropEmptyNames : List String → List String
  | "" :: next :: rest => dropEmptyNames (next :: rest)
  | list => list

/-- The machine `localhost` is the one that reads the address. -/
def isHere (h : Host) : Bool := h = .name "" || h = .name "localhost"

/-- The host and the path of an address of a file, from what follows the two slashes before them. A
drive may stand in the place of the host. Without a host, the slash before the path counts as one of
an empty name. -/
def fileHost? (cs : List Char) : Option (Host × List Char) :=
  let hostPart := cs.takeWhile (!isSlash true ·)
  let place := cs.drop hostPart.length
  if isDrive hostPart then some (.name "", cs)
  else do
    let host ← if hostPart.isEmpty then some (.name "") else Host.ofNetwork? hostPart
    return if isHere host then (.name "", place) else (host, place.drop 1)

/-- An address of a file. Its path begins with no empty names, and where it begins with a drive, the
host does not count. -/
def ofFile? (cs : List Char) : Option Url := do
  let (cs, query, fragment) := cutAtQuery true cs
  let (host, place) ←
    match (cs.takeWhile (isSlash true)).length with
    | 0 => some (.name "", cs)
    | 1 => some (.name "", cs.drop 1)
    | _ => fileHost? (cs.drop 2)
  let names := walk true [] (Text.parts (isSlash true) place)
  let host := if names.head?.any (isDrive ·.toList) then .name "" else host
  return { scheme := "file", user := "", password := none, host, port := none
           path := .names (dropEmptyNames names), query, fragment }

/-- An address without a host. -/
def withoutHost (scheme : String) (cs : List Char) : Url :=
  let (cs, query, fragment) := cutAtQuery false cs
  let path :=
    match cs with
    | '/' :: rest => .names (names false rest)
    | _ => .plain (escaped Host.isControl cs)
  { scheme, user := "", password := none, host := none, port := none, path, query, fragment }

/-- The address that a text stands for. -/
def ofText? (text : String) : Option Url := do
  let (scheme, rest) ← scheme? (cleaned text.toList)
  if isNetworked scheme then withHost? scheme (rest.dropWhile (isSlash true))
  else if scheme = "file" then ofFile? rest
  else
    match Text.afterStart? ['/', '/'] rest with
    | some rest => withHost? scheme rest
    | none => return withoutHost scheme rest

end Liveness.Url
