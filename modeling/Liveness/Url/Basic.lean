import Liveness.Url.Host

/-!
# Addresses of documents

The parts of an address: scheme, user, host, port, path, query and fragment, and how they are put
together. Parts that may hold any character hold it in the form in which it is written, with `%` and
digits where needed.
-/

namespace Liveness

namespace Url

/-- What follows the host. -/
inductive Path where
  /-- Names, with a slash before each. -/
  | names (list : List String)
  /-- Some text that no slash begins. -/
  | plain (text : String)
  deriving DecidableEq, Repr

/-- The path as it is written. -/
def Path.text : Path → String
  | names list => String.join (list.map ("/" ++ ·))
  | plain text => text

end Url

/-- The address of a document. -/
structure Url where
  /-- How the document is had, in lower case. -/
  scheme : String
  /-- The name of the user; empty for none. -/
  user : String
  /-- The password of the user. -/
  password : Option String
  /-- The host. -/
  host : Option Url.Host
  /-- The port, if it is not the usual one of the scheme. -/
  port : Option Nat
  /-- The place at the host. -/
  path : Url.Path
  /-- What is asked of that place. -/
  query : Option String
  /-- The part of the document that is meant. -/
  fragment : Option String
  deriving DecidableEq, Repr

namespace Url

/-- The scheme is one of those whose hosts are machines of a network. -/
def isNetworked (scheme : String) : Bool := ["http", "https", "ws", "wss", "ftp"].contains scheme

/-- The usual port of a scheme. -/
def usualPort? : String → Option Nat
  | "http" | "ws" => some 80
  | "https" | "wss" => some 443
  | "ftp" => some 21
  | _ => none

/-- What stands before the host about the user. -/
def userText (u : Url) : String :=
  let password := u.password.elim "" (":" ++ ·)
  if u.user = "" && password = "" then "" else u.user ++ password ++ "@"

/-- What stands between the scheme and the path. Without a host, a path does not begin with two
slashes, which would announce one. -/
def hostText (u : Url) : String :=
  match u.host with
  | some h => "//" ++ u.userText ++ h.text ++ u.port.elim "" fun p => s!":{p}"
  | none => if "//".toList.isPrefixOf u.path.text.toList then "/." else ""

/-- The address as it is written. -/
def text (u : Url) : String :=
  u.scheme ++ ":" ++ u.hostText ++ u.path.text ++ u.query.elim "" ("?" ++ ·) ++
    u.fragment.elim "" ("#" ++ ·)

end Url

end Liveness
