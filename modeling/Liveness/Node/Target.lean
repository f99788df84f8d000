import Liveness.Url.Reader

/-!
# Targets of requests

Where a request goes. Requests are sent to hosts of the web only; what an address says about a user
goes into the head of the request and is not part of the target.
-/

namespace Liveness

/-- Why a request cannot be sent. -/
inductive Unsendable where
  /-- The text is no address. -/
  | noAddress
  /-- No request can be sent to an address of this kind. -/
  | unsuited (url : Url)
  deriving DecidableEq, Repr

/-- The wording of a request that cannot be sent. -/
def Unsendable.message : Unsendable → String
  | .noAddress => "builder error"
  | .unsuited url => s!"builder error for url ({url.text})"

namespace Target

/-- The text behind `%` forms, if there is one. -/
def decoded? (s : String) : Option String :=
  (Text.Utf8.decode (Text.Percent.decode s.toList)).toOption

/-- The address without its user; a user that cannot be told stays. -/
def withoutUser (url : Url) : Url :=
  match decoded? url.user with
  | none => url
  | some name =>
    if name = "" && (url.password.bind decoded?).isNone then url
    else { url with user := "", password := none }

/-- The length in bytes up to which an address can be put into a request. -/
def maxLength : Nat := 65534

/-- The character cannot stand in the name of a host to which a request is sent. -/
def isUnsendable (c : Char) : Bool := "\"\x60\x7b\x7d".toList.contains c

/-- A request can be sent to the address. -/
def isSuited (url : Url) : Bool :=
  match url.host with
  | none => false
  | some host =>
    (url.scheme = "http" || url.scheme = "https") && !host.text.toList.any isUnsendable &&
      url.text.utf8ByteSize ≤ maxLength

/-- The target of a request to an address. -/
def ofAddress (address : String) : Except Unsendable Url :=
  match Url.ofText? address with
  | none => .error .noAddress
  | some url =>
    let url := withoutUser url
    if isSuited url then .ok url else .error (.unsuited url)

end Target

end Liveness
