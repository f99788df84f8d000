import Liveness.Base64
import Liveness.Bech32
import Liveness.Failure
import Liveness.Sha256
import Liveness.Text.Split
import Liveness.Words

/-!
# Addresses

A validator is known by two addresses. Its operator address is a Bech32 text under the account
prefix followed by `valoper`; the same words under the bare prefix name the account that owns it.
Its consensus address, which votes carry, is the upper-case hexadecimal form of the first 20 bytes
of the SHA-256 digest of its 32-byte key. Chains report the key either as a Bech32 text, with or
without a five-byte type prefix, or in Base64.
-/

namespace Liveness

/-- A consensus key as a chain reports it. -/
inductive ConsensusKey where
  /-- A Bech32 text. -/
  | bech32 (text : String)
  /-- The key bytes in Base64. -/
  | base64 (text : String)
  deriving DecidableEq, Repr

/-- The text of the key as it was reported. -/
def ConsensusKey.text : ConsensusKey → String
  | .bech32 text | .base64 text => text

namespace Address

/-- Why a key or an address was not accepted. -/
inductive Error where
  /-- The text is not valid Bech32. -/
  | bech32 (text : String) (cause : Bech32.Error)
  /-- The key is not valid Base64. -/
  | base64 (cause : Base64.Error)
  /-- The key does not have 32 bytes. -/
  | keyLength (length : Nat)
  deriving DecidableEq, Repr

/-- The length of a consensus key in bytes. -/
def keySize : Nat := 32

/-- The wording of an error. -/
def Error.message : Error → String
  | .bech32 text cause => s!"{text}: {cause.message}"
  | .base64 cause => s!"base64 consensus key: {cause.message}"
  | .keyLength length => s!"expected a {keySize}-byte ed25519 key, got {length} bytes"

/-- An address error as a failure. -/
def Error.toFailure (e : Error) : Failure := .invalidAddress e.message

/-- The type prefix that may stand before the key bytes in a Bech32 text. -/
def typePrefix : List UInt8 := [0x16, 0x24, 0xDE, 0x64, 0x20]

/-- The human-readable part and the bytes of a Bech32 text. -/
def decode (text : String) : Except Error (String × List UInt8) := do
  let decoded ← (Bech32.decode text).mapError (.bech32 text)
  let bytes ← (Bech32.toBytes decoded.words).mapError (.bech32 text)
  return (decoded.hrp, bytes)

/-- The bytes of a key, without the type prefix. -/
def keyBytes : ConsensusKey → Except Error (List UInt8)
  | .bech32 text => (decode text).map fun (_, bytes) =>
    if typePrefix.isPrefixOf bytes then bytes.drop typePrefix.length else bytes
  | .base64 text => (Base64.decode (Text.trim text).toUTF8.toList).mapError .base64

/-- The consensus address of a 32-byte key. -/
def ofKeyBytes (key : List UInt8) : String := Hex.encodeUpper ((Sha256.digest key).take 20)

/-- The consensus address of a key. -/
def consensus (key : ConsensusKey) : Except Error String := do
  let bytes ← keyBytes key
  if bytes.length ≠ keySize then throw (.keyLength bytes.length)
  return ofKeyBytes bytes

/-- The words of a Bech32 address under another human-readable part. -/
def reencode (address hrp : String) : Except Error String := do
  let decoded ← (Bech32.decode address).mapError (.bech32 address)
  (Bech32.encode hrp decoded.words).mapError (.bech32 address)

/-- The account that owns an operator. -/
def selfDelegation (operator accountPrefix : String) : Except Error String :=
  reencode operator accountPrefix

/-- The human-readable part of operator addresses. -/
def operatorHrp (accountPrefix : String) : String := accountPrefix ++ "valoper"

/-- The text is an operator address: 20 bytes under the operator part, in lower case. -/
def isOperator (address accountPrefix : String) : Bool :=
  let hrp := operatorHrp accountPrefix
  let wellFormed :=
    address.utf8ByteSize == hrp.utf8ByteSize + 1 + 38 &&
      (hrp.toList ++ ['1']).isPrefixOf address.toList &&
      address.toList.all fun c => c.isLower || c.isDigit
  wellFormed &&
    match decode address with
    | .ok (h, bytes) => h == hrp && bytes.length == 20
    | .error _ => false

end Address

end Liveness
