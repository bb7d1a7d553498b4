/-
BreakCheck/Fingerprint.lean

Short names for configurations.

A fingerprint is the digest of the canonical bytes in lower-case hexadecimal, 64
digits long.  A text that claims to be one is compared as text, so any other
spelling of the digest matches nothing.

Nothing here depends on how the digest is computed, so it is a parameter; SHA-256 is
put in its place at the end.
-/
import BreakCheck.CanonicalForm
import BreakCheck.Digest.Sha256

namespace BreakCheck

/-- The text that stands for a configuration. -/
structure Fingerprint where
  text : String
  deriving DecidableEq

namespace Fingerprint

/-- Two hexadecimal digits. -/
def byteDigits (byte : UInt8) : List Char :=
  [Nat.digitChar (byte.toNat / 16), Nat.digitChar (byte.toNat % 16)]

/-- The digits of a digest. -/
def ofDigest (digest : Vector UInt8 32) : Fingerprint :=
  ⟨String.ofList (digest.toList.flatMap byteDigits)⟩

section

variable (digest : List UInt8 → Vector UInt8 32)

/-- The fingerprint of bytes, under any digest. -/
def ofBytesUnder (bytes : ByteArray) : Fingerprint := ofDigest (digest bytes.data.toList)

/-- The fingerprint of a configuration, under any digest. -/
def ofConfigUnder (config : Config) : Except Json.WriteError Fingerprint :=
  (canonicalForm (some config)).map (ofBytesUnder digest)

/-- Whether a configuration has this fingerprint, under any digest. -/
def isOfUnder (fingerprint : Fingerprint) (config : Config) : Except Json.WriteError Bool := do
  let own ← ofConfigUnder digest config
  return own == fingerprint

end

/-- The fingerprint of bytes. -/
def ofBytes (bytes : ByteArray) : Fingerprint := ofBytesUnder Sha256.digest bytes

/-- The fingerprint of a configuration. -/
def ofConfig (config : Config) : Except Json.WriteError Fingerprint :=
  ofConfigUnder Sha256.digest config

/-- Whether a configuration has this fingerprint. -/
def isOf (fingerprint : Fingerprint) (config : Config) : Except Json.WriteError Bool :=
  fingerprint.isOfUnder Sha256.digest config

end Fingerprint

end BreakCheck
