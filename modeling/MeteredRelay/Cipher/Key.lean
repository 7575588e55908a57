import MeteredRelay.Bytes.Hex
import MeteredRelay.Cipher.Fault
import MeteredRelay.Text.Blank

/-!
# Symmetric keys

A key is thirty-two bytes.  The same kind of key seals the datagrams of a connection and the
cookies of the server; it is written as hexadecimal text in configurations.
-/

namespace MeteredRelay

/-- A key of thirty-two bytes. -/
structure Key where
  octets : Octets 32
deriving DecidableEq, Inhabited

/-- A number used once with a key. -/
abbrev Nonce := Octets 24

/-- An authentication tag. -/
abbrev Tag := Octets 16

namespace Key

/-- The bytes of a key. -/
def size : Nat := 32

/-- The bytes of this key. -/
def bytes (k : Key) : Bytes := k.octets.1

/-- The key that these bytes are, if they are thirty-two. -/
def ofBytes (b : Bytes) : Except CipherFault Key :=
  match Octets.ofBytes? 32 b with
  | some o => .ok ⟨o⟩
  | none => .error (.invalidKeyLength size b.length)

/-- The key that a hexadecimal text writes; white space around it is ignored. -/
def ofHex (s : String) : Except CipherFault Key :=
  match Bytes.ofHexDigits? (Text.trim s.toList) with
  | some b => ofBytes b
  | none => .error .invalidKeyMaterial

/-- The key in hexadecimal digits. -/
def toHex (k : Key) : String := k.bytes.toHex

/-- A key is never shown inside larger records. -/
def inspect (_ : Key) : String := "AeadKey(<redacted>)"

@[simp] theorem length_bytes (k : Key) : k.bytes.length = 32 := k.octets.2

end Key

end MeteredRelay
