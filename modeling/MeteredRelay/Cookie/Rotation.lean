import MeteredRelay.Wire.Fault
import MeteredRelay.Wire.PeerId

/-!
# Rotation cookies

A rotation cookie moves a session to a new id: it names the secrets of the present id and the
owner's new secret.  It is good for a while from the second it was made in, and once.

In the open it is one hundred and sixteen bytes, its fields in the order of the structure's,
numbers most significant byte first.
-/

namespace MeteredRelay

/-- What a rotation cookie says. -/
structure RotationCookie where
  /-- A secret common to the cookies of the session. -/
  serverSecret : Octets 32
  /-- The owner's secret behind the present id. -/
  oldOwnerSecret : Octets 32
  /-- The owner's secret behind the new id. -/
  newOwnerSecret : Octets 32
  /-- The size behind both ids. -/
  size : UInt32
  /-- The second, in Unix time, it was made in. -/
  timestamp : Int64
  /-- The payment behind it. -/
  paymentTag : UInt64
deriving DecidableEq, Inhabited

namespace RotationCookie

/-- The bytes of an open rotation cookie. -/
def byteSize : Nat := 116

/-- The label under which rotation cookies are sealed. -/
def label : Bytes := Bytes.ofAscii "rtdt rotate cookie v1"

/-- The fields one after the other. -/
def encode (c : RotationCookie) : Bytes :=
  c.serverSecret.1 ++ (c.oldOwnerSecret.1 ++ (c.newOwnerSecret.1 ++ (Bytes.ofUInt32 c.size ++
    (Bytes.ofInt64 c.timestamp ++ Bytes.ofUInt64 c.paymentTag))))

/-- The cookie that a byte string of the right length is. -/
def decode (b : Bytes) : Except CookieFault RotationCookie :=
  if b.length = byteSize then
    .ok
      { serverSecret := Octets.ofPrefixed 32 b
        oldOwnerSecret := Octets.ofPrefixed 32 (b.drop 32)
        newOwnerSecret := Octets.ofPrefixed 32 (b.drop 64)
        size := Bytes.toUInt32 (b.drop 96)
        timestamp := Bytes.toInt64 (b.drop 100)
        paymentTag := Bytes.toUInt64 (b.drop 108) }
  else .error (.invalidLength byteSize b.length)

@[simp] theorem length_encode (c : RotationCookie) : c.encode.length = byteSize := by
  have h1 := c.serverSecret.2
  have h2 := c.oldOwnerSecret.2
  have h3 := c.newOwnerSecret.2
  simp [encode, h1, h2, h3, byteSize]

end RotationCookie

end MeteredRelay
