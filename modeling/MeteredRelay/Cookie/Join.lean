import MeteredRelay.Wire.Fault
import MeteredRelay.Wire.PeerId

/-!
# Join cookies

A join cookie admits one peer to one session.  An issuer outside the server makes it; the server
opens it and believes what it says: the secrets from which the session's id is derived, how many
peers a message may go to, the peer it was made for, when it ends, the payment behind it and the
bytes that the payment allows, and whether the peer is an admin.

In the open it is ninety-seven bytes, its fields in the order of the structure's, numbers most
significant byte first; the last byte is zero for a peer that is no admin.
-/

namespace MeteredRelay

/-- What a join cookie says. -/
structure JoinCookie where
  /-- A secret common to the cookies of a session. -/
  serverSecret : Octets 32
  /-- A secret chosen by the session's owner. -/
  ownerSecret : Octets 32
  /-- How many peers a message may go to. -/
  size : UInt32
  /-- The peer it was made for. -/
  peer : PeerId
  /-- The last second, in Unix time, in which it is good. -/
  endTime : Int64
  /-- The payment behind it. -/
  paymentTag : UInt64
  /-- The bytes that the payment allows the peer to send. -/
  allowance : UInt64
  /-- Whether the peer may kick others and rotate the session. -/
  isAdmin : Bool
deriving DecidableEq, Inhabited

namespace JoinCookie

/-- The bytes of an open join cookie. -/
def byteSize : Nat := 97

/-- The label under which join cookies are sealed. -/
def label : Bytes := Bytes.ofAscii "rtdt join cookie v1"

/-- The fields one after the other. -/
def encode (c : JoinCookie) : Bytes :=
  c.serverSecret.1 ++ (c.ownerSecret.1 ++ (Bytes.ofUInt32 c.size ++ (Bytes.ofUInt32 c.peer.value ++
    (Bytes.ofInt64 c.endTime ++ (Bytes.ofUInt64 c.paymentTag ++ (Bytes.ofUInt64 c.allowance ++
      [if c.isAdmin then 1 else 0]))))))

/-- The cookie that a byte string of the right length is. -/
def decode (b : Bytes) : Except CookieFault JoinCookie :=
  if b.length = byteSize then
    .ok
      { serverSecret := Octets.ofPrefixed 32 b
        ownerSecret := Octets.ofPrefixed 32 (b.drop 32)
        size := Bytes.toUInt32 (b.drop 64)
        peer := ⟨Bytes.toUInt32 (b.drop 68)⟩
        endTime := Bytes.toInt64 (b.drop 72)
        paymentTag := Bytes.toUInt64 (b.drop 80)
        allowance := Bytes.toUInt64 (b.drop 88)
        isAdmin := b.getD 96 0 != 0 }
  else .error (.invalidLength byteSize b.length)

@[simp] theorem length_encode (c : JoinCookie) : c.encode.length = byteSize := by
  have h1 := c.serverSecret.2
  have h2 := c.ownerSecret.2
  simp [encode, h1, h2, byteSize]

end JoinCookie

end MeteredRelay
