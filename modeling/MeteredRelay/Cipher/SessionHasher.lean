import MeteredRelay.Cipher.Blake3
import MeteredRelay.Wire.SessionId

/-!
# Session ids from secrets

A session's id is the keyed hash of the server's secret, the owner's secret and the size.  The
key is drawn when the server starts, so an id cannot be computed from a cookie alone.
-/

namespace MeteredRelay

/-- The key of a server's session ids. -/
structure SessionHasher where
  key : Octets 32
deriving DecidableEq, Inhabited

namespace SessionHasher

/-- The id of the session with these secrets and this size. -/
def sessionId (h : SessionHasher) (owner server : Octets 32) (size : UInt32) : SessionId :=
  ⟨Blake3.keyed h.key (server.1 ++ (owner.1 ++ Bytes.ofUInt32 size))⟩

/-- The key is never shown inside larger records. -/
def inspect (_ : SessionHasher) : String := "SessionHasher(<redacted>)"

end SessionHasher

end MeteredRelay
