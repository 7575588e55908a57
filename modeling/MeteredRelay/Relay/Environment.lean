import MeteredRelay.Cipher.SessionHasher
import MeteredRelay.Cipher.XChaCha20Poly1305
import MeteredRelay.Relay.Settings

/-!
# What the relay is given

Beside its settings the relay is given the algorithms that it relies on and its random draws.  The
rules of the relay hold for any algorithms; `Environment.standard` has the ones that are used.
Draws come in two supplies, numbered from zero: nonces for sealed datagrams, and payments for peers
that are admitted without a cookie.
-/

namespace MeteredRelay

/-- What the relay is given. -/
structure Environment where
  settings : Settings
  /-- The cipher of datagrams and cookies. -/
  cipher : Aead
  /-- The id of the session with an owner's secret, a server's secret and a size. -/
  sessionId : (owner server : Octets 32) → UInt32 → SessionId
  /-- The key that a handshake stands for. -/
  decapsulate : Bytes → Except CipherFault Key
  /-- The nonce of each sealed datagram. -/
  nonce : Nat → Nonce
  /-- The payment of each peer that is admitted without a cookie. -/
  tag : Nat → UInt64

namespace Environment

/-- The algorithms that are used, a secret key for session ids and some draws. -/
def standard (settings : Settings) (hasher : SessionHasher) (nonce : Nat → Nonce)
    (tag : Nat → UInt64) : Environment where
  settings := settings
  cipher := xchacha20Poly1305
  sessionId := hasher.sessionId
  decapsulate := fun ciphertext =>
    match settings.privateKey with
    | some k => k.decapsulate ciphertext
    | none => .error (.invalidCiphertext ciphertext.length)
  nonce := nonce
  tag := tag

end Environment

end MeteredRelay
