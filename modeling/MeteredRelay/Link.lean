import MeteredRelay.Cipher.Key
import MeteredRelay.Net.Address
import MeteredRelay.Time.Timestamp
import MeteredRelay.Window

/-!
# Connections

A link is one remote address that the server talks to.  It is pending from the moment the server
answered its handshake until the client sends anything but the handshake again, and established
from then on.  It numbers what it sends, watches what it receives with a window, remembers when
something was read and when it was last pinged, and counts its misdeeds.
-/

namespace MeteredRelay

/-- One remote address that the server talks to. -/
structure Link where
  address : SocketAddress
  /-- The key of its datagrams, if they are sealed. -/
  key : Option Key
  /-- What the client sent to begin the handshake, as long as the link is pending. -/
  pending : Option Bytes
  lastRead : Timestamp
  lastPing : Timestamp
  window : PackedWindow
  /-- The number of the last message sent. -/
  sent : UInt32
  banScore : UInt64
deriving DecidableEq

namespace Link

/-- A link made at `now`. -/
def start (address : SocketAddress) (key : Option Key) (pending : Option Bytes) (now : Instant) :
    Link where
  address := address
  key := key
  pending := pending
  lastRead := .at_ now now
  lastPing := .unset now
  window := .start
  sent := 0
  banScore := 0

/-- An established link whose datagrams are not sealed. -/
def plain (address : SocketAddress) (now : Instant) : Link := start address none none now

/-- A link whose client has still to show that it has the key. -/
def opening (address : SocketAddress) (key : Key) (ciphertext : Bytes) (now : Instant) : Link :=
  start address (some key) (some ciphertext) now

instance : Inhabited Link := ⟨plain default 0⟩

/-- Whether the handshake is not completed. -/
def isPending (l : Link) : Bool := l.pending.isSome

/-- The link with the handshake completed. -/
def complete (l : Link) : Link := { l with pending := none }

/-- The number of the next message sent. -/
def nextSequence (l : Link) : UInt32 := l.sent + 1

/-- The link after it took a number for a message. -/
def advance (l : Link) : Link := { l with sent := l.nextSequence }

/-- The link with `n` more misdeeds. -/
def penalize (l : Link) (n : UInt64) : Link := { l with banScore := l.banScore + n }

/-- The link after something was read from it. -/
def noteRead (l : Link) (now : Instant) : Link := { l with lastRead := l.lastRead.store now }

/-- The link after a ping. -/
def notePing (l : Link) (now : Instant) : Link := { l with lastPing := l.lastPing.store now }

/-- How long the link was silent. -/
def silence (l : Link) (now : Instant) : Span := now.since (l.lastRead.load.getD now)

/-- The address, how the link stands and how many peers are bound through it. -/
def inspect (l : Link) (peers : Nat) : String :=
  s!"Conn \x7b addr: {l.address.text}, encrypted: {l.key.isSome}, pending: {l.isPending}, " ++
    s!"ban_score: {l.banScore.toNat}, sessions: {peers} \x7d"

end Link

end MeteredRelay
