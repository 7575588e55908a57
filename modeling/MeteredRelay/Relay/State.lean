import MeteredRelay.Link
import MeteredRelay.Relay.Environment
import MeteredRelay.Roster
import MeteredRelay.Traffic.Histogram
import MeteredRelay.Traffic.Report
import MeteredRelay.Wire.PacketBuffer

/-!
# The state of the relay

The roster, the connections by number and by address, the handshakes that wait, the figures, and
what was handed out to be sent.  Messages are read, changed and sent on a desk of buffers that are
used again and again.
-/

namespace MeteredRelay

/-- Handshakes that may wait. -/
def handshakeLimit : Nat := 5

/-- The bytes that a datagram may have at most. -/
def maxDatagramSize : Nat := 65507

/-- The buffers that messages are handled in.  What one message leaves in them does not matter to
the next. -/
structure Desk where
  /-- The datagram as it came, with what earlier ones left behind it. -/
  raw : Bytes
  /-- The message that is handled. -/
  packet : PacketBuffer
  /-- The last sealed datagram. -/
  scratch : Bytes
  /-- Where the message has still to go. -/
  destinations : List Destination

namespace Desk

/-- A desk of zeros. -/
def empty : Desk := ⟨List.replicate maxMessageSize 0, .empty, [], []⟩

instance : Inhabited Desk := ⟨empty⟩

end Desk

/-- Who composed a message. -/
inductive Origin where
  /-- The server, which shows a client that it has the private key. -/
  | echo
  /-- The server: a reply, a report or a listing. -/
  | server
  /-- A client, whose message is passed on. -/
  | relayed (sender : LinkNo)
deriving DecidableEq

/-- A message that was handed out to be sent. -/
structure Parcel where
  link : LinkNo
  origin : Origin
  /-- The message before it is sealed. -/
  message : Bytes
  /-- The datagram, or why there is none. -/
  outcome : Except RelayFault Bytes

/-- A first datagram from an unknown address. -/
structure Handshake where
  address : SocketAddress
  data : Bytes
  received : Instant
deriving DecidableEq

/-- The state of the relay. -/
structure Relay where
  roster : Roster
  /-- Every connection there ever was. -/
  links : Store Link
  /-- The connections by their addresses. -/
  addresses : Table SocketAddress LinkNo
  /-- Handshakes that wait, longest first. -/
  handshakes : List Handshake
  /-- The session that is about to be listed. -/
  nextListing : Option SessionNo
  bytesRead : Counter
  messagesRead : Counter
  bytesWritten : Counter
  messagesWritten : Counter
  /-- The bytes that were not relayed for want of allowance. -/
  unpaidBytes : Counter
  /-- The established connections. -/
  linkGauge : Gauge
  /-- The connections that did not complete their handshake. -/
  pendingGauge : Gauge
  /-- Handshakes that were dropped because too many waited. -/
  stalls : Counter
  /-- Datagrams that did not open. -/
  decryptFailures : Counter
  /-- Messages whose numbers were refused. -/
  skipped : Counter
  /-- How long messages took to be relayed. -/
  delays : Histogram
  /-- The nonces drawn so far. -/
  noncesDrawn : Nat
  /-- The payments drawn so far. -/
  tagsDrawn : Nat
  desk : Desk
  /-- What was handed out to be sent, in order. -/
  outbox : List Parcel

namespace Relay

/-- A relay that has seen nothing yet. -/
def start : Relay where
  roster := .empty
  links := .empty
  addresses := .empty
  handshakes := []
  nextListing := none
  bytesRead := .zero
  messagesRead := .zero
  bytesWritten := .zero
  messagesWritten := .zero
  unpaidBytes := .zero
  linkGauge := .zero
  pendingGauge := .zero
  stalls := .zero
  decryptFailures := .zero
  skipped := .zero
  delays := .empty
  noncesDrawn := 0
  tagsDrawn := 0
  desk := .empty
  outbox := []

instance : Inhabited Relay := ⟨start⟩

/-- The connection of a number. -/
def link (r : Relay) (n : LinkNo) : Link := (r.links.get? n).getD default

/-- The relay with one connection changed. -/
def changeLink (r : Relay) (n : LinkNo) (f : Link → Link) : Relay :=
  { r with links := r.links.modify n f }

/-- The relay with one more connection, and its number. -/
def addLink (r : Relay) (l : Link) : Relay × LinkNo :=
  ({ r with links := r.links.add l }, r.links.size)

/-- One more misdeed of a connection. -/
def penalize (r : Relay) (n : LinkNo) : Relay := r.changeLink n (·.penalize 1)

/-- The relay with another message on the desk. -/
def setPacket (r : Relay) (p : PacketBuffer) : Relay := { r with desk := { r.desk with packet := p } }

/-- What came in and went out so far. -/
def totals (r : Relay) : TrafficTotals where
  bytesRead := r.bytesRead.value
  messagesRead := r.messagesRead.value
  bytesWritten := r.bytesWritten.value
  messagesWritten := r.messagesWritten.value

/-- Where the relay listens and how many sessions it has. -/
def inspect (r : Relay) (listen : List String) : String :=
  let addresses := ", ".intercalate listen
  s!"Server \x7b listeners: [{addresses}], sessions: {r.roster.table.size} \x7d"

end Relay

end MeteredRelay
