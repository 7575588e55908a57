import MeteredRelay.Relay.State

/-!
# Delivery

How messages leave the relay.  `Relay.deliver` hands one out to a connection, sealed if the
connection has a key.  `Relay.reply` and `Relay.sendCommand` make the message on the desk one from
the server and deliver it under the next number of the connection.

A number is taken even where the message then cannot be sent.
-/

namespace MeteredRelay

namespace Relay

/-- The system's words for a datagram that is too large. -/
def tooLargeForSystem : RelayFault := .system "Message too long (os error 90)"

/-- The datagram that the system would send, or its refusal. -/
def datagramOf (wire : Bytes) : Except RelayFault Bytes :=
  if wire.length ≤ maxDatagramSize then .ok wire else .error tooLargeForSystem

/-- A message for a connection as a datagram: sealed if the connection has a key, and else as it
is. -/
def seal? (env : Environment) (r : Relay) (receiver : LinkNo) (message : Bytes) :
    Relay × Except RelayFault Bytes :=
  match (r.link receiver).key with
  | none => (r, datagramOf message)
  | some k =>
    if maxMessageSize - sealOverhead < message.length then
      (r, .error (.messageTooLarge message.length))
    else
      let wire := env.cipher.sealed k (env.nonce r.noncesDrawn) [] message
      ({ r with
          noncesDrawn := r.noncesDrawn + 1
          desk := { r.desk with scratch := wire } },
        datagramOf wire)

/-- Counts a datagram that was sent. -/
def countWritten (r : Relay) (size : Nat) : Relay :=
  { r with
    bytesWritten := r.bytesWritten.add (UInt64.ofNat size)
    messagesWritten := r.messagesWritten.increment }

/-- Hands a message out to a connection.  The result is the size of the datagram. -/
def deliver (env : Environment) (r : Relay) (receiver : LinkNo) (origin : Origin) (message : Bytes) :
    Relay × Except RelayFault Nat :=
  let (r, outcome) := r.seal? env receiver message
  let r := { r with outbox := r.outbox ++ [⟨receiver, origin, message, outcome⟩] }
  match outcome with
  | .ok wire => (r.countWritten wire.length, .ok wire.length)
  | .error e => (r, .error e)

/-- Hands out the message on the desk, changed by `stamp`, under the next number of a connection. -/
def deliverNumbered (env : Environment) (r : Relay) (receiver : LinkNo) (origin : Origin)
    (stamp : UInt32 → PacketBuffer → PacketBuffer) : Relay × Except RelayFault Nat :=
  let packet := stamp (r.link receiver).nextSequence r.desk.packet
  ((r.changeLink receiver (·.advance)).setPacket packet).deliver env receiver origin packet.bytes

/-- Sends the message on the desk to a peer as one from the server. -/
def reply (env : Environment) (r : Relay) (receiver : LinkNo) (target : PeerId) :
    Relay × Except RelayFault Unit :=
  let (r, outcome) := r.deliverNumbered env receiver .server fun n p => p.setReplyHeader target n
  (r, outcome.map fun _ => ())

/-- Sends a command to a peer. -/
def sendCommand (env : Environment) (r : Relay) (receiver : LinkNo) (target : PeerId) (c : Command) :
    Relay × Except RelayFault Unit :=
  match r.desk.packet.setCommand c.tag c.payload with
  | .error e => (r, .error (.frame e))
  | .ok packet => (r.setPacket packet).reply env receiver target

end Relay

end MeteredRelay
