import MeteredRelay.Relay.Forward

/-!
# Receiving

Which connection a datagram belongs to, and how it becomes a message.

A server without a private key makes a connection for every new address.  A server that has one
waits for a handshake: a datagram that begins with the encapsulation of a key.  It answers with that
encapsulation, sealed under the key, and from then on the connection is pending.  The same datagram
again is answered again; any other completes the handshake.
-/

namespace MeteredRelay

namespace Relay

/-- What is to be done with a datagram. -/
inductive Arrival where
  /-- Nothing more. -/
  | consumed
  /-- The handshake came again and is to be answered again. -/
  | repeated (link : LinkNo) (ciphertext : Bytes)
  /-- The message in it is to be handled. -/
  | message (link : LinkNo)
deriving DecidableEq

/-- Adds a connection with its address. -/
def enroll (r : Relay) (l : Link) : Relay × LinkNo :=
  let (r, n) := r.addLink l
  ({ r with addresses := r.addresses.insert l.address n }, n)

/-- Completes the handshake of a connection. -/
def complete (r : Relay) (n : LinkNo) : Relay :=
  { r.changeLink n (·.complete) with
    pendingGauge := r.pendingGauge.decrement
    linkGauge := r.linkGauge.increment }

/-- Puts a handshake into the queue, if there is room. -/
def queueHandshake (r : Relay) (h : Handshake) : Relay :=
  if r.handshakes.length < handshakeLimit then { r with handshakes := r.handshakes ++ [h] }
  else { r with stalls := r.stalls.increment }

/-- Finds the connection of a datagram. -/
def arrive (env : Environment) (now : Moment) (r : Relay) (sender : SocketAddress) (input : Bytes) :
    Relay × Arrival :=
  match r.addresses.get? sender with
  | some n =>
    match (r.link n).pending with
    | none => (r, .message n)
    | some ciphertext =>
      if ciphertext = input then (r.penalize n, .repeated n ciphertext)
      else (r.complete n, .message n)
  | none =>
    if !env.settings.encrypted then
      let (r, n) := r.enroll (.plain sender now.instant)
      ({ r with linkGauge := r.linkGauge.increment }, .message n)
    else if input.length < MlKem.ciphertextSize then (r, .consumed)
    else (r.queueHandshake ⟨sender, input, now.instant⟩, .consumed)

/-- Puts the message of a datagram on the desk.  The result is the size of the message, or nothing
if there is none. -/
def openInput (env : Environment) (r : Relay) (n : LinkNo) (input : Bytes) : Relay × Option Nat :=
  match (r.link n).key with
  | none =>
    match r.desk.packet.load input with
    | .ok packet => (r.setPacket packet, some input.length)
    | .error _ => (r, none)
  | some k =>
    if input.length < sealOverhead then (r, none)
    else
      let (packet, outcome) := r.desk.packet.loadSealed env.cipher k input
      let r := r.setPacket packet
      match outcome with
      | .ok _ => (r, some (input.length - sealOverhead))
      | .error _ =>
        ({ r with decryptFailures := r.decryptFailures.increment }.penalize n, none)

/-- Counts a datagram and writes it into the buffer for what comes in. -/
def take (r : Relay) (datagram : Bytes) : Relay :=
  { r with
    bytesRead := r.bytesRead.add (UInt64.ofNat datagram.length)
    messagesRead := r.messagesRead.increment
    desk := { r.desk with raw := PacketBuffer.overwrite r.desk.raw 0 datagram } }

/-- Handles a datagram from an address. -/
def receive (env : Environment) (now : Moment) (r : Relay) (sender : SocketAddress)
    (datagram : Bytes) : Relay :=
  let r := r.take datagram
  let input := r.desk.raw.take datagram.length
  match r.arrive env now sender input with
  | (r, .consumed) => r
  | (r, .repeated n ciphertext) =>
    ((r.changeLink n (·.noteRead now.instant)).deliver env n .echo ciphertext).1
  | (r, .message n) =>
    match r.openInput env n input with
    | (r, none) => r
    | (r, some size) => (r.changeLink n (·.noteRead now.instant)).handle env now n size

/-- Answers a handshake of a connection that is still pending, if it is the one that began it. -/
def answer (env : Environment) (r : Relay) (n : LinkNo) (data : Bytes) : Relay :=
  match (r.link n).pending with
  | none => r
  | some ciphertext => if ciphertext = data then (r.deliver env n .echo ciphertext).1 else r

/-- Begins a connection with the handshake that waits longest, or answers it again. -/
def greet (env : Environment) (r : Relay) : Relay :=
  match r.handshakes with
  | [] => r
  | h :: rest =>
    let r := { r with handshakes := rest }
    match r.addresses.get? h.address with
    | some n => r.answer env n h.data
    | none =>
      let ciphertext := h.data.take MlKem.ciphertextSize
      match env.decapsulate ciphertext with
      | .error _ => r
      | .ok key =>
        let (r, n) := r.enroll (.opening h.address key ciphertext h.received)
        { r with pendingGauge := r.pendingGauge.increment }.answer env n h.data

end Relay

end MeteredRelay
