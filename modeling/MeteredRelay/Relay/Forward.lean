import MeteredRelay.Relay.Obey

/-!
# Passing messages on

What the relay does with a message that opened.  A message whose number is refused is forgotten,
one for the server is obeyed, and any other goes to the session of the peer that sent it: it is
charged once and then sent to every binding of the session that another connection holds, up to
the number of bindings that the sender may send to.
-/

namespace MeteredRelay

namespace Relay

/-- Sends the message on the desk to one destination, unless that is held by the sender itself. -/
def forwardTo (env : Environment) (sender : LinkNo) (r : Relay) (d : Destination) : Relay :=
  if d.link = sender then r
  else (r.deliverNumbered env d.link (.relayed sender) fun n p =>
    (p.setTarget d.peer).setSequence n).1

/-- Sends the message on the desk to every destination that is left. -/
def fanOut (env : Environment) (r : Relay) (sender : LinkNo) : Relay :=
  let done := r.desk.destinations.foldl (forwardTo env sender) r
  { done with desk := { done.desk with destinations := [] } }

/-- Writes down where a message of a binding goes.  A session with more bindings than the sender may
send to is cut, and that counts against the sender. -/
def address (r : Relay) (sender : LinkNo) (n : SessionNo) (size : Nat) : Relay :=
  let all := (r.roster.session n).destinations
  let r := { r with desk := { r.desk with destinations := all.take size } }
  if size < all.length then r.penalize sender else r

/-- Counts a message of `size` bytes that was not paid for. -/
def refuseUnpaid (r : Relay) (sender : LinkNo) (size : Nat) : Relay :=
  { r with unpaidBytes := r.unpaidBytes.add (UInt64.ofNat size) }.penalize sender

/-- The amount that a message of `size` bytes costs. -/
def price (size : Nat) : Int64 := Int64.ofNat size

/-- Charges a binding for a message.  The result tells whether its accounts allowed it. -/
def charge (r : Relay) (b : Binding) (amount : Int64) : Relay × Bool :=
  let (roster, paid) := r.roster.charge b.purse amount
  (r.setRoster roster, paid)

/-- Passes the message on the desk on for a binding of its sender. -/
def forward (env : Environment) (r : Relay) (sender : LinkNo) (b : Binding) (size : Nat) : Relay :=
  let (r, paid) := r.charge b (price size)
  if paid then
    let r := (r.address sender b.session b.size).fanOut env sender
    { r with delays := r.delays.observe 0 }
  else r.refuseUnpaid sender size

/-- Handles the message on the desk, which came in `size` bytes. -/
def handle (env : Environment) (now : Moment) (r : Relay) (sender : LinkNo) (size : Nat) : Relay :=
  let packet := r.desk.packet
  if !packet.hasHeader then r.penalize sender
  else
    match (r.link sender).window.accept? packet.sequence with
    | none => { r with skipped := r.skipped.increment }
    | some window =>
      let r := r.changeLink sender fun l => { l with window }
      if packet.source ≠ packet.target then
        match r.obey env now sender with
        | (r, .ok ()) => r
        | (r, .error _) => r.penalize sender
      else
        match r.roster.binding? sender packet.source with
        | none => r.penalize sender
        | some b => r.forward env sender b size

end Relay

end MeteredRelay
