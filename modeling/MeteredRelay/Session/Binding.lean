import MeteredRelay.Net.Address
import MeteredRelay.Purse
import MeteredRelay.Wire.PeerId

/-!
# Bindings

A binding is a peer in a session: the connection through which it is reached, what its join cookie
allowed it, and the purse that its messages are charged to.  A binding never changes.  A peer that
moves to another connection gets a new one, with a purse of its own.
-/

namespace MeteredRelay

/-- The number of a connection. -/
abbrev LinkNo := Nat

/-- The number of a session. -/
abbrev SessionNo := Nat

/-- A peer in a session. -/
structure Binding where
  peer : PeerId
  session : SessionNo
  /-- The connection through which the peer is reached. -/
  link : LinkNo
  /-- How many bindings a message of the peer may go to. -/
  size : Nat
  /-- Whether the peer may kick others and rotate the session. -/
  isAdmin : Bool
  /-- The purse that its messages are charged to, which no other binding has. -/
  purse : PurseNo
deriving DecidableEq, Inhabited

namespace Binding

/-- The same peer through another connection, with another purse. -/
def movedTo (b : Binding) (link : LinkNo) (isAdmin : Bool) (purse : PurseNo) : Binding :=
  { b with link, isAdmin, purse }

/-- The peer, the address it is reached at and its rights. -/
def inspect (b : Binding) (address : SocketAddress) : String :=
  s!"PeerSession \x7b peer_id: {b.peer.inspect}, addr: {address.text}, size: {b.size}, " ++
    s!"is_admin: {b.isAdmin} \x7d"

end Binding

end MeteredRelay
