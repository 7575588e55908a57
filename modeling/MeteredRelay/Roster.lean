import MeteredRelay.Relay.Fault
import MeteredRelay.Session
import MeteredRelay.Traffic.Figure

/-!
# The roster

Who is bound to what.  The roster keeps every session under a number and maps the present ids of
sessions to these numbers; it also maps each peer on each connection to its binding.  Two gauges
follow the sessions that have an id in the table and the bound peers.  Sessions whose members should
be told of a change wait in a short queue.

* `Roster.bind` binds a peer to a session, which is made if there is none.  A peer that was bound
  to the session through another connection is taken over, and a peer that the connection held in
  another session leaves that one.
* `Roster.leave`, `Roster.leaveAll` and `Roster.kick` undo bindings.
* `Roster.rename` gives a session a new id.

A session that loses its last peer leaves the table; any other loss is to be listed.
-/

namespace MeteredRelay

/-- Sessions that may wait to be listed. -/
def forcedListingLimit : Nat := 100

/-- What a cookie grants a peer. -/
structure Grant where
  session : SessionId
  /-- How many bindings a message of the peer may go to. -/
  size : UInt32
  isAdmin : Bool
  /-- The account that its messages are charged to. -/
  account : AccountNo
deriving DecidableEq, Inhabited

/-- A peer on a connection. -/
structure Seat where
  link : LinkNo
  peer : PeerId
deriving DecidableEq, Inhabited

/-- Who is bound to what. -/
structure Roster where
  /-- Every session there ever was. -/
  sessions : Store Session
  /-- The sessions by their present ids. -/
  table : Table SessionId SessionNo
  /-- The binding of the peer in each seat. -/
  joined : Table Seat Binding
  /-- What the messages of bindings are charged to. -/
  purses : Purses
  ledger : Ledger
  sessionGauge : Gauge
  peerGauge : Gauge
  /-- Sessions that wait to be listed, longest first. -/
  forced : List SessionNo
deriving Inhabited

namespace Roster

/-- Nobody is bound to anything. -/
def empty : Roster := ⟨.empty, .empty, .empty, .empty, .empty, .zero, .zero, []⟩

/-- The session of a number. -/
def session (r : Roster) (n : SessionNo) : Session := (r.sessions.get? n).getD default

/-- The roster with one session changed. -/
def changeSession (r : Roster) (n : SessionNo) (f : Session → Session) : Roster :=
  { r with sessions := r.sessions.modify n f }

/-- The session of a present id. -/
def lookup? (r : Roster) (id : SessionId) : Option SessionNo := r.table.get? id

/-- The binding of a peer on a connection. -/
def binding? (r : Roster) (link : LinkNo) (peer : PeerId) : Option Binding :=
  r.joined.get? ⟨link, peer⟩

/-- The peers that are bound through a connection. -/
def peersOf (r : Roster) (link : LinkNo) : List PeerId :=
  (r.joined.keys.filter (·.link == link)).map (·.peer)

/-- Asks for a listing; nothing happens if too many sessions wait. -/
def forceListing (r : Roster) (n : SessionNo) : Roster :=
  if r.forced.length < forcedListingLimit then { r with forced := r.forced ++ [n] } else r

/-! ## Sessions that come and go -/

/-- The roster with a new session for an id, and its number. -/
def create (r : Roster) (id : SessionId) : Roster × SessionNo :=
  ({ r with
      sessions := r.sessions.add (.start id)
      table := r.table.insert id r.sessions.size
      sessionGauge := r.sessionGauge.increment },
    r.sessions.size)

/-- The roster in which an id no longer stands for a session, if it did for that one. -/
def forget (r : Roster) (id : SessionId) (n : SessionNo) : Roster :=
  if r.table.get? id = some n then
    { r with table := r.table.erase id, sessionGauge := r.sessionGauge.decrement }
  else r

/-- The session that an id stands for, made if there is none.  A session that is closed was left by
its last peer: its entry goes, and the search starts again, `rounds` times at most before a new
session is made without looking. -/
def openWithin (r : Roster) (id : SessionId) : (rounds : Nat) → Roster × SessionNo
  | 0 => r.create id
  | rounds + 1 =>
    match r.table.get? id with
    | none => r.create id
    | some n => if (r.session n).closed then openWithin (r.forget id n) id rounds else (r, n)

/-- The session that an id stands for, made if there is none or only a closed one.  After one stale
entry is gone there is none, so the second round is the last. -/
def openSession (r : Roster) (id : SessionId) : Roster × SessionNo := r.openWithin id 2

/-- What follows when a session lost a peer: an empty one leaves the table, and the members of any
other are to be told. -/
def settle (r : Roster) (n : SessionNo) : Roster :=
  if (r.session n).isEmpty then r.forget (r.session n).id n else r.forceListing n

/-- A peer leaves a session. -/
def remove (r : Roster) (n : SessionNo) (peer : PeerId) : Roster :=
  (r.changeSession n (·.remove peer)).settle n

/-! ## Binding -/

/-- The roster in which the connection of a binding knows it. -/
def join (r : Roster) (b : Binding) : Roster :=
  { r with joined := r.joined.insert ⟨b.link, b.peer⟩ b }

/-- The roster in which the connection of a binding does not know it. -/
def part (r : Roster) (b : Binding) : Roster :=
  if r.joined.get? ⟨b.link, b.peer⟩ = some b then
    { r with joined := r.joined.erase ⟨b.link, b.peer⟩ }
  else r

/-- What the connection of a binding holds for the same peer in another session. -/
def elsewhere (r : Roster) (b : Binding) : Option Binding :=
  (r.joined.get? ⟨b.link, b.peer⟩).filter (·.session ≠ b.session)

/-- Binds a peer that the session does not have.  A peer that the connection held elsewhere leaves
there, so the number of bound peers stays. -/
def bindNew (r : Roster) (b : Binding) : Roster :=
  let bound := (r.changeSession b.session (·.welcome b)).join b
  match r.elsewhere b with
  | some old => bound.remove old.session b.peer
  | none => { bound with peerGauge := bound.peerGauge.increment }

/-- Puts a peer's binding in the place of the one it had through another connection.  If the new
connection held the peer elsewhere, one bound peer less is left. -/
def takeOver (r : Roster) (old b : Binding) : Roster :=
  let parted := (r.changeSession b.session (·.replace b)).part old
  let bound := parted.join b
  match parted.elsewhere b with
  | some other =>
    { bound with peerGauge := bound.peerGauge.decrement }.remove other.session b.peer
  | none => bound

/-- Puts an account into a purse. -/
def attach (r : Roster) (purse : PurseNo) (account : AccountNo) : Roster :=
  { r with purses := r.purses.attach r.ledger.accounts purse account }

/-- Binds a peer on a connection to the session that a grant names.  A banned peer is refused, and
so is one that is bound there with another size.  A peer that is bound there through the same
connection keeps its rights. -/
def bind (r : Roster) (now : Instant) (link : LinkNo) (peer : PeerId) (g : Grant) :
    Roster × Except RelayFault SessionNo :=
  let (r, n) := r.openSession g.session
  if (r.session n).isBanned peer now then (r, .error (.coded .banned))
  else
    let r := r.changeSession n (·.liftBan peer now)
    let purse := r.purses.size
    match (r.session n).find? peer with
    | none =>
      let b : Binding := ⟨peer, n, link, g.size.toNat, g.isAdmin, purse⟩
      (({ r with purses := r.purses.start }.bindNew b).attach purse g.account, .ok n)
    | some b =>
      if b.size ≠ g.size.toNat then (r, .error (.sizeMismatch b.size g.size.toNat))
      else if b.link = link then
        ((r.changeSession n (·.noteMember peer)).attach b.purse g.account, .ok n)
      else
        let moved := { r with purses := r.purses.copy b.purse }
        ((moved.takeOver b (b.movedTo link g.isAdmin purse)).attach purse g.account, .ok n)

/-- Charges a purse.  The result tells whether its accounts allowed it. -/
def charge (r : Roster) (purse : PurseNo) (amount : Int64) : Roster × Bool :=
  let (purses, accounts, paid) := r.purses.charge r.ledger.accounts purse amount
  ({ r with purses, ledger := { r.ledger with accounts } }, paid)

/-! ## Leaving -/

/-- A peer on a connection leaves the session it is bound to there. -/
def leave (r : Roster) (link : LinkNo) (peer : PeerId) : Roster × Except RelayFault Unit :=
  match r.joined.get? ⟨link, peer⟩ with
  | none => (r, .error .notInSession)
  | some b =>
    ({ r with
        joined := r.joined.erase ⟨link, peer⟩
        peerGauge := r.peerGauge.decrement }.remove b.session b.peer,
      .ok ())

/-- Every peer on a connection leaves its session. -/
def leaveAll (r : Roster) (link : LinkNo) : Roster :=
  (r.peersOf link).foldl (fun r peer => (r.leave link peer).1) r

/-- An admin removes a peer from its session and may keep it out for a while.  The result is the
connection that held the peer. -/
def kick (r : Roster) (now : Instant) (link : LinkNo) (source target : PeerId)
    (banSeconds : UInt32) : Roster × Except RelayFault LinkNo :=
  match r.binding? link source with
  | none => (r, .error (.coded .sourcePeerNotInSession))
  | some b =>
    if !b.isAdmin then (r, .error (.coded .sourcePeerNotAdmin))
    else
      match (r.session b.session).find? target with
      | none => (r, .error (.coded .targetPeerNotInSession))
      | some t =>
        let last := now + Span.seconds banSeconds.toNat
        let r := if banSeconds = 0 then r else r.changeSession b.session (·.ban target last)
        let (r, left) := r.leave t.link target
        (r, left.map fun _ => t.link)

/-! ## Renaming -/

/-- Gives a session a new id.  The new id stands for the session from now on, whatever it stood for
before. -/
def rename (r : Roster) (n : SessionNo) (new : SessionId) : Roster :=
  let old := (r.session n).id
  let table := r.table.insert new n
  { r.changeSession n (fun s => { s with id := new }) with
    table := if table.get? old = some n then table.erase old else table }

end Roster

end MeteredRelay
