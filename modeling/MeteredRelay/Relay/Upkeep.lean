import MeteredRelay.Relay.Delivery

/-!
# Upkeep

What the relay does at its intervals: it drops connections that were silent for too long or
misbehaved too often, forgets payments that have ended, and tells the members of sessions who is
there.
-/

namespace MeteredRelay

namespace Relay

/-! ## Silent connections -/

/-- Why a connection is to be dropped, if it is. -/
def staleness (env : Environment) (now : Instant) (l : Link) : Option RelayFault :=
  if env.settings.maxPingInterval < l.silence now then some .timedOut
  else if env.settings.maxBanScore ≤ l.banScore then some .banScoreReached
  else none

/-- The addresses of the connections that are to be dropped. -/
def staleAddresses (env : Environment) (now : Instant) (r : Relay) : List SocketAddress :=
  (r.addresses.entries.filter fun e => (staleness env now (r.link e.2)).isSome).map (·.1)

/-- Drops the connection of an address, and with it the bindings that it held. -/
def dropLink (r : Relay) (address : SocketAddress) : Relay :=
  match r.addresses.get? address with
  | none => r
  | some n =>
    let pending := (r.link n).isPending
    let r := { r with addresses := r.addresses.erase address }.changeLink n (·.complete)
    let r := { r with roster := r.roster.leaveAll n }
    if pending then { r with pendingGauge := r.pendingGauge.decrement }
    else { r with linkGauge := r.linkGauge.decrement }

/-- Drops every connection that was silent for too long or misbehaved too often.  The result is also
how many these were. -/
def sweep (env : Environment) (now : Instant) (r : Relay) : Relay × Nat :=
  let stale := r.staleAddresses env now
  (stale.foldl dropLink r, stale.length)

/-! ## Payments -/

/-- Forgets what has ended. -/
def forgetPayments (r : Relay) (now : Moment) : Relay :=
  { r with roster := { r.roster with ledger := r.roster.ledger.sweep now.unix } }

/-! ## Listings -/

/-- Sends the listing on the desk to one member. -/
def listTo (env : Environment) (r : Relay) (d : Destination) : Relay :=
  (r.deliverNumbered env d.link .server fun n p => (p.setTarget d.peer).setSequence n).1

/-- Sends a listing to every member that it names. -/
def sendListing (env : Environment) (r : Relay) (l : Listing) : Relay :=
  match r.desk.packet.setCommand .membersBitmap l.bitmap with
  | .error _ => r
  | .ok packet => l.destinations.foldl (listTo env) (r.setPacket (packet.setSource .server))

/-- The listing of a session that is due, and the relay that remembers it. -/
def takeListing (r : Relay) (n : SessionNo) (now : Instant) (spacing : Span) :
    Relay × Option Listing :=
  ({ r with roster := r.roster.changeSession n (·.markListed now spacing) },
    (r.roster.session n).listing? now spacing)

/-- Lists a session, unless it was listed a short time ago. -/
def list (env : Environment) (now : Instant) (spacing : Span) (r : Relay) (n : SessionNo) : Relay :=
  match r.takeListing n now spacing with
  | (r, some l) => r.sendListing env l
  | (r, none) => r

/-- Lists every session. -/
def listAll (env : Environment) (now : Instant) (r : Relay) : Relay :=
  r.roster.table.values.foldl (list env now env.settings.listingInterval) r

/-- Takes the next session from the queue of those that wait to be listed, unless one was taken
already. -/
def takeForced (env : Environment) (r : Relay) : Relay :=
  match r.nextListing, r.roster.forced with
  | none, n :: rest =>
    { r with
      roster := { r.roster with forced := rest }
      nextListing := if env.settings.onlyPeriodicListings then none else some n }
  | _, _ => r

/-- Lists the session that was taken from the queue. -/
def listForced (env : Environment) (now : Instant) (r : Relay) : Relay :=
  match r.nextListing with
  | none => r
  | some n => { r with nextListing := none }.list env now env.settings.minListingInterval n

end Relay

end MeteredRelay
