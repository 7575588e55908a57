import MeteredRelay.Relay.Environment
import MeteredRelay.Roster

/-!
# Admission

A peer asks to be bound to a session with a join cookie.  Where the server has a key for cookies,
the cookie says which session, with what rights and on whose account; it must open, be made for the
peer that shows it, and not have ended.  Where the server has none, everybody is admitted: peers
whose ids share their upper halves share a session, peers with odd ids are admins, and each gets an
account of its own.
-/

namespace MeteredRelay

namespace Admission

/-- The bytes that a peer without a cookie may send. -/
def openAllowance : UInt64 := 10000000000

/-- How many bindings a message of a peer without a cookie may go to. -/
def openSize : UInt32 := 65536

/-- The session of a peer without a cookie. -/
def openSession (peer : PeerId) : SessionId :=
  ⟨Octets.ofPrefixed 32 (List.replicate 28 0 ++ (Bytes.ofUInt32 peer.value).take 2)⟩

/-- Peers with odd ids are admins where there are no cookies. -/
def isOpenAdmin (peer : PeerId) : Bool := peer.value % 2 == 1

/-- The last second of an account that was opened without a cookie. -/
def openEndTime (settings : Settings) (now : Moment) : Int64 :=
  saturated (now.unix.toInt + settings.paymentSweepInterval.toSignedSeconds.toInt)

/-- The ledger after a peer without a cookie was admitted, and what it is granted. -/
def openGrant (settings : Settings) (now : Moment) (ledger : Ledger) (tag : UInt64)
    (peer : PeerId) : Ledger × Grant :=
  let (ledger, account) := ledger.redeem tag openAllowance (openEndTime settings now)
  (ledger, ⟨openSession peer, openSize, isOpenAdmin peer, account⟩)

/-- The cookie that a peer shows, if it is good for that peer now. -/
def checkedCookie (cipher : Aead) (keys : CookieKeys) (now : Moment) (peer : PeerId)
    (message : Bytes) : Except RelayFault JoinCookie :=
  match JoinCookie.opened cipher keys message with
  | .error _ => .error (.coded .joinCookieInvalid)
  | .ok c =>
    if c.peer ≠ peer then .error (.coded .joinCookieWrongPeerId)
    else if c.endTime < now.unix then .error (.coded .joinCookieExpired)
    else .ok c

/-- The ledger after the payment of a cookie was redeemed, and what the cookie grants. -/
def cookieGrant (env : Environment) (ledger : Ledger) (c : JoinCookie) : Ledger × Grant :=
  let (ledger, account) := ledger.redeem c.paymentTag c.allowance c.endTime
  (ledger, ⟨env.sessionId c.ownerSecret c.serverSecret c.size, c.size, c.isAdmin, account⟩)

end Admission

/-- What a peer is granted for what it shows.  `tag` is the payment of a peer without a cookie. -/
def Roster.grant (env : Environment) (now : Moment) (tag : UInt64) (r : Roster) (peer : PeerId)
    (message : Bytes) : Roster × Except RelayFault Grant :=
  match env.settings.cookieKeys with
  | none =>
    let (ledger, g) := Admission.openGrant env.settings now r.ledger tag peer
    ({ r with ledger }, .ok g)
  | some keys =>
    match Admission.checkedCookie env.cipher keys now peer message with
    | .error e => (r, .error e)
    | .ok c =>
      let (ledger, g) := Admission.cookieGrant env r.ledger c
      ({ r with ledger }, .ok g)

end MeteredRelay
