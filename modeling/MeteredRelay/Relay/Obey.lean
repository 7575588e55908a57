import MeteredRelay.Relay.Delivery
import MeteredRelay.Roster.Admission
import MeteredRelay.Roster.Rotation

/-!
# Obeying commands

What the relay does with a message whose target is the server.  Most commands are answered, and the
answer tells the cause of a refusal if the settings disclose it.  The result says whether the
client misbehaved: a refused cookie counts, and so does a ping that comes too soon, but not a peer
that its session refuses, for it may try again.
-/

namespace MeteredRelay

/-- The code that a reply tells. -/
def disclosedCode {α : Type} (env : Environment) (outcome : Except RelayFault α) : ReplyCode :=
  match outcome with
  | .ok _ => .noError
  | .error e => if env.settings.disclosesCodes then e.code else .noError

namespace Relay

/-- The relay with another roster. -/
def setRoster (r : Relay) (roster : Roster) : Relay := { r with roster }

/-- What a peer is granted for the cookie it shows. -/
def grant (env : Environment) (now : Moment) (r : Relay) (peer : PeerId) (cookie : Bytes) :
    Relay × Except RelayFault Grant :=
  let (roster, outcome) := r.roster.grant env now (env.tag r.tagsDrawn) peer cookie
  let drawn := if env.settings.cookieKey.isSome then 0 else 1
  ({ r with roster, tagsDrawn := r.tagsDrawn + drawn }, outcome)

/-- Answers a ping, unless the last one came too short a time ago. -/
def obeyPing (env : Environment) (now : Moment) (r : Relay) (caller : LinkNo) (source : PeerId)
    (payload : Bytes) : Relay × Except RelayFault Unit :=
  if maxPingSize < payload.length then (r, .error (.pingTooLarge payload.length))
  else
    let last := (r.link caller).lastPing.load
    let r := r.changeLink caller (·.notePing now.instant)
    match last.map now.instant.since with
    | some since =>
      if since < env.settings.minPingInterval then (r, .error (.pingTooRecent since))
      else (r.setPacket (r.desk.packet.setTag .pong)).reply env caller source
    | none => (r.setPacket (r.desk.packet.setTag .pong)).reply env caller source

/-- Takes an answer to a ping. -/
def obeyPong (r : Relay) (payload : Bytes) : Relay × Except RelayFault Unit :=
  if maxPingSize < payload.length then (r, .error (.pingTooLarge payload.length)) else (r, .ok ())

/-- Binds a peer for the cookie it shows.  The new listing is asked for after the reply, so that the
peer sees it too. -/
def obeyJoin (env : Environment) (now : Moment) (r : Relay) (caller : LinkNo) (source : PeerId)
    (cookie : Bytes) : Relay × Except RelayFault Unit :=
  let (r, granted) := r.grant env now source cookie
  match granted with
  | .error e =>
    let code := disclosedCode env (.error e : Except RelayFault Unit)
    let (r, _) := r.sendCommand env caller source (.joinSessionReply code)
    (r, .error e)
  | .ok g =>
    let (roster, bound) := r.roster.bind now.instant caller source g
    let (r, written) :=
      (r.setRoster roster).sendCommand env caller source (.joinSessionReply (disclosedCode env bound))
    match bound with
    | .ok n => (r.setRoster (r.roster.forceListing n), written)
    | .error _ => (r, written)

/-- Unbinds a peer. -/
def obeyLeave (env : Environment) (r : Relay) (caller : LinkNo) (source : PeerId) :
    Relay × Except RelayFault Unit :=
  let (roster, left) := r.roster.leave caller source
  (r.setRoster roster).sendCommand env caller source (.leaveSessionReply (disclosedCode env left))

/-- Lets an admin kick a peer, and tells the peer. -/
def obeyKick (env : Environment) (now : Moment) (r : Relay) (caller : LinkNo)
    (source target : PeerId) (banSeconds : UInt32) : Relay × Except RelayFault Unit :=
  let (roster, kicked) := r.roster.kick now.instant caller source target banSeconds
  let r := r.setRoster roster
  let r := match kicked with
    | .ok held => (r.sendCommand env held target (.kickPeer target banSeconds)).1
    | .error _ => r
  let (r, written) :=
    r.sendCommand env caller source (.kickPeerReply target (disclosedCode env kicked))
  (r, do written; _ ← kicked; return ())

/-- Lets an admin move its session to a new id. -/
def obeyRotate (env : Environment) (now : Moment) (r : Relay) (caller : LinkNo) (source : PeerId)
    (cookie : Bytes) : Relay × Except RelayFault Unit :=
  let (roster, rotated) := r.roster.rotate env now caller source cookie
  let (r, written) := (r.setRoster roster).sendCommand env caller source
    (.rotateCookiesReply (disclosedCode env rotated))
  (r, do written; rotated)

/-- Obeys the command on the desk. -/
def obey (env : Environment) (now : Moment) (r : Relay) (caller : LinkNo) :
    Relay × Except RelayFault Unit :=
  let source := r.desk.packet.source
  if !r.desk.packet.target.isServer then (r, .error .nonZeroTarget)
  else
    match r.desk.packet.command with
    | .error e => (r, .error (.ofCommand e))
    | .ok (tag, payload) =>
      match tag with
      | .ping => r.obeyPing env now caller source payload
      | .pong => r.obeyPong payload
      | .joinSession => r.obeyJoin env now caller source payload
      | .leaveSession => r.obeyLeave env caller source
      | .kickPeer =>
        match Command.decodeKick payload with
        | .error e => (r, .error (.ofCommand e))
        | .ok (target, banSeconds) => r.obeyKick env now caller source target banSeconds
      | .rotateCookies => r.obeyRotate env now caller source payload
      | .joinSessionReply | .leaveSessionReply | .kickPeerReply | .membersBitmap
      | .rotateCookiesReply =>
        (r, .error (.invalidCommand s!"{tag.name} is not accepted from clients"))

end Relay

end MeteredRelay
