import MeteredRelay.Relay.Environment
import MeteredRelay.Roster

/-!
# Rotation

An admin moves its session to a new id with a rotation cookie, for instance after a peer was kicked
that still has a cookie for the old one.  The cookie must open, not be older than its lifetime,
name the present id of the session, and not have been used.  The bindings stay as they are.
-/

namespace MeteredRelay

namespace Rotation

/-- The rotation cookie in a message, if the server has a key that opens it. -/
def openedCookie (env : Environment) (message : Bytes) : Except RelayFault RotationCookie :=
  match env.settings.cookieKeys with
  | none => .error (.coded .invalidRotCookie)
  | some keys =>
    match RotationCookie.opened env.cipher keys message with
    | .error _ => .error (.coded .invalidRotCookie)
    | .ok c => .ok c

/-- The seconds that a rotation cookie is good for. -/
def lifetime (env : Environment) : Int64 := env.settings.rotationLifetime.toSignedSeconds

/-- Whether a cookie is older than its lifetime. -/
def isExpired (env : Environment) (now : Moment) (c : RotationCookie) : Bool :=
  lifetime env < saturated (now.unix.toInt - c.timestamp.toInt)

/-- The last second in which a used cookie has to be known. -/
def endTime (env : Environment) (c : RotationCookie) : Int64 :=
  saturated (c.timestamp.toInt + (lifetime env).toInt)

/-- The id that a cookie moves a session from. -/
def oldId (env : Environment) (c : RotationCookie) : SessionId :=
  env.sessionId c.oldOwnerSecret c.serverSecret c.size

/-- The id that a cookie moves a session to. -/
def newId (env : Environment) (c : RotationCookie) : SessionId :=
  env.sessionId c.newOwnerSecret c.serverSecret c.size

end Rotation

/-- A session is moved by a cookie that opened.  A cookie that names one id twice is used up without
a move. -/
def Roster.rotateBy (env : Environment) (now : Moment) (r : Roster) (n : SessionNo)
    (c : RotationCookie) : Roster × Except RelayFault Unit :=
  if Rotation.isExpired env now c then (r, .error (.coded .expiredRotCookie))
  else if Rotation.oldId env c ≠ (r.session n).id then (r, .error (.coded .mismatchedOldSessId))
  else
    match r.ledger.redeemRotation? c.paymentTag (Rotation.endTime env c) with
    | none => (r, .error (.coded .alreadyUsedRotCookie))
    | some ledger =>
      let r := { r with ledger }
      if Rotation.newId env c = Rotation.oldId env c then (r, .ok ())
      else if (r.session n).closed then (r, .error .notInSession)
      else (r.rename n (Rotation.newId env c), .ok ())

/-- An admin moves its session to the id that a rotation cookie names. -/
def Roster.rotate (env : Environment) (now : Moment) (r : Roster) (link : LinkNo) (source : PeerId)
    (message : Bytes) : Roster × Except RelayFault Unit :=
  match r.binding? link source with
  | none => (r, .error (.coded .sourcePeerNotInSession))
  | some b =>
    if !b.isAdmin then (r, .error (.coded .sourcePeerNotAdmin))
    else
      match Rotation.openedCookie env message with
      | .error e => (r, .error e)
      | .ok c => r.rotateBy env now b.session c

end MeteredRelay
