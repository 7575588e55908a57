import Mathlib.Logic.Relation
import MeteredRelay.Proofs.Roster.Act
import MeteredRelay.Proofs.Till
import MeteredRelay.Relay.Event

/-!
# How commands are obeyed

To obey a command is to do some of six things: a ping is noted with its connection and answered, a
cookie is redeemed, acts change the roster, a peer is kicked and told so, and the caller is sent a
command of the server.  `Deed` lists these, each with the exact state after it, and **`deeds_obey`**
says that nothing else is done.  So whatever each deed keeps is kept by every command
(`Deeds.induction`), and only this file opens the functions that obey.

What acts there are depends on the message (`Bids`): a bind on its connection of the peer that it is
from, for what the cookie in it grants, or a rotation by the cookie in it.
-/

namespace MeteredRelay

open Relation

/-- What the server composes: answers to pings and commands, reports of kicks, and listings. -/
def Command.Composed : Command → Prop
  | .pong _ | .joinSessionReply _ | .leaveSessionReply _ | .kickPeer .. | .kickPeerReply ..
  | .membersBitmap _ | .rotateCookiesReply _ => True
  | _ => False

namespace Relay

variable {env : Environment} {now : Moment} {r r' : Relay} {caller : LinkNo} {p : PacketBuffer}
  {peer target : PeerId} {cookie payload : Bytes}

/-! ## What a command asks for -/

/-- What a cookie grants a peer.  Where the server has a key for cookies, it opens, is good for the
peer and says so; where it has none, everybody is granted the same size. -/
structure Granted (env : Environment) (now : Moment) (peer : PeerId) (cookie : Bytes) (g : Grant) :
    Prop where
  shown : ∀ keys, env.settings.cookieKeys = some keys →
    ∃ c, Admission.checkedCookie env.cipher keys now peer cookie = .ok c ∧
      g.session = env.sessionId c.ownerSecret c.serverSecret c.size ∧ g.size = c.size
  free : env.settings.cookieKeys = none → g.size = Admission.openSize

/-- The acts that a message from a connection asks for. -/
def Asks (env : Environment) (now : Moment) (caller : LinkNo) (p : PacketBuffer) :
    Roster.Act → Prop
  | .bind link peer g => link = caller ∧ peer = p.source ∧ p.target.isServer = true ∧
      ∃ cookie, p.command = .ok (.joinSession, cookie) ∧ Granted env now peer cookie g
  | .rotate _ _ message => p.command = .ok (.rotateCookies, message)
  | .charge _ amount => 1 ≤ amount.toInt ∧ amount.toInt ≤ Till.largestCharge
  | _ => True

/-- The acts that a command asks for: it charges nothing. -/
def Bids (env : Environment) (now : Moment) (caller : LinkNo) (p : PacketBuffer)
    (a : Roster.Act) : Prop :=
  Asks env now caller p a ∧ ∀ purse amount, a ≠ .charge purse amount

/-- Whatever is granted, the server has checked the cookie for it, or asks for none. -/
lemma granted_grant {q : Roster} {tag : UInt64} {g : Grant}
    (h : (q.grant env now tag peer cookie).2 = .ok g) : Granted env now peer cookie g := by
  refine ⟨fun keys hkeys => ?_, fun hnone => ?_⟩
  · simp only [Roster.grant, hkeys] at h
    cases hc : Admission.checkedCookie env.cipher keys now peer cookie with
    | error e =>
        rw [hc] at h
        contradiction
    | ok c =>
        rw [hc] at h
        obtain rfl := Except.ok.inj h
        exact ⟨c, rfl, rfl, rfl⟩
  · simp only [Roster.grant, hnone] at h
    obtain rfl := Except.ok.inj h
    rfl

/-! ## What is done -/

/-- One of the things that are done about the command `p` of a client. -/
inductive Deed (env : Environment) (now : Moment) (caller : LinkNo) (p : PacketBuffer) :
    Relay → Relay → Prop where
  /-- A ping to the server is noted, unless it is oversized. -/
  | noted {r : Relay} {payload : Bytes} (htarget : p.target.isServer = true)
      (hping : p.command = .ok (.ping, payload)) (hshort : payload.length ≤ maxPingSize) :
      Deed env now caller p r (r.changeLink caller (·.notePing now.instant))
  | ponged {r : Relay} {payload : Bytes} (hping : r.desk.packet.command = .ok (.ping, payload)) :
      Deed env now caller p r
        ((r.setPacket (r.desk.packet.setTag .pong)).reply env caller p.source).1
  | redeemed {r : Relay} {cookie : Bytes} :
      Deed env now caller p r (r.grant env now p.source cookie).1
  | acted {r : Relay} (a : Roster.Act) (hbids : Bids env now caller p a) :
      Deed env now caller p r (r.setRoster (r.roster.act env now a))
  /-- A peer is kicked and told so, on the connection that held it. -/
  | kicked {r : Relay} {held : LinkNo} {target : PeerId} {banSeconds : UInt32}
      (hkick : (r.roster.kick now.instant caller p.source target banSeconds).2 = .ok held) :
      Deed env now caller p r
        ((r.setRoster (r.roster.kick now.instant caller p.source target banSeconds).1).sendCommand
          env held target (.kickPeer target banSeconds)).1
  /-- The caller is answered. -/
  | sent {r : Relay} {c : Command} (hc : c.Composed) :
      Deed env now caller p r (r.sendCommand env caller p.source c).1

/-- Several such things, one after the other. -/
def Deeds (env : Environment) (now : Moment) (caller : LinkNo) (p : PacketBuffer) :
    Relay → Relay → Prop := ReflTransGen (Deed env now caller p)

/-- What holds from one state to another across each deed holds across several. -/
lemma Deeds.induction {R : Relay → Relay → Prop} (h : Deeds env now caller p r r')
    (hrefl : R r r) (hstep : ∀ {x y}, Deed env now caller p x y → R r x → R r y) : R r r' := by
  induction h with
  | refl => exact hrefl
  | tail _ hdeed ih => exact hstep hdeed ih

/-- A ping that comes too soon is noted, but not answered. -/
lemma deeds_obeyPing (htarget : r.desk.packet.target.isServer = true)
    (hping : r.desk.packet.command = .ok (.ping, payload)) :
    Deeds env now caller r.desk.packet r
      (r.obeyPing env now caller r.desk.packet.source payload).1 := by
  unfold obeyPing
  split
  · exact .refl
  · rename_i hshort
    have hnoted : Deeds env now caller r.desk.packet r
        (r.changeLink caller (·.notePing now.instant)) :=
      .single (.noted htarget hping (Nat.le_of_not_lt hshort))
    have hanswered := hnoted.tail (.ponged hping)
    dsimp only
    split
    · split
      · exact hnoted
      · exact hanswered
    · exact hanswered

lemma deeds_obeyPong : Deeds env now caller p r (r.obeyPong payload).1 := by
  simp only [obeyPong]
  split <;> exact .refl

/-- The cookie is redeemed before the bind is tried, so its payment is there even if the session
refuses the peer. -/
lemma deeds_obeyJoin (htarget : p.target.isServer = true)
    (hcommand : p.command = .ok (.joinSession, cookie)) :
    Deeds env now caller p r (r.obeyJoin env now caller p.source cookie).1 := by
  have hgrant : Deeds env now caller p r (r.grant env now p.source cookie).1 := .single .redeemed
  have hgranted (g : Grant) (hg : (r.grant env now p.source cookie).2 = .ok g) :
      Granted env now p.source cookie g := granted_grant hg
  simp only [obeyJoin]
  generalize r.grant env now p.source cookie = x at hgrant hgranted ⊢
  rcases x with ⟨x, granted⟩
  cases granted with
  | error e => exact hgrant.tail (.sent trivial)
  | ok g =>
      have hbind : Deeds env now caller p r
          (x.setRoster (x.roster.bind now.instant caller p.source g).1) :=
        hgrant.tail (.acted (.bind caller p.source g)
          ⟨⟨rfl, rfl, htarget, cookie, hcommand, hgranted g rfl⟩, nofun⟩)
      dsimp only
      generalize x.roster.bind now.instant caller p.source g = y at hbind ⊢
      rcases y with ⟨y, bound⟩
      have hsent : Deeds env now caller p r (Relay.sendCommand env (x.setRoster y) caller p.source
          (.joinSessionReply (disclosedCode env bound))).1 := hbind.tail (.sent trivial)
      generalize Relay.sendCommand env _ caller p.source _ = z at hsent ⊢
      cases bound with
      | error e => exact hsent
      | ok n => exact hsent.tail (.acted (.forceListing n) ⟨trivial, nofun⟩)

lemma deeds_obeyLeave : Deeds env now caller p r (r.obeyLeave env caller p.source).1 := by
  have hleft : Deeds env now caller p r (r.setRoster (r.roster.leave caller p.source).1) :=
    .single (.acted (.leave caller p.source) ⟨trivial, nofun⟩)
  simp only [obeyLeave]
  exact hleft.tail (.sent trivial)

/-- The peer is told before the caller is; a kick that fails is reported to the caller alone. -/
lemma deeds_obeyKick {banSeconds : UInt32} :
    Deeds env now caller p r (r.obeyKick env now caller p.source target banSeconds).1 := by
  have hrefused : Deeds env now caller p r
      (r.setRoster (r.roster.kick now.instant caller p.source target banSeconds).1) :=
    .single (.acted (.kick caller p.source target banSeconds) ⟨trivial, nofun⟩)
  unfold obeyKick
  dsimp only
  split
  · rename_i held hkick
    have htold : Deeds env now caller p r _ := .single (.kicked hkick)
    exact htold.tail (.sent trivial)
  · exact hrefused.tail (.sent trivial)

lemma deeds_obeyRotate (hcommand : p.command = .ok (.rotateCookies, cookie)) :
    Deeds env now caller p r (r.obeyRotate env now caller p.source cookie).1 := by
  have hrotated : Deeds env now caller p r
      (r.setRoster (r.roster.rotate env now caller p.source cookie).1) :=
    .single (.acted (.rotate caller p.source cookie) ⟨hcommand, nofun⟩)
  simp only [obeyRotate]
  exact hrotated.tail (.sent trivial)

/-- **To obey a command is to do such things.** -/
theorem deeds_obey (env : Environment) (now : Moment) (r : Relay) (caller : LinkNo) :
    Deeds env now caller r.desk.packet r (r.obey env now caller).1 := by
  unfold obey
  dsimp only
  split
  · exact .refl
  rename_i hnot
  have htarget : r.desk.packet.target.isServer = true := by simpa using hnot
  split
  · exact .refl
  · rename_i tag payload hcommand
    cases tag with
    | ping => exact deeds_obeyPing htarget hcommand
    | pong => exact deeds_obeyPong
    | joinSession => exact deeds_obeyJoin htarget hcommand
    | leaveSession => exact deeds_obeyLeave
    | kickPeer =>
        dsimp only
        split
        · exact .refl
        · exact deeds_obeyKick
    | rotateCookies => exact deeds_obeyRotate hcommand
    | _ => exact .refl

end Relay

end MeteredRelay
