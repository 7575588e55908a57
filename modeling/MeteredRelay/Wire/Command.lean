import MeteredRelay.Wire.Frame
import MeteredRelay.Wire.ReplyCode

/-!
# Commands

A command travels as the data of a frame: one tag byte and a payload whose layout the tag fixes.

* pings and pongs carry at most sixty-four bytes of the sender's choice;
* a join and a rotation carry a sealed cookie, a membership listing a serialized set of peer ids;
* the replies to a join, a leave and a rotation carry a reply code of eight bytes;
* a kick carries the peer to remove and the seconds of its ban, and its reply the peer and a code;
* a leave carries nothing of meaning.

`Command.decode` reads a payload under its tag and `Command.payload` writes it.
-/

namespace MeteredRelay

/-- The bytes that a ping may carry at most. -/
def maxPingSize : Nat := 64

/-- The kinds of command. -/
inductive CommandTag where
  | ping
  | pong
  | joinSession
  | joinSessionReply
  | leaveSession
  | leaveSessionReply
  | kickPeer
  | kickPeerReply
  | membersBitmap
  | rotateCookies
  | rotateCookiesReply
deriving DecidableEq, Inhabited

namespace CommandTag

/-- The tag byte. -/
def byte : CommandTag → UInt8
  | ping => 1
  | pong => 2
  | joinSession => 3
  | joinSessionReply => 4
  | leaveSession => 5
  | leaveSessionReply => 6
  | kickPeer => 7
  | kickPeerReply => 8
  | membersBitmap => 9
  | rotateCookies => 10
  | rotateCookiesReply => 11

/-- Every kind, in the order of the tags. -/
def all : List CommandTag :=
  [ping, pong, joinSession, joinSessionReply, leaveSession, leaveSessionReply, kickPeer,
    kickPeerReply, membersBitmap, rotateCookies, rotateCookiesReply]

/-- The kind of a tag byte. -/
def ofByte (b : UInt8) : Except CommandFault CommandTag :=
  match all.find? (·.byte == b) with
  | some t => .ok t
  | none => .error (.unknownType b)

/-- The name of a kind. -/
def name : CommandTag → String
  | ping => "Ping"
  | pong => "Pong"
  | joinSession => "JoinSession"
  | joinSessionReply => "JoinSessionReply"
  | leaveSession => "LeaveSession"
  | leaveSessionReply => "LeaveSessionReply"
  | kickPeer => "KickPeer"
  | kickPeerReply => "KickPeerReply"
  | membersBitmap => "MembersBitmap"
  | rotateCookies => "RotateCookies"
  | rotateCookiesReply => "RotateCookiesReply"

@[simp] theorem ofByte_byte (t : CommandTag) : ofByte t.byte = .ok t := by
  cases t <;> rfl

end CommandTag

/-- A command and its payload. -/
inductive Command where
  | ping (data : Bytes)
  | pong (data : Bytes)
  | joinSession (cookie : Bytes)
  | joinSessionReply (code : ReplyCode)
  | leaveSession
  | leaveSessionReply (code : ReplyCode)
  | kickPeer (target : PeerId) (banSeconds : UInt32)
  | kickPeerReply (target : PeerId) (code : ReplyCode)
  | membersBitmap (data : Bytes)
  | rotateCookies (cookie : Bytes)
  | rotateCookiesReply (code : ReplyCode)
deriving DecidableEq, Inhabited

namespace Command

/-- The kind of a command. -/
def tag : Command → CommandTag
  | ping _ => .ping
  | pong _ => .pong
  | joinSession _ => .joinSession
  | joinSessionReply _ => .joinSessionReply
  | leaveSession => .leaveSession
  | leaveSessionReply _ => .leaveSessionReply
  | kickPeer _ _ => .kickPeer
  | kickPeerReply _ _ => .kickPeerReply
  | membersBitmap _ => .membersBitmap
  | rotateCookies _ => .rotateCookies
  | rotateCookiesReply _ => .rotateCookiesReply

/-- The payload, without the tag byte. -/
def payload : Command → Bytes
  | ping d | pong d | membersBitmap d => d
  | joinSession c | rotateCookies c => c
  | joinSessionReply c | leaveSessionReply c | rotateCookiesReply c => Bytes.ofUInt64 c.word
  | leaveSession => []
  | kickPeer t s => Bytes.ofUInt32 t.value ++ Bytes.ofUInt32 s
  | kickPeerReply t c => Bytes.ofUInt32 t.value ++ Bytes.ofUInt64 c.word

/-- Refuses a payload that has not the size its command has. -/
def checkSize (command : String) (expected : Nat) (payload : Bytes) : Except CommandFault Unit :=
  if payload.length = expected then .ok ()
  else .error (.payloadSize command expected payload.length)

/-- Refuses a ping or pong above the limit. -/
def checkPing (payload : Bytes) : Except CommandFault Unit :=
  if payload.length ≤ maxPingSize then .ok ()
  else .error (.payloadTooLarge "ping" maxPingSize payload.length)

/-- The reply code that is the whole payload. -/
def decodeCode (command : String) (payload : Bytes) : Except CommandFault ReplyCode := do
  checkSize command 8 payload
  return ReplyCode.ofWord (Bytes.toUInt64 payload)

/-- The peer to kick and the seconds of its ban. -/
def decodeKick (payload : Bytes) : Except CommandFault (PeerId × UInt32) := do
  checkSize "kick" 8 payload
  return (⟨Bytes.toUInt32 payload⟩, Bytes.toUInt32 (payload.drop 4))

/-- Reads the payload of a command of the given kind. -/
def decode (tag : CommandTag) (payload : Bytes) : Except CommandFault Command :=
  match tag with
  | .ping => do checkPing payload; return ping payload
  | .pong => do checkPing payload; return pong payload
  | .joinSession => return joinSession payload
  | .joinSessionReply => return joinSessionReply (← decodeCode "join reply" payload)
  | .leaveSession => return leaveSession
  | .leaveSessionReply => return leaveSessionReply (← decodeCode "leave reply" payload)
  | .kickPeer => do
    let (target, banSeconds) ← decodeKick payload
    return kickPeer target banSeconds
  | .kickPeerReply => do
    checkSize "kick reply" 12 payload
    return kickPeerReply ⟨Bytes.toUInt32 payload⟩ (ReplyCode.ofWord (Bytes.toUInt64 (payload.drop 4)))
  | .membersBitmap => return membersBitmap payload
  | .rotateCookies => return rotateCookies payload
  | .rotateCookiesReply => return rotateCookiesReply (← decodeCode "rotate reply" payload)

/-- The tag byte and the payload. -/
def data (c : Command) : Bytes := c.tag.byte :: c.payload

/-- The tag and payload that a frame's data hold. -/
def split (data : Bytes) : Except CommandFault (CommandTag × Bytes) :=
  match data with
  | [] => .error .empty
  | b :: payload => do return (← CommandTag.ofByte b, payload)

/-- The command that a frame's data hold. -/
def ofData (data : Bytes) : Except CommandFault Command := do
  let (tag, payload) ← split data
  decode tag payload

/-- The frame that carries a command. -/
def toFrame (c : Command) (target source : PeerId) (sequence : UInt32) : Frame :=
  ⟨target, source, sequence, c.data⟩

/-- The command that a frame carries. -/
def ofFrame (f : Frame) : Except CommandFault Command := ofData f.data

@[simp] theorem split_data (c : Command) : split c.data = .ok (c.tag, c.payload) := by
  change (do return (← CommandTag.ofByte c.tag.byte, c.payload)) = _
  rw [CommandTag.ofByte_byte]
  rfl

end Command

end MeteredRelay
