import MeteredRelay.Text.Span
import MeteredRelay.Wire.Fault
import MeteredRelay.Wire.ReplyCode

/-!
# Faults of the relay

Why a message was not relayed, a command not obeyed or the server not started.  Causes that a
client may be told about carry a reply code; all others are the server's own affair and show as
`noError` in a reply.
-/

namespace MeteredRelay

/-- Why the relay refused something. -/
inductive RelayFault where
  /-- A cause that has a reply code. -/
  | coded (code : ReplyCode)
  /-- A ping came sooner than pings may. -/
  | pingTooRecent (since : Span)
  /-- A ping or pong above its limit. -/
  | pingTooLarge (size : Nat)
  /-- A connection was silent for too long. -/
  | timedOut
  /-- A connection misbehaved too often. -/
  | banScoreReached
  /-- The peer is bound to no session. -/
  | notInSession
  /-- The peer is bound with another size than it asks for. -/
  | sizeMismatch (bound requested : Nat)
  /-- A command of no known kind. -/
  | unknownCommand (tag : UInt8)
  /-- A command that clients may not give, or a damaged one. -/
  | invalidCommand (text : String)
  /-- A command to the server that names another target. -/
  | nonZeroTarget
  /-- A message too large to send. -/
  | messageTooLarge (size : Nat)
  /-- Settings that the server cannot run with. -/
  | invalidSettings (text : String)
  /-- The server was started before. -/
  | alreadyRunning
  /-- A part of the server ended. -/
  | taskFailed (text : String)
  /-- The system tells nothing about a socket. -/
  | socketTable (text : String)
  /-- The system refused to send or to listen, in its own words. -/
  | system (text : String)
  /-- A fault of a key or a sealed message. -/
  | cipher (fault : CipherFault)
  /-- A fault of a frame. -/
  | frame (fault : FrameFault)
deriving DecidableEq

namespace RelayFault

/-- The fault in words. -/
def message : RelayFault → String
  | coded c => c.message
  | pingTooRecent s => s!"ping too recent (last ping {s.text} ago)"
  | pingTooLarge n => s!"ping payload too large ({n} bytes)"
  | timedOut => "connection timed out"
  | banScoreReached => "ban score reached"
  | notInSession => "peer not in session"
  | sizeMismatch b r => s!"session size mismatch (bound {b}, requested {r})"
  | unknownCommand t => s!"unknown command type {t.toNat}"
  | invalidCommand t => s!"invalid command: {t}"
  | nonZeroTarget => "internal command with non-zero target"
  | messageTooLarge n => s!"message too large to send ({n} bytes)"
  | invalidSettings t => s!"invalid config: {t}"
  | alreadyRunning => "server already running"
  | taskFailed t => s!"server task failed: {t}"
  | socketTable t => s!"kernel stats: {t}"
  | system t => s!"I/O error: {t}"
  | cipher f => s!"crypto error: {f.message}"
  | frame f => s!"frame error: {f.message}"

/-- The name of the cause, for records of faults. -/
def name : RelayFault → String
  | coded _ => "Coded"
  | pingTooRecent _ => "PingTooRecent"
  | pingTooLarge _ => "PingTooLarge"
  | timedOut => "ConnTimedOut"
  | banScoreReached => "BanScoreReached"
  | notInSession => "NotInSession"
  | sizeMismatch .. => "SessionSizeMismatch"
  | unknownCommand _ => "UnknownCommand"
  | invalidCommand _ => "InvalidCommand"
  | nonZeroTarget => "NonZeroTarget"
  | messageTooLarge _ => "MessageTooLarge"
  | invalidSettings _ => "InvalidConfig"
  | alreadyRunning => "AlreadyRunning"
  | taskFailed _ => "TaskFailed"
  | socketTable _ => "KernelStats"
  | system _ => "Io"
  | cipher _ => "Crypto"
  | frame _ => "Frame"

/-- The reply code that the fault shows as. -/
def code : RelayFault → ReplyCode
  | coded c => c
  | _ => .noError

/-- A fault of a command as one of the relay. -/
def ofCommand : CommandFault → RelayFault
  | .unknownType t => unknownCommand t
  | f => invalidCommand f.message

end RelayFault

end MeteredRelay
