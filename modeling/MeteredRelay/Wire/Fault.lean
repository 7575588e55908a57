import MeteredRelay.Cipher.Fault

/-!
# Faults of the wire formats

What can be wrong with a frame, a command or a cookie, each cause a constructor of its own with
the figures that its message shows.  `message` is the sentence for people; `inspect` names the
cause and its figures, for records of faults.
-/

namespace MeteredRelay

/-- What can be wrong with a frame. -/
inductive FrameFault where
  /-- Fewer bytes than a header has. -/
  | tooShort (expected actual : Nat)
  /-- More bytes than a message may have. -/
  | tooLarge (max actual : Nat)
deriving DecidableEq

namespace FrameFault

/-- The fault in words. -/
def message : FrameFault → String
  | tooShort e a => s!"frame too short: expected at least {e}, got {a}"
  | tooLarge m a => s!"frame too large: max {m}, got {a}"

/-- The cause and its figures. -/
def inspect : FrameFault → String
  | tooShort e a => s!"TooShort \x7b expected: {e}, actual: {a} \x7d"
  | tooLarge m a => s!"TooLarge \x7b max: {m}, actual: {a} \x7d"

end FrameFault

/-- What can be wrong with a command. -/
inductive CommandFault where
  /-- No tag byte. -/
  | empty
  /-- A tag without a command. -/
  | unknownType (tag : UInt8)
  /-- A payload of another size than the command has. -/
  | payloadSize (command : String) (expected actual : Nat)
  /-- A payload above the command's limit. -/
  | payloadTooLarge (command : String) (max actual : Nat)
deriving DecidableEq

namespace CommandFault

/-- The fault in words. -/
def message : CommandFault → String
  | empty => "empty command payload"
  | unknownType t => s!"unknown server cmd type {t.toNat}"
  | payloadSize c e a => s!"{c} payload: expected {e} bytes, got {a}"
  | payloadTooLarge c m a => s!"{c} payload too large: max {m}, got {a}"

/-- The cause and its figures. -/
def inspect : CommandFault → String
  | empty => "Empty"
  | unknownType t => s!"UnknownType({t.toNat})"
  | payloadSize c e a => s!"PayloadSize \x7b cmd: \"{c}\", expected: {e}, actual: {a} \x7d"
  | payloadTooLarge c m a => s!"PayloadTooLarge \x7b cmd: \"{c}\", max: {m}, actual: {a} \x7d"

end CommandFault

/-- What can be wrong with a cookie. -/
inductive CookieFault where
  /-- It opens under no key. -/
  | unopened
  /-- It opens to a text of the wrong length. -/
  | invalidLength (expected actual : Nat)
deriving DecidableEq

namespace CookieFault

/-- The fault in words. -/
def message : CookieFault → String
  | unopened => "cookie could not be decrypted with any key"
  | invalidLength e a => s!"invalid cookie length: expected {e}, got {a}"

/-- The cause and its figures. -/
def inspect : CookieFault → String
  | unopened => "Decrypt"
  | invalidLength e a => s!"InvalidLength \x7b expected: {e}, actual: {a} \x7d"

end CookieFault

/-- Any fault of the wire formats. -/
inductive WireFault where
  | frame (fault : FrameFault)
  | command (fault : CommandFault)
  | cookie (fault : CookieFault)
  | cipher (fault : CipherFault)
deriving DecidableEq

namespace WireFault

/-- The fault in words, after the part of the format that it concerns. -/
def message : WireFault → String
  | frame f => s!"frame error: {f.message}"
  | command f => s!"command error: {f.message}"
  | cookie f => s!"cookie error: {f.message}"
  | cipher f => s!"crypto error: {f.message}"

/-- The part of the format, the cause and its figures. -/
def inspect : WireFault → String
  | frame f => s!"Frame({f.inspect})"
  | command f => s!"Command({f.inspect})"
  | cookie f => s!"Cookie({f.inspect})"
  | cipher f => s!"Crypto({f.inspect})"

end WireFault

end MeteredRelay
