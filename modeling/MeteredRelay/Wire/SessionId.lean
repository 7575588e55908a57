import MeteredRelay.Bytes.Hex

/-!
# Session ids

A session is named by 32 bytes that are derived from secrets, so that only those who were given
the secrets can name it.
-/

namespace MeteredRelay

/-- The name of a session. -/
structure SessionId where
  octets : Octets 32
deriving DecidableEq, Inhabited

namespace SessionId

/-- The id of 32 zero bytes. -/
def zero : SessionId := ⟨Octets.zero 32⟩

/-- The bytes of an id. -/
def bytes (s : SessionId) : Bytes := s.octets.1

/-- Sixty-four hexadecimal digits. -/
def text (s : SessionId) : String := s.bytes.toHex

/-- The text with which an id is shown inside larger records: its first eight bytes. -/
def inspect (s : SessionId) : String := s!"SessionId({Bytes.toHex (s.bytes.take 8)})"

@[simp] theorem length_bytes (s : SessionId) : s.bytes.length = 32 := s.octets.2

end SessionId

end MeteredRelay
