import MeteredRelay.Bytes.Hex

/-!
# Peer ids

A peer is named by a 32-bit number.  Zero names the server itself: it is the target of a command
and the source of everything the server composes.
-/

namespace MeteredRelay

/-- The name of a peer. -/
structure PeerId where
  value : UInt32
deriving DecidableEq, Inhabited

namespace PeerId

/-- The id that names the server. -/
def server : PeerId := ⟨0⟩

/-- Whether this id names the server. -/
def isServer (p : PeerId) : Bool := p.value == 0

/-- The id after this one; the server's id is skipped when the numbers wrap. -/
def next (p : PeerId) : PeerId := if p.value + 1 = 0 then ⟨1⟩ else ⟨p.value + 1⟩

/-- Eight hexadecimal digits. -/
def text (p : PeerId) : String := paddedHexOfNat 8 p.value.toNat

/-- The text with which an id is shown inside larger records. -/
def inspect (p : PeerId) : String := s!"PeerId({p.text})"

/-- No peer comes after another as the server. -/
theorem next_ne_server (p : PeerId) : p.next ≠ server := by
  unfold next server
  split
  · decide
  · rename_i h
    exact fun e => h (PeerId.mk.inj e)

end PeerId

end MeteredRelay
