import MeteredRelay.Cipher.Aead
import MeteredRelay.Wire.Command

/-!
# The packet buffer

A relayed message is not rebuilt for every receiver: it lies in a buffer as large as the largest
message, and its header fields are overwritten in place.  The buffer keeps a fixed number of cells
and the count of those that are filled; what earlier messages left in the cells behind stays
there.  Header fields are read from the first twelve cells whatever the count is, so a caller asks
`hasHeader` first.

`PacketBuffer.toFrame` reads the filled cells as a frame.
-/

namespace MeteredRelay

/-- A message in a buffer of `maxMessageSize` cells. -/
structure PacketBuffer where
  /-- Every cell, filled or not. -/
  cells : Bytes
  /-- How many cells, from the first on, are filled. -/
  size : Nat
  length_cells : cells.length = maxMessageSize
  size_le : size ≤ maxMessageSize
deriving DecidableEq

namespace PacketBuffer

/-- A buffer of zeros with nothing in it. -/
def empty : PacketBuffer where
  cells := List.replicate maxMessageSize 0
  size := 0
  length_cells := List.length_replicate
  size_le := Nat.zero_le _

instance : Inhabited PacketBuffer := ⟨empty⟩

/-- `b` written over `cells`, beginning at cell `at_`. -/
def overwrite (cells : Bytes) (at_ : Nat) (b : Bytes) : Bytes :=
  cells.take at_ ++ (b ++ cells.drop (at_ + b.length))

theorem length_overwrite {cells b : Bytes} {at_ : Nat} (h : at_ + b.length ≤ cells.length) :
    (overwrite cells at_ b).length = cells.length := by
  simp only [overwrite, List.length_append, List.length_take, List.length_drop]
  omega

/-- Whether the filled cells hold a header. -/
def hasHeader (p : PacketBuffer) : Bool := headerSize ≤ p.size

/-- The target in the header cells. -/
def target (p : PacketBuffer) : PeerId := ⟨Bytes.toUInt32 p.cells⟩

/-- The source in the header cells. -/
def source (p : PacketBuffer) : PeerId := ⟨Bytes.toUInt32 (p.cells.drop 4)⟩

/-- The sequence number in the header cells. -/
def sequence (p : PacketBuffer) : UInt32 := Bytes.toUInt32 (p.cells.drop 8)

/-- The filled cells. -/
def bytes (p : PacketBuffer) : Bytes := p.cells.take p.size

/-- The filled cells behind the header. -/
def data (p : PacketBuffer) : Bytes := p.bytes.drop headerSize

/-- Writes a word over the header cells from `at_` on. -/
def setWord (p : PacketBuffer) (at_ : Nat) (h : at_ + 4 ≤ maxMessageSize) (v : UInt32) :
    PacketBuffer :=
  { p with
    cells := overwrite p.cells at_ (Bytes.ofUInt32 v)
    length_cells := by rw [length_overwrite (by simp [p.length_cells, h]), p.length_cells] }

/-- Sets the target. -/
def setTarget (p : PacketBuffer) (t : PeerId) : PacketBuffer := p.setWord 0 (by decide) t.value

/-- Sets the source. -/
def setSource (p : PacketBuffer) (s : PeerId) : PacketBuffer := p.setWord 4 (by decide) s.value

/-- Sets the sequence number. -/
def setSequence (p : PacketBuffer) (n : UInt32) : PacketBuffer := p.setWord 8 (by decide) n

/-- Makes the header that of a message from the server. -/
def setReplyHeader (p : PacketBuffer) (t : PeerId) (n : UInt32) : PacketBuffer :=
  ((p.setTarget t).setSource PeerId.server).setSequence n

/-- Writes over the first cells and fills exactly those, whatever they hold. -/
def fill (p : PacketBuffer) (b : Bytes) (h : b.length ≤ maxMessageSize) : PacketBuffer where
  cells := overwrite p.cells 0 b
  size := b.length
  length_cells := by rw [length_overwrite (by simpa [p.length_cells] using h), p.length_cells]
  size_le := h

/-- Loads a whole message. -/
def load (p : PacketBuffer) (b : Bytes) : Except FrameFault PacketBuffer :=
  if h : b.length ≤ maxMessageSize then .ok (p.fill b h)
  else .error (.tooLarge maxMessageSize b.length)

/-- Replaces what is behind the header by a command. -/
def setCommand (p : PacketBuffer) (tag : CommandTag) (payload : Bytes) :
    Except FrameFault PacketBuffer :=
  if h : headerSize + 1 + payload.length ≤ maxMessageSize then
    .ok
      { cells := overwrite p.cells headerSize (tag.byte :: payload)
        size := headerSize + 1 + payload.length
        length_cells := by
          rw [length_overwrite (by simp [p.length_cells]; omega), p.length_cells]
        size_le := h }
  else .error (.tooLarge maxMessageSize (headerSize + 1 + payload.length))

/-- Replaces the tag byte and keeps the payload behind it. -/
def setTag (p : PacketBuffer) (tag : CommandTag) : PacketBuffer where
  cells := overwrite p.cells headerSize [tag.byte]
  size := max p.size (headerSize + 1)
  length_cells := by
    rw [length_overwrite (by simp [p.length_cells]; decide), p.length_cells]
  size_le := Nat.max_le.mpr ⟨p.size_le, by decide⟩

/-- A buffer with nothing in it and these first cells. -/
def spoil (p : PacketBuffer) (b : Bytes) (h : b.length ≤ maxMessageSize) : PacketBuffer :=
  { p.fill b h with size := 0, size_le := Nat.zero_le _ }

/-- A buffer with nothing in it and its cells as they are. -/
def clear (p : PacketBuffer) : PacketBuffer := { p with size := 0, size_le := Nat.zero_le _ }

/-- Opens a sealed message into the buffer.  A message without room for nonce and tag, or too long,
leaves the cells alone; one that is not authentic leaves its cipher text in them.  In each of these
cases nothing is filled. -/
def loadSealed (A : Aead) (p : PacketBuffer) (k : Key) (message : Bytes) :
    PacketBuffer × Except CipherFault Unit :=
  match A.openedWithin maxMessageSize k [] message with
  | .ok t => if h : t.length ≤ maxMessageSize then (p.fill t h, .ok ()) else (p.clear, .ok ())
  | .error e =>
    if h : e = .decryptionFailed ∧ (Aead.body message).length ≤ maxMessageSize then
      (p.spoil (Aead.body message) h.2, .error e)
    else (p.clear, .error e)

/-- The tag and payload of the command in the buffer. -/
def command (p : PacketBuffer) : Except CommandFault (CommandTag × Bytes) := Command.split p.data

/-- The message in the buffer, on its own. -/
def toFrame (p : PacketBuffer) : Except FrameFault Frame := Frame.decode p.bytes

/-- The count and the header fields. -/
def inspect (p : PacketBuffer) : String :=
  s!"FramedPktBuf \x7b len: {p.size}, target: {p.target.inspect}, source: {p.source.inspect}, " ++
    s!"sequence: {p.sequence.toNat} \x7d"

end PacketBuffer

end MeteredRelay
