import MeteredRelay.Wire.Fault
import MeteredRelay.Wire.PeerId

/-!
# Frames

A frame is one message: the peer it goes to, the peer it comes from, its sequence number on the
connection that carries it, and its data.  The header is twelve bytes, the three numbers most
significant byte first; all the rest is data.

**`decode_encode`** and **`encode_of_decode`** say that a byte string of at least twelve bytes and
a frame are the same thing.
-/

namespace MeteredRelay

/-- The bytes of a header. -/
def headerSize : Nat := 12

/-- The bytes that a message may have at most. -/
def maxMessageSize : Nat := 65536

/-- One message and its header. -/
structure Frame where
  /-- The peer it goes to, or the server. -/
  target : PeerId
  /-- The peer it comes from, or the server. -/
  source : PeerId
  /-- Its number on the connection that carries it. -/
  sequence : UInt32
  /-- What it carries. -/
  data : Bytes
deriving DecidableEq, Inhabited

namespace Frame

/-- The header and then the data. -/
def encode (f : Frame) : Bytes :=
  Bytes.ofUInt32 f.target.value ++ (Bytes.ofUInt32 f.source.value ++
    (Bytes.ofUInt32 f.sequence ++ f.data))

/-- The frame that a byte string holds, if it is as long as a header. -/
def decode (raw : Bytes) : Except FrameFault Frame :=
  if raw.length < headerSize then .error (.tooShort headerSize raw.length)
  else .ok
    { target := ⟨Bytes.toUInt32 raw⟩
      source := ⟨Bytes.toUInt32 (raw.drop 4)⟩
      sequence := Bytes.toUInt32 (raw.drop 8)
      data := raw.drop headerSize }

theorem length_encode (f : Frame) : f.encode.length = headerSize + f.data.length := by
  simp [encode, headerSize]
  omega

/-- A frame is read back from its bytes. -/
@[simp] theorem decode_encode (f : Frame) : decode f.encode = .ok f := by
  have h : ¬ f.encode.length < headerSize := by rw [length_encode]; omega
  rw [decode, if_neg h]
  have d (v : UInt32) (r : Bytes) : (Bytes.ofUInt32 v ++ r).drop 4 = r := by
    rw [← Bytes.length_ofUInt32 v, List.drop_left]
  have e8 : f.encode.drop 8 = (f.encode.drop 4).drop 4 := by rw [List.drop_drop]
  have e12 : f.encode.drop headerSize = (f.encode.drop 8).drop 4 := by rw [List.drop_drop]; rfl
  rw [e12, e8]
  simp [encode, d]

/-- A byte string that holds a frame is that frame's bytes. -/
theorem encode_of_decode {raw : Bytes} {f : Frame} (h : decode raw = .ok f) : f.encode = raw := by
  unfold decode at h
  split at h
  · contradiction
  · rename_i hl
    simp only [headerSize] at hl
    injection h with h
    subst h
    simp only [encode, headerSize]
    rw [Bytes.ofUInt32_toUInt32 (by omega), Bytes.ofUInt32_toUInt32 (by simp; omega),
      Bytes.ofUInt32_toUInt32 (by simp; omega)]
    have e8 : raw.drop 12 = (raw.drop 8).drop 4 := by rw [List.drop_drop]
    have e4 : raw.drop 8 = (raw.drop 4).drop 4 := by rw [List.drop_drop]
    rw [e8, List.take_append_drop, e4, List.take_append_drop, List.take_append_drop]

end Frame

end MeteredRelay
