import Mathlib.Data.List.Basic
import Mathlib.Tactic.Common
import MeteredRelay.Wire.PacketBuffer

/-!
# Readdressing a message in its buffer

A message that is passed on keeps its buffer, and only two words of the header are written over for
each receiver.  **`bytes_readdress`** says that what then leaves the buffer is a frame with the new
target and number, and the source and the data that the message came with.  The source and the data
stay in the buffer (`source_readdress`, `data_readdress`), so that this holds for every receiver in
turn.

All cells of a buffer together, filled or not, are the bytes of a frame (`cells_eq_encode`), and to
write over a word of the header is to put another value into a field of it (`cells_setTarget`,
`cells_setSource`, `cells_setSequence`).  What is read from the header and what leaves the buffer
follows from that, since the filled cells are a front piece of these (`bytes_of_cells`).
-/

namespace MeteredRelay

/-- A frame is known by its bytes. -/
lemma Frame.encode_inj {f g : Frame} (h : f.encode = g.encode) : f = g := by
  have hread := congrArg decode h
  rw [decode_encode, decode_encode] at hread
  exact Except.ok.inj hread

namespace PacketBuffer

variable {p : PacketBuffer} {f : Frame} {t s : PeerId} {n : UInt32} {a b c : Bytes} {i : Nat}
  {v w : UInt32}

/-! ## Writing over a piece -/

lemma overwrite_append (h : a.length = i) :
    overwrite (a ++ c) i b = a ++ (b ++ c.drop b.length) := by
  rw [overwrite, ← h, List.take_left, ← List.drop_drop, List.drop_left]

/-- A word that is written over another leaves what is before and behind that. -/
lemma overwrite_word (h : a.length = i) :
    overwrite (a ++ (Bytes.ofUInt32 w ++ c)) i (Bytes.ofUInt32 v) =
      a ++ (Bytes.ofUInt32 v ++ c) := by
  rw [overwrite_append h, List.drop_left' (by rw [Bytes.length_ofUInt32, Bytes.length_ofUInt32])]

/-- The header stays when something is written behind it. -/
lemma overwrite_data (f : Frame) (b : Bytes) :
    overwrite f.encode headerSize b =
      Frame.encode { f with data := b ++ f.data.drop b.length } := by
  have hheader : (Bytes.ofUInt32 f.target.value ++ (Bytes.ofUInt32 f.source.value ++
      Bytes.ofUInt32 f.sequence)).length = headerSize := by simp [headerSize]
  have hcells := overwrite_append (b := b) (c := f.data) hheader
  simpa only [Frame.encode, List.append_assoc] using hcells

/-! ## The cells as a frame -/

/-- The cells are the bytes of a frame, whose data are all the cells behind the header. -/
lemma cells_eq_encode (p : PacketBuffer) :
    p.cells = Frame.encode ⟨p.target, p.source, p.sequence, p.cells.drop headerSize⟩ := by
  have hlong : ¬ p.cells.length < headerSize := by
    rw [p.length_cells]
    decide
  exact (Frame.encode_of_decode (if_neg hlong)).symm

lemma eq_of_cells (h : p.cells = f.encode) :
    f = ⟨p.target, p.source, p.sequence, p.cells.drop headerSize⟩ :=
  Frame.encode_inj (h.symm.trans p.cells_eq_encode)

lemma cells_setTarget (h : p.cells = f.encode) :
    (p.setTarget t).cells = Frame.encode { f with target := t } := by
  show overwrite p.cells 0 _ = _
  rw [h]
  exact overwrite_word (a := []) rfl

lemma cells_setSource (h : p.cells = f.encode) :
    (p.setSource s).cells = Frame.encode { f with source := s } := by
  show overwrite p.cells 4 _ = _
  rw [h]
  exact overwrite_word (Bytes.length_ofUInt32 _)

lemma cells_setSequence (h : p.cells = f.encode) :
    (p.setSequence n).cells = Frame.encode { f with sequence := n } := by
  have hfront : (Bytes.ofUInt32 f.target.value ++ Bytes.ofUInt32 f.source.value).length = 8 := by
    rw [List.length_append, Bytes.length_ofUInt32, Bytes.length_ofUInt32]
  show overwrite p.cells 8 _ = _
  rw [h, Frame.encode, Frame.encode, ← List.append_assoc, ← List.append_assoc]
  exact overwrite_word hfront

lemma data_eq (p : PacketBuffer) :
    p.data = (p.cells.drop headerSize).take (p.size - headerSize) := by
  rw [data, bytes, List.drop_take]

lemma data_of_cells (h : p.cells = f.encode) : p.data = f.data.take (p.size - headerSize) := by
  rw [data_eq, eq_of_cells h]

/-- The filled cells are the bytes of the frame without the data that are not filled. -/
lemma bytes_of_cells (h : p.cells = f.encode) (hheader : p.hasHeader = true) :
    p.bytes = Frame.encode { f with data := f.data.take (p.size - headerSize) } := by
  have hsize : headerSize ≤ p.size := of_decide_eq_true hheader
  have hword (u : UInt32) {k : Nat} (hk : 4 ≤ k) : (Bytes.ofUInt32 u).take k = Bytes.ofUInt32 u :=
    List.take_of_length_le (by rwa [Bytes.length_ofUInt32])
  simp only [headerSize] at hsize
  rw [bytes, h, Frame.encode, Frame.encode]
  simp only [List.take_append, Bytes.length_ofUInt32, headerSize]
  rw [hword _ (by omega), hword _ (by omega), hword _ (by omega)]
  rfl

lemma eq_of_bytes (h : p.bytes = f.encode) (hheader : p.hasHeader = true) :
    f = ⟨p.target, p.source, p.sequence, p.data⟩ := by
  rw [bytes_of_cells p.cells_eq_encode hheader, ← data_eq] at h
  exact Frame.encode_inj h.symm

/-! ## Readdressing -/

/-- The message with another target and number. -/
def readdress (p : PacketBuffer) (t : PeerId) (n : UInt32) : PacketBuffer :=
  (p.setTarget t).setSequence n

@[simp] lemma size_readdress : (p.readdress t n).size = p.size := rfl

@[simp] lemma hasHeader_readdress : (p.readdress t n).hasHeader = p.hasHeader := rfl

/-- The source and the cells behind the header stay. -/
lemma cells_readdress : (p.readdress t n).cells =
    Frame.encode ⟨t, p.source, n, p.cells.drop headerSize⟩ :=
  cells_setSequence (cells_setTarget p.cells_eq_encode)

@[simp] lemma source_readdress : (p.readdress t n).source = p.source :=
  (congrArg Frame.source (eq_of_cells cells_readdress)).symm

@[simp] lemma data_readdress : (p.readdress t n).data = p.data := by
  rw [data_of_cells cells_readdress, size_readdress, ← data_eq]

/-- **A message that is readdressed leaves as a frame from the same source with the same data.** -/
theorem bytes_readdress (h : p.hasHeader = true) :
    (p.readdress t n).bytes = Frame.encode ⟨t, p.source, n, p.data⟩ := by
  rw [bytes_of_cells cells_readdress h, size_readdress, ← data_eq]

/-! ## Sizes of messages that were loaded -/

lemma size_load {q : PacketBuffer} {b : Bytes} (h : p.load b = .ok q) : q.size = b.length := by
  simp only [load] at h
  split at h
  · cases h
    rfl
  · contradiction

/-- A sealed message that opens is shorter than it came by what sealing adds. -/
lemma size_loadSealed {A : Aead} {k : Key} {message : Bytes}
    (h : (p.loadSealed A k message).2 = .ok ()) :
    (p.loadSealed A k message).1.size = message.length - sealOverhead := by
  simp only [loadSealed] at h ⊢
  split at h
  · rename_i t ht
    have hopened : t.length + sealOverhead = message.length ∧ t.length ≤ maxMessageSize := by
      simp only [Aead.openedWithin] at ht
      split at ht
      · contradiction
      · have := A.length_of_opened ht
        omega
    rw [dif_pos hopened.2]
    show t.length = _
    omega
  · split at h <;> contradiction

end PacketBuffer

end MeteredRelay
