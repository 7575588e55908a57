import MeteredRelay.Proofs.PacketBuffer

/-!
# What lies behind a message is not read

A buffer keeps what earlier messages left in it behind the present one.  As long as the present
message has a header, none of this is seen: header fields and command are those of its bytes
(`source_congr`, `target_congr`, `sequence_congr`, `command_congr`), and so is what leaves the
buffer when it is readdressed.  A reply shows even less of what was there: **`bytes_reply`** says
that it is the frame of its command, whatever it was written over.

A message that is sealed under the key with which it is opened comes out as it went in
(`loadSealed_sealed`), as does one that was not sealed (`load_of_le`).
-/

namespace MeteredRelay

namespace PacketBuffer

variable {p q : PacketBuffer} {f : Frame} {t : PeerId} {n : UInt32} {tag : CommandTag}
  {payload message : Bytes}

/-! ## Reading -/

lemma length_bytes (p : PacketBuffer) : p.bytes.length = p.size := by
  rw [bytes, List.length_take, p.length_cells, Nat.min_eq_left p.size_le]

/-- Messages with the same bytes have the same size. -/
lemma size_congr (h : p.bytes = q.bytes) : p.size = q.size := by
  rw [← length_bytes, h, length_bytes]

lemma hasHeader_congr (h : p.bytes = q.bytes) : p.hasHeader = q.hasHeader := by
  rw [hasHeader, size_congr h, hasHeader]

lemma data_congr (h : p.bytes = q.bytes) : p.data = q.data := by rw [data, h, data]

lemma command_congr (h : p.bytes = q.bytes) : p.command = q.command := by
  rw [command, data_congr h, command]

/-- The data are those of the frame in the buffer. -/
lemma data_of_toFrame {f : Frame} (h : p.toFrame = .ok f) : p.data = f.data := by
  unfold toFrame Frame.decode at h
  split at h
  · contradiction
  · obtain rfl := Except.ok.inj h
    rfl

/-- The header and the data are those of the message. -/
lemma fields_congr (h : p.bytes = q.bytes) (hheader : p.hasHeader = true) :
    (⟨p.target, p.source, p.sequence, p.data⟩ : Frame) =
      ⟨q.target, q.source, q.sequence, q.data⟩ := by
  have hframe := bytes_of_cells p.cells_eq_encode hheader
  rw [← data_eq, h] at hframe
  exact eq_of_bytes hframe (by rw [← hasHeader_congr h, hheader])

lemma target_congr (h : p.bytes = q.bytes) (hheader : p.hasHeader = true) : p.target = q.target :=
  congrArg Frame.target (fields_congr h hheader)

lemma source_congr (h : p.bytes = q.bytes) (hheader : p.hasHeader = true) : p.source = q.source :=
  congrArg Frame.source (fields_congr h hheader)

lemma sequence_congr (h : p.bytes = q.bytes) (hheader : p.hasHeader = true) :
    p.sequence = q.sequence :=
  congrArg Frame.sequence (fields_congr h hheader)

/-- A new target and number make the same message of both. -/
lemma bytes_readdress_congr (h : p.bytes = q.bytes) (hheader : p.hasHeader = true) (t : PeerId)
    (n : UInt32) : (p.readdress t n).bytes = (q.readdress t n).bytes := by
  rw [bytes_readdress hheader, bytes_readdress (by rw [← hasHeader_congr h, hheader]),
    source_congr h hheader, data_congr h]

/-! ## Replying -/

@[simp] lemma source_setSource (p : PacketBuffer) (s : PeerId) : (p.setSource s).source = s :=
  (congrArg Frame.source (eq_of_cells (cells_setSource p.cells_eq_encode))).symm

@[simp] lemma data_setSource (p : PacketBuffer) (s : PeerId) : (p.setSource s).data = p.data := by
  have hsize : (p.setSource s).size = p.size := rfl
  rw [data_of_cells (cells_setSource p.cells_eq_encode), hsize, ← data_eq]

/-- **A reply is the frame of its data**, from the server, whatever header it was written over. -/
theorem bytes_reply (hheader : p.hasHeader = true) (t : PeerId) (n : UInt32) :
    (p.setReplyHeader t n).bytes = Frame.encode ⟨t, PeerId.server, n, p.data⟩ := by
  have hcells : (p.setReplyHeader t n).cells =
      Frame.encode ⟨t, PeerId.server, n, p.cells.drop headerSize⟩ :=
    cells_setSequence (cells_setSource (cells_setTarget p.cells_eq_encode))
  have hsize : (p.setReplyHeader t n).size = p.size := rfl
  rw [bytes_of_cells hcells hheader, hsize, ← data_eq]

lemma cells_setCommand (h : p.cells = f.encode) (hq : p.setCommand tag payload = .ok q) :
    q.cells = Frame.encode
        { f with data := tag.byte :: payload ++ f.data.drop (payload.length + 1) } ∧
      q.size = headerSize + 1 + payload.length := by
  unfold setCommand at hq
  split at hq
  · obtain rfl := Except.ok.inj hq
    refine ⟨?_, rfl⟩
    show overwrite p.cells headerSize (tag.byte :: payload) = _
    rw [h, overwrite_data]
    rfl
  · contradiction

/-- A command is set behind a header, whatever was there before. -/
lemma of_setCommand (h : p.setCommand tag payload = .ok q) :
    q.hasHeader = true ∧ q.data = tag.byte :: payload := by
  obtain ⟨hcells, hsize⟩ := cells_setCommand p.cells_eq_encode h
  have hlength : q.size - headerSize = (tag.byte :: payload).length := by
    rw [hsize, List.length_cons]
    omega
  refine ⟨decide_eq_true (by omega), ?_⟩
  rw [data_of_cells hcells, hlength, List.take_left]

lemma setCommand_eq (p : PacketBuffer) (tag : CommandTag) (h : payload.length ≤ maxPingSize) :
    ∃ c, p.setCommand tag payload = .ok c ∧ c.hasHeader = true ∧ c.data = tag.byte :: payload := by
  simp only [maxPingSize] at h
  have hroom : headerSize + 1 + payload.length ≤ maxMessageSize := by
    simp only [headerSize, maxMessageSize]
    omega
  exact ⟨_, dif_pos hroom, of_setCommand (dif_pos hroom)⟩

/-- Whether a command fits does not depend on what it is written over, nor does what is then read. -/
lemma setCommand_alike (p q : PacketBuffer) (tag : CommandTag) (payload : Bytes) :
    (∃ e, p.setCommand tag payload = .error e ∧ q.setCommand tag payload = .error e) ∨
      ∃ c d, p.setCommand tag payload = .ok c ∧ q.setCommand tag payload = .ok d ∧
        c.hasHeader = true ∧ d.hasHeader = true ∧ c.data = d.data := by
  by_cases hroom : headerSize + 1 + payload.length ≤ maxMessageSize
  · have hp : p.setCommand tag payload = .ok _ := dif_pos hroom
    have hq : q.setCommand tag payload = .ok _ := dif_pos hroom
    obtain ⟨hheader, hdata⟩ := of_setCommand hp
    obtain ⟨hheader', hdata'⟩ := of_setCommand hq
    exact .inr ⟨_, _, hp, hq, hheader, hheader', hdata.trans hdata'.symm⟩
  · exact .inl ⟨_, dif_neg hroom, dif_neg hroom⟩

lemma cells_setTag (h : p.cells = f.encode) :
    (p.setTag tag).cells = Frame.encode { f with data := tag.byte :: f.data.drop 1 } := by
  show overwrite p.cells headerSize [tag.byte] = _
  rw [h, overwrite_data]
  rfl

/-- Behind another tag the payload stays. -/
lemma setTag_eq {b : UInt8} (h : p.data = b :: payload) (tag : CommandTag) :
    (p.setTag tag).hasHeader = true ∧ (p.setTag tag).data = tag.byte :: payload := by
  have hdata := p.data_eq
  rw [h] at hdata
  obtain ⟨k, hk⟩ : ∃ k, p.size - headerSize = k + 1 := by
    refine Nat.exists_eq_add_one.mpr (Nat.pos_of_ne_zero fun hzero => ?_)
    rw [hzero, List.take_zero] at hdata
    contradiction
  have hsize : (p.setTag tag).size = p.size := by
    show max p.size (headerSize + 1) = p.size
    omega
  have hrest : ((p.cells.drop headerSize).drop 1).take k = payload := by
    have hdrop := congrArg (List.drop 1) hdata
    rw [hk, List.drop_take, Nat.add_sub_cancel] at hdrop
    exact hdrop.symm
  refine ⟨decide_eq_true (by omega), ?_⟩
  rw [data_of_cells (cells_setTag p.cells_eq_encode), hsize, hk, List.take_succ_cons, hrest]

/-! ## Loading -/

lemma load_of_le (p : PacketBuffer) (h : message.length ≤ maxMessageSize) :
    p.load message = .ok (p.fill message h) := dif_pos h

@[simp] lemma bytes_fill (p : PacketBuffer) (h : message.length ≤ maxMessageSize) :
    (p.fill message h).bytes = message := by
  rw [bytes]
  show (overwrite p.cells 0 message).take message.length = message
  rw [overwrite, List.take_zero, List.nil_append, List.take_left]

/-- A message opens under the key with which it was sealed. -/
lemma loadSealed_sealed {A : Aead} (hA : A.Opens) (p : PacketBuffer) (k : Key) (nonce : Nonce)
    (h : message.length ≤ maxMessageSize) :
    p.loadSealed A k (A.sealed k nonce [] message) = (p.fill message h, .ok ()) := by
  have hroom : ¬ (sealOverhead ≤ (A.sealed k nonce [] message).length ∧
      maxMessageSize < (A.sealed k nonce [] message).length - sealOverhead) := by
    rw [A.length_sealed]
    omega
  have hopened : A.openedWithin maxMessageSize k [] (A.sealed k nonce [] message) =
      .ok message := by
    rw [Aead.openedWithin, if_neg hroom, A.opened_sealed hA]
  simp only [loadSealed, hopened, dif_pos h]

/-- What is read after a sealed message was opened, or not, does not depend on what was there. -/
lemma loadSealed_alike (A : Aead) (p q : PacketBuffer) (k : Key) (message : Bytes) :
    (p.loadSealed A k message).2 = (q.loadSealed A k message).2 ∧
      (p.loadSealed A k message).1.bytes = (q.loadSealed A k message).1.bytes := by
  simp only [loadSealed]
  split
  · split
    · exact ⟨rfl, by rw [bytes_fill, bytes_fill]⟩
    · exact ⟨rfl, rfl⟩
  · split <;> exact ⟨rfl, rfl⟩

/-- What a sealed message leaves in the buffer when it opens is what it opens to. -/
lemma opened_of_loadSealed {A : Aead} {p : PacketBuffer} {k : Key}
    (h : (p.loadSealed A k message).2 = .ok ()) :
    A.opened k [] message = .ok (p.loadSealed A k message).1.bytes := by
  simp only [loadSealed] at h ⊢
  split at h
  · rename_i t ht
    obtain ⟨hopened, hle⟩ : A.opened k [] message = .ok t ∧ t.length ≤ maxMessageSize := by
      simp only [Aead.openedWithin] at ht
      split at ht
      · contradiction
      · have hlength := A.length_of_opened ht
        exact ⟨ht, by omega⟩
    rw [dif_pos hle, bytes_fill, hopened]
  · split at h <;> contradiction

end PacketBuffer

end MeteredRelay
