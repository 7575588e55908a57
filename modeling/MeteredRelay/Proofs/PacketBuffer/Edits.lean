import MeteredRelay.Proofs.PacketBuffer.Contents

/-!
# Edits in the buffer and edits of a frame

A message that is passed on or answered is never taken out of its buffer: its header is overwritten,
its command replaced, and what earlier messages left in the cells behind it stays there.  A frame has
none of this.  It has four fields, and to edit it is to put another value into some of them.

The two come to the same.  A buffer and a frame agree if the filled cells are the bytes of the frame,
and every edit leads from a buffer and a frame that agree to two that agree, or is refused by both
(**`map_bytes_apply`**).  What could go wrong is that an edit reaches into a neighbouring field, or
that cells behind the message come into it when the message grows; so the frame is followed together
with the cells behind it (`cells_of_bytes`), and an edit of these is one of the frame that leaves the
rest (`bytes_of_filled`).

**`edits_alike`** follows from it by induction on the edits.
-/

namespace MeteredRelay

namespace PacketBuffer

/-! ## Edits -/

/-- An edit of a message. -/
inductive Edit where
  | target (t : PeerId)
  | source (s : PeerId)
  | sequence (n : UInt32)
  /-- The header becomes that of a message from the server. -/
  | replyHeader (t : PeerId) (n : UInt32)
  /-- What is behind the header becomes a command. -/
  | command (tag : CommandTag) (payload : Bytes)
  /-- The tag byte becomes another, and what is behind it stays. -/
  | tag (tag : CommandTag)
deriving DecidableEq

/-- Whether an edit leaves a message that fits into a buffer. -/
def Edit.Fits : Edit → Prop
  | .command _ payload => headerSize + 1 + payload.length ≤ maxMessageSize
  | _ => True

/-- An edit of a message in its buffer, or why it is refused. -/
def apply (p : PacketBuffer) : Edit → Except FrameFault PacketBuffer
  | .target t => .ok (p.setTarget t)
  | .source s => .ok (p.setSource s)
  | .sequence n => .ok (p.setSequence n)
  | .replyHeader t n => .ok (p.setReplyHeader t n)
  | .command tag payload => p.setCommand tag payload
  | .tag tag => .ok (p.setTag tag)

/-- The buffer after an edit, which changes nothing if it is refused. -/
def edit (p : PacketBuffer) (e : Edit) : PacketBuffer := (p.apply e).toOption.getD p

/-- The buffer after several edits. -/
def editAll (p : PacketBuffer) (es : List Edit) : PacketBuffer := es.foldl edit p

end PacketBuffer

namespace Frame

/-- The same edit of a frame, or why it is refused. -/
def apply (f : Frame) : PacketBuffer.Edit → Except FrameFault Frame
  | .target t => .ok { f with target := t }
  | .source s => .ok { f with source := s }
  | .sequence n => .ok { f with sequence := n }
  | .replyHeader t n => .ok { f with target := t, source := .server, sequence := n }
  | .command tag payload =>
    if headerSize + 1 + payload.length ≤ maxMessageSize then
      .ok { f with data := tag.byte :: payload }
    else .error (.tooLarge maxMessageSize (headerSize + 1 + payload.length))
  | .tag tag => .ok { f with data := tag.byte :: f.data.tail }

/-- The frame after an edit, which changes nothing if it is refused. -/
def edit (f : Frame) (e : PacketBuffer.Edit) : Frame := (f.apply e).toOption.getD f

/-- The frame after several edits. -/
def editAll (f : Frame) (es : List PacketBuffer.Edit) : Frame := es.foldl edit f

end Frame

namespace PacketBuffer

variable {p q : PacketBuffer} {f : Frame} {t s : PeerId} {n : UInt32} {tag : CommandTag}
  {payload : Bytes} {e : Edit}

/-! ## A buffer that agrees with a frame -/

/-- A buffer is read as a frame, field for field, and its filled cells are the bytes of the frame. -/
structure Shows (p : PacketBuffer) (f : Frame) : Prop where
  toFrame : p.toFrame = .ok f
  target : p.target = f.target
  source : p.source = f.source
  sequence : p.sequence = f.sequence
  data : p.data = f.data
  encode : f.encode = p.bytes

lemma size_of_bytes (h : p.bytes = f.encode) : p.size = headerSize + f.data.length := by
  rw [← length_bytes, h, Frame.length_encode]

/-- All cells are those of the frame and what lies behind it. -/
lemma cells_of_bytes (h : p.bytes = f.encode) :
    p.cells = Frame.encode { f with data := f.data ++ p.cells.drop p.size } := by
  have hcells : p.cells = f.encode ++ p.cells.drop p.size := by
    rw [← h, bytes, List.take_append_drop]
  simpa only [Frame.encode, List.append_assoc] using hcells

/-- Whatever lies behind a frame, the filled cells are its bytes. -/
lemma bytes_of_filled {rest : Bytes}
    (hcells : p.cells = Frame.encode { f with data := f.data ++ rest })
    (hsize : p.size = headerSize + f.data.length) : p.bytes = f.encode := by
  have hfilled : p.size - headerSize = f.data.length := by omega
  rw [bytes_of_cells hcells (decide_eq_true (by omega)), hfilled, List.take_left]

/-- To agree in the bytes is to agree in everything. -/
lemma shows_of_bytes (h : p.bytes = f.encode) : Shows p f := by
  have hframe : p.toFrame = .ok f := by rw [toFrame, h, Frame.decode_encode]
  obtain rfl := eq_of_bytes h (decide_eq_true (by rw [size_of_bytes h]; omega))
  exact ⟨hframe, rfl, rfl, rfl, rfl, h.symm⟩

/-! ## One edit -/

lemma bytes_setTarget (h : p.bytes = f.encode) :
    (p.setTarget t).bytes = Frame.encode { f with target := t } :=
  have hsize : p.size = _ := size_of_bytes h
  bytes_of_filled (cells_setTarget (cells_of_bytes h)) hsize

lemma bytes_setSource (h : p.bytes = f.encode) :
    (p.setSource s).bytes = Frame.encode { f with source := s } :=
  have hsize : p.size = _ := size_of_bytes h
  bytes_of_filled (cells_setSource (cells_of_bytes h)) hsize

lemma bytes_setSequence (h : p.bytes = f.encode) :
    (p.setSequence n).bytes = Frame.encode { f with sequence := n } :=
  have hsize : p.size = _ := size_of_bytes h
  bytes_of_filled (cells_setSequence (cells_of_bytes h)) hsize

lemma bytes_setCommand (h : p.bytes = f.encode) (hq : p.setCommand tag payload = .ok q) :
    q.bytes = Frame.encode { f with data := tag.byte :: payload } := by
  obtain ⟨hcells, hsize⟩ := cells_setCommand (cells_of_bytes h) hq
  refine bytes_of_filled hcells ?_
  rw [hsize, List.length_cons]
  omega

/-- A tag is written over the first byte of the data, or behind the header if there are none. -/
lemma bytes_setTag (h : p.bytes = f.encode) :
    (p.setTag tag).bytes = Frame.encode { f with data := tag.byte :: f.data.tail } := by
  have hcells : (p.setTag tag).cells = Frame.encode { f with
      data := tag.byte :: f.data.tail ++ (p.cells.drop p.size).drop (1 - f.data.length) } := by
    rw [cells_setTag (cells_of_bytes h), List.drop_append, List.drop_one]
    rfl
  have hsize := size_of_bytes h
  have hlength : (p.setTag tag).size = headerSize + (tag.byte :: f.data.tail).length := by
    show max p.size (headerSize + 1) = _
    rw [List.length_cons, List.length_tail]
    omega
  exact bytes_of_filled hcells hlength

/-- **An edit of the buffer is the edit of the frame.**  Both are refused for the same fault, or both
lead to the same bytes. -/
theorem map_bytes_apply (h : p.bytes = f.encode) (e : Edit) :
    (p.apply e).map bytes = (f.apply e).map Frame.encode := by
  cases e with
  | target t => exact congrArg Except.ok (bytes_setTarget h)
  | source s => exact congrArg Except.ok (bytes_setSource h)
  | sequence n => exact congrArg Except.ok (bytes_setSequence h)
  | replyHeader t n =>
      exact congrArg Except.ok (bytes_setSequence (bytes_setSource (bytes_setTarget h)))
  | command tag payload =>
      by_cases hroom : headerSize + 1 + payload.length ≤ maxMessageSize
      · obtain ⟨q, hq⟩ : ∃ q, p.setCommand tag payload = .ok q := ⟨_, dif_pos hroom⟩
        simp only [apply, Frame.apply, hq, if_pos hroom]
        exact congrArg Except.ok (bytes_setCommand h hq)
      · have hp : p.setCommand tag payload = _ := dif_neg hroom
        simp only [apply, Frame.apply, hp, if_neg hroom]
        rfl
  | tag tag => exact congrArg Except.ok (bytes_setTag h)

lemma apply_of_fits (p : PacketBuffer) (h : e.Fits) : ∃ q, p.apply e = .ok q := by
  cases e with
  | command tag payload => exact ⟨_, dif_pos h⟩
  | _ => exact ⟨_, rfl⟩

lemma apply_of_not_fits (p : PacketBuffer) (f : Frame) (h : ¬ e.Fits) :
    ∃ fault, p.apply e = .error fault ∧ f.apply e = .error fault := by
  cases e with
  | command tag payload => exact ⟨_, dif_neg h, if_neg h⟩
  | _ => exact absurd trivial h

/-! ## Several edits -/

lemma bytes_edit (h : p.bytes = f.encode) (e : Edit) : (p.edit e).bytes = (f.edit e).encode := by
  have hmap := map_bytes_apply h e
  rw [edit, Frame.edit]
  cases hp : p.apply e <;> cases hf : f.apply e <;> rw [hp, hf] at hmap
  · exact h
  · contradiction
  · contradiction
  · exact Except.ok.inj hmap

lemma bytes_editAll (h : p.bytes = f.encode) (es : List Edit) :
    (p.editAll es).bytes = (f.editAll es).encode := by
  induction es generalizing p f with
  | nil => exact h
  | cons e es ih => exact ih (bytes_edit h e)

lemma editAll_concat (p : PacketBuffer) (es : List Edit) (e : Edit) :
    p.editAll (es ++ [e]) = (p.editAll es).edit e := List.foldl_append

lemma edit_of_error {fault : FrameFault} (h : p.apply e = .error fault) : p.edit e = p := by
  rw [edit, h]
  rfl

/-- **A message is edited in its buffer as a frame that stands alone.**  Take a message with a header
that is no longer than a buffer, in any buffer that holds it.  After any edits the buffer shows the
frame that the same edits make of the frame in the message.  A further edit is refused only if it is
a command that does not fit, by the buffer as by the frame, and then the buffer stays as it is. -/
theorem edits_alike (b : Bytes) (hlow : headerSize ≤ b.length) (hhigh : b.length ≤ maxMessageSize) :
    (∀ p : PacketBuffer, ∃ q, p.load b = .ok q ∧ q.bytes = b) ∧
    ∃ f, Frame.decode b = .ok f ∧ ∀ p : PacketBuffer, p.bytes = b → ∀ es : List Edit,
      Shows (p.editAll es) (f.editAll es) ∧ ∀ e : Edit,
        (e.Fits → ∃ q, (p.editAll es).apply e = .ok q ∧ p.editAll (es ++ [e]) = q) ∧
        (¬ e.Fits →
          (∃ fault, (p.editAll es).apply e = .error fault ∧ (f.editAll es).apply e = .error fault) ∧
          p.editAll (es ++ [e]) = p.editAll es) := by
  have hload (p : PacketBuffer) : ∃ q, p.load b = .ok q ∧ q.bytes = b :=
    ⟨_, p.load_of_le hhigh, p.bytes_fill hhigh⟩
  obtain ⟨f, hf⟩ : ∃ f, Frame.decode b = .ok f := ⟨_, if_neg (Nat.not_lt.mpr hlow)⟩
  refine ⟨hload, f, hf, fun p hp es => ?_⟩
  have hbytes : p.bytes = f.encode := by rw [hp, Frame.encode_of_decode hf]
  refine ⟨shows_of_bytes (bytes_editAll hbytes es), fun e => ⟨fun hfits => ?_, fun hlong => ?_⟩⟩
  · obtain ⟨q, hq⟩ := apply_of_fits (p.editAll es) hfits
    refine ⟨q, hq, ?_⟩
    rw [editAll_concat, edit, hq]
    rfl
  · obtain ⟨fault, hrefused, hrefused'⟩ := apply_of_not_fits (p.editAll es) (f.editAll es) hlong
    rw [editAll_concat]
    exact ⟨⟨fault, hrefused, hrefused'⟩, edit_of_error hrefused⟩

/-- A ping of two letters is made an answer, a command that does not fit is refused, and the answer is
made shorter. -/
theorem edits_alike_shortened_answer :
    let b : Bytes := [0, 0, 0, 0, 0, 0, 0, 7, 0, 0, 0, 1, 1, 65, 66]
    let es : List Edit := [.tag .pong, .replyHeader ⟨7⟩ 5,
      .command .membersBitmap (List.replicate 65524 0), .command .pong [67]]
    ∃ q, empty.load b = .ok q ∧ (q.editAll es).toFrame = .ok ⟨⟨7⟩, .server, 5, [2, 67]⟩ := by
  intro b es
  obtain ⟨hload, f, hf, hshows⟩ := edits_alike b (by decide) (by decide)
  obtain ⟨q, hq, hbytes⟩ := hload empty
  obtain rfl : ⟨.server, ⟨7⟩, 1, [1, 65, 66]⟩ = f := Except.ok.inj hf
  refine ⟨q, hq, (hshows q hbytes es).1.toFrame.trans ?_⟩
  simp only [es, Frame.editAll, List.foldl_cons, List.foldl_nil, Frame.edit, Frame.apply,
    List.length_replicate]
  rfl

end PacketBuffer

end MeteredRelay
