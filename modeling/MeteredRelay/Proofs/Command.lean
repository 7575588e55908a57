import Mathlib.Data.List.Basic
import Mathlib.Tactic.Common
import MeteredRelay.Proofs.PacketBuffer.Contents

/-!
# Commands on the wire

A command is written by one function and read by another, and nothing but their agreement keeps
the two together.  `CommandTag.Admits` is the table of layouts that both follow.  What is written is
read back up to the name of its reply code (**`decode_payload`**): a number has two names if it is a
listed one, its own and `unknown` with that number, and the reader gives the first
(`Command.reread`).  Conversely every payload that a layout admits is that of a command
(`exists_payload`), so that reading and writing are inverse on what the table admits.

**`read_back_iff`** puts the frame around this: which commands survive the whole way, and that the
packet buffer finds the same tag and payload.  **`accepts_iff`** says what the reader accepts.  It is
the table with one exception: the payload of a leave is not looked at
(`leave_with_payload_is_accepted`).
-/

namespace MeteredRelay

/-! ## Layouts -/

namespace CommandTag

/-- The payloads that fit the layout of a kind of command. -/
def Admits (tag : CommandTag) (payload : Bytes) : Prop :=
  match tag with
  | ping | pong => payload.length ≤ maxPingSize
  | joinSession | membersBitmap | rotateCookies => True
  | joinSessionReply | leaveSessionReply | rotateCookiesReply | kickPeer => payload.length = 8
  | kickPeerReply => payload.length = 12
  | leaveSession => payload = []

instance (tag : CommandTag) (payload : Bytes) : Decidable (tag.Admits payload) :=
  match tag with
  | ping | pong => inferInstanceAs (Decidable (payload.length ≤ maxPingSize))
  | joinSession | membersBitmap | rotateCookies => inferInstanceAs (Decidable True)
  | joinSessionReply | leaveSessionReply | rotateCookiesReply | kickPeer =>
    inferInstanceAs (Decidable (payload.length = 8))
  | kickPeerReply => inferInstanceAs (Decidable (payload.length = 12))
  | leaveSession => inferInstanceAs (Decidable (payload = []))

end CommandTag

namespace Command

variable {tag : CommandTag} {payload : Bytes} {c : Command} {code : ReplyCode} {name : String}

/-- The reply code that a command carries, if it carries one. -/
def code? : Command → Option ReplyCode
  | joinSessionReply code | leaveSessionReply code | kickPeerReply _ code
  | rotateCookiesReply code => some code
  | _ => none

/-- The command as it is read back: its code has the name that the reader gives to the number. -/
def reread : Command → Command
  | joinSessionReply code => joinSessionReply (.ofWord code.word)
  | leaveSessionReply code => leaveSessionReply (.ofWord code.word)
  | kickPeerReply target code => kickPeerReply target (.ofWord code.word)
  | rotateCookiesReply code => rotateCookiesReply (.ofWord code.word)
  | c => c

@[simp] lemma tag_reread : c.reread.tag = c.tag := by cases c <;> rfl

@[simp] lemma payload_reread : c.reread.payload = c.payload := by
  cases c <;> simp [reread, payload, ReplyCode.word_ofWord]

/-- A command changes on its way only if its code is a listed one under its other name. -/
lemma reread_eq_self : c.reread = c ↔
    ∀ code ∈ c.code?, ∀ known ∈ ReplyCode.listed, code ≠ .unknown known.word := by
  cases c <;> simp [reread, code?, ReplyCode.ofWord_word]

/-- Only a ping or a pong can be written with a payload that its layout does not admit. -/
lemma admits_payload :
    c.tag.Admits c.payload ↔ ∀ d, c = ping d ∨ c = pong d → d.length ≤ maxPingSize := by
  cases c <;> simp [CommandTag.Admits, tag, payload]

/-! ## What is written is read -/

lemma checkSize_eq_ok_iff {size : Nat} :
    checkSize name size payload = .ok () ↔ payload.length = size := by
  unfold checkSize
  split <;> simp_all

lemma checkPing_eq_ok_iff : checkPing payload = .ok () ↔ payload.length ≤ maxPingSize := by
  unfold checkPing
  split <;> simp_all

lemma decodeCode_ofUInt64 :
    decodeCode name (Bytes.ofUInt64 code.word) = .ok (.ofWord code.word) := by
  rw [decodeCode, checkSize_eq_ok_iff.mpr (Bytes.length_ofUInt64 _), Bytes.toUInt64_ofUInt64]
  rfl

/-- **A command with a payload that its layout admits is read back**, up to the name of its
code. -/
theorem decode_payload (h : c.tag.Admits c.payload) : decode c.tag c.payload = .ok c.reread := by
  have hsecond (v : UInt32) (rest : Bytes) : (Bytes.ofUInt32 v ++ rest).drop 4 = rest :=
    List.drop_left' (Bytes.length_ofUInt32 v)
  cases c with
  | joinSession _ | leaveSession | membersBitmap _ | rotateCookies _ => rfl
  | ping _ | pong _ =>
    rw [tag, decode, checkPing_eq_ok_iff.mpr h]
    rfl
  | joinSessionReply _ | leaveSessionReply _ | rotateCookiesReply _ =>
    rw [tag, decode, payload, decodeCode_ofUInt64]
    rfl
  | kickPeer target banSeconds =>
    rw [tag, decode, decodeKick, checkSize_eq_ok_iff.mpr h, payload, hsecond,
      Bytes.toUInt32_ofUInt32_append, Bytes.toUInt32_ofUInt32]
    rfl
  | kickPeerReply target code =>
    rw [tag, decode, checkSize_eq_ok_iff.mpr h, payload, hsecond, Bytes.toUInt32_ofUInt32_append,
      Bytes.toUInt64_ofUInt64]
    rfl

/-! ## What is read was written -/

lemma ofUInt64_word_ofWord {b : Bytes} (h : b.length = 8) :
    Bytes.ofUInt64 (ReplyCode.ofWord (Bytes.toUInt64 b)).word = b := by
  rw [ReplyCode.word_ofWord, Bytes.ofUInt64_toUInt64 (Nat.le_of_eq h.symm),
    List.take_of_length_le (Nat.le_of_eq h)]

/-- Every payload that a layout admits is that of a command. -/
lemma exists_payload (h : tag.Admits payload) :
    ∃ c : Command, c.tag = tag ∧ c.payload = payload := by
  have hword (hfour : 4 ≤ payload.length) :
      Bytes.ofUInt32 (Bytes.toUInt32 payload) ++ payload.drop 4 = payload := by
    rw [Bytes.ofUInt32_toUInt32 hfour, List.take_append_drop]
  cases tag with
  | ping => exact ⟨ping payload, rfl, rfl⟩
  | pong => exact ⟨pong payload, rfl, rfl⟩
  | joinSession => exact ⟨joinSession payload, rfl, rfl⟩
  | membersBitmap => exact ⟨membersBitmap payload, rfl, rfl⟩
  | rotateCookies => exact ⟨rotateCookies payload, rfl, rfl⟩
  | leaveSession => exact ⟨leaveSession, rfl, h.symm⟩
  | joinSessionReply => exact ⟨joinSessionReply _, rfl, ofUInt64_word_ofWord h⟩
  | leaveSessionReply => exact ⟨leaveSessionReply _, rfl, ofUInt64_word_ofWord h⟩
  | rotateCookiesReply => exact ⟨rotateCookiesReply _, rfl, ofUInt64_word_ofWord h⟩
  | kickPeer =>
    have hlength : payload.length = 8 := h
    have hrest : (payload.drop 4).length = 4 := by rw [List.length_drop]; omega
    refine ⟨kickPeer ⟨Bytes.toUInt32 payload⟩ (Bytes.toUInt32 (payload.drop 4)), rfl, ?_⟩
    rw [Command.payload, Bytes.ofUInt32_toUInt32 (Nat.le_of_eq hrest.symm),
      List.take_of_length_le (Nat.le_of_eq hrest), hword (by omega)]
  | kickPeerReply =>
    have hlength : payload.length = 12 := h
    have hrest : (payload.drop 4).length = 8 := by rw [List.length_drop]; omega
    refine ⟨kickPeerReply ⟨Bytes.toUInt32 payload⟩
      (.ofWord (Bytes.toUInt64 (payload.drop 4))), rfl, ?_⟩
    rw [Command.payload, ofUInt64_word_ofWord hrest, hword (by omega)]

/-- An admitted payload is read as a command of its kind that has this payload. -/
lemma exists_decode (h : tag.Admits payload) :
    ∃ c, decode tag payload = .ok c ∧ c.tag = tag ∧ c.payload = payload := by
  obtain ⟨c, rfl, rfl⟩ := exists_payload h
  exact ⟨c.reread, decode_payload h, tag_reread, payload_reread⟩

/-! ## What is refused -/

lemma ok_of_bind {α β : Type} {x : Except CommandFault α} {f : α → Except CommandFault β} {b : β}
    (h : x >>= f = .ok b) : ∃ a, x = .ok a ∧ f a = .ok b := by
  cases x with
  | error _ => contradiction
  | ok a => exact ⟨a, rfl, h⟩

/-- Only a leave is read from a payload that its layout does not admit. -/
lemma admits_of_decode (h : decode tag payload = .ok c) :
    tag.Admits payload ∨ tag = .leaveSession := by
  cases tag with
  | leaveSession => exact .inr rfl
  | joinSession | membersBitmap | rotateCookies => exact .inl trivial
  | ping | pong =>
    obtain ⟨⟨⟩, hsize, -⟩ := ok_of_bind h
    exact .inl (checkPing_eq_ok_iff.mp hsize)
  | joinSessionReply | leaveSessionReply | rotateCookiesReply | kickPeer =>
    obtain ⟨_, hread, -⟩ := ok_of_bind h
    obtain ⟨⟨⟩, hsize, -⟩ := ok_of_bind hread
    exact .inl (checkSize_eq_ok_iff.mp hsize)
  | kickPeerReply =>
    obtain ⟨⟨⟩, hsize, -⟩ := ok_of_bind h
    exact .inl (checkSize_eq_ok_iff.mp hsize)

/-- What is accepted is the payload of the command that it is read as, except for a leave with a
payload. -/
lemma payload_of_decode (h : decode tag payload = .ok c) :
    c.tag = tag ∧ (c.payload = payload ↔ tag.Admits payload) := by
  by_cases hadmits : tag.Admits payload
  · obtain ⟨d, hd, htag, hpayload⟩ := exists_decode hadmits
    obtain rfl := Except.ok.inj (h.symm.trans hd)
    exact ⟨htag, iff_of_true hpayload hadmits⟩
  · obtain rfl := (admits_of_decode h).resolve_left hadmits
    obtain rfl : leaveSession = c := Except.ok.inj h
    exact ⟨rfl, eq_comm⟩

/-- **The reader accepts what the layouts admit, and a leave with any payload.**  What it accepts is
the payload of the command that it gives, except for such a leave. -/
theorem accepts_iff (tag : CommandTag) (payload : Bytes) :
    ((∃ c, decode tag payload = .ok c) ↔ tag.Admits payload ∨ tag = .leaveSession) ∧
      ∀ c, decode tag payload = .ok c →
        c.tag = tag ∧ (c.payload = payload ↔ tag.Admits payload) := by
  refine ⟨⟨fun ⟨c, hread⟩ => admits_of_decode hread, ?_⟩, fun c => payload_of_decode⟩
  rintro (hadmits | rfl)
  · obtain ⟨c, hread, -⟩ := exists_decode hadmits
    exact ⟨c, hread⟩
  · exact ⟨leaveSession, rfl⟩

/-- A leave is read from a byte that its layout does not admit, and is written without it. -/
theorem leave_with_payload_is_accepted :
    decode .leaveSession [0] = .ok leaveSession ∧ ¬ CommandTag.leaveSession.Admits [0] ∧
      leaveSession.payload ≠ [0] :=
  ⟨rfl, by decide, by decide⟩

/-! ## The whole way -/

lemma decode_eq_self : decode c.tag c.payload = .ok c ↔ c.tag.Admits c.payload ∧ c.reread = c := by
  constructor
  · intro hread
    -- even a leave, for the payload is the one that it is written with
    have hadmits : c.tag.Admits c.payload := (payload_of_decode hread).2.mp rfl
    exact ⟨hadmits, Except.ok.inj ((decode_payload hadmits).symm.trans hread)⟩
  · rintro ⟨hadmits, hreread⟩
    rw [decode_payload hadmits, hreread]

lemma ofFrame_toFrame (c : Command) (target source : PeerId) (sequence : UInt32) :
    ofFrame (c.toFrame target source sequence) = decode c.tag c.payload := by
  simp only [ofFrame, ofData, toFrame, split_data]
  rfl

/-- **A command is read back from its frame** exactly when it is no overlong ping or pong and its
code is not an `unknown` with the number of a listed one.  The header is read back in any case, and
the packet buffer finds the tag and the payload that were written, whatever it held before. -/
theorem read_back_iff (c : Command) (target source : PeerId) (sequence : UInt32) :
    (∃ f, Frame.decode (c.toFrame target source sequence).encode = .ok f ∧
      f.target = target ∧ f.source = source ∧ f.sequence = sequence ∧
      (ofFrame f = .ok c ↔
        (∀ d, c = ping d ∨ c = pong d → d.length ≤ maxPingSize) ∧
          ∀ code ∈ c.code?, ∀ known ∈ ReplyCode.listed, code ≠ .unknown known.word)) ∧
    ∀ p : PacketBuffer, (c.toFrame target source sequence).encode.length ≤ maxMessageSize →
      ∃ q, p.load (c.toFrame target source sequence).encode = .ok q ∧
        q.command = .ok (c.tag, c.payload) := by
  constructor
  · refine ⟨c.toFrame target source sequence, Frame.decode_encode _, rfl, rfl, rfl, ?_⟩
    rw [ofFrame_toFrame, decode_eq_self, admits_payload, reread_eq_self]
  · intro p hsize
    refine ⟨_, PacketBuffer.load_of_le p hsize, ?_⟩
    have hframe : (p.fill _ hsize).toFrame = .ok (c.toFrame target source sequence) := by
      rw [PacketBuffer.toFrame, PacketBuffer.bytes_fill, Frame.decode_encode]
    rw [PacketBuffer.command, PacketBuffer.data_of_toFrame hframe]
    exact split_data c

end Command

end MeteredRelay
