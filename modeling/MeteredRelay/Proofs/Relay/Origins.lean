import MeteredRelay.Proofs.PacketBuffer.Contents
import MeteredRelay.Proofs.Relay.Handshake.Keys
import MeteredRelay.Proofs.Relay.Mirror.Commands
import MeteredRelay.Proofs.Relay.Orderly
import MeteredRelay.Proofs.Relay.Reading

/-!
# Nobody speaks for the server

The source of a message tells a client who it is from, and zero stands for the server.  Nothing
refuses a client that calls itself zero.  But a message to the server whose source is the server is
one whose source is its target, so it is not taken for a command, and nobody can join under that
name (`Named`, **`named_step`**); and a message is passed on only for somebody who is bound.

What is handed out is followed by `Sends`.  A message of the server is written over a message of a
client, in the same buffer, and a message that is passed on keeps source and data of the one that
came.  So every parcel is `Genuine` (**`sends_step`**): an echo, a message that the server composed
and that has the source zero, or one that a client sent, under a name that is bound on its
connection.  **`source_of_sent`** says what this means for the messages that go out.
-/

namespace MeteredRelay

namespace Parcel

/-- Whose message a parcel holds.  `heard` tells which messages may be passed on, and for which
connection. -/
inductive Holds (heard : LinkNo → PacketBuffer → Prop) (parcel : Parcel) : Prop where
  | echo (horigin : parcel.origin = .echo)
  | composed {c : Command} {target : PeerId} {number : UInt32} (horigin : parcel.origin = .server)
      (hc : c.Composed) (hmessage : parcel.message = (c.toFrame target .server number).encode)
  | passed {sender : LinkNo} {p : PacketBuffer} {target : PeerId} {number : UInt32}
      (horigin : parcel.origin = .relayed sender) (hheard : heard sender p)
      (hmessage : parcel.message = Frame.encode ⟨target, p.source, number, p.data⟩)

/-- A parcel holds a message of the server or one that may be passed on, and its datagram is that
message, or the message under a seal. -/
structure Genuine (A : Aead) (heard : LinkNo → PacketBuffer → Prop) (parcel : Parcel) : Prop where
  holds : parcel.Holds heard
  datagram : ∀ wire, parcel.outcome = .ok wire →
    wire = parcel.message ∨ ∃ k nonce, wire = A.sealed k nonce [] parcel.message

end Parcel

/-! ## Names -/

/-- Nobody is bound under the name of the server. -/
def Roster.Named (q : Roster) : Prop := ∀ n, ∀ b ∈ (q.session n).bindings, b.peer ≠ .server

namespace Relay

variable {env : Environment} {now : Moment} {r r' r'' : Relay} {n caller sender receiver : LinkNo}
  {kind : Parcel → Prop} {heard : LinkNo → PacketBuffer → Prop} {p : PacketBuffer} {c : Command}
  {q q' : Roster} {source target : PeerId} {origin : Origin} {message data datagram : Bytes}
  {size : Nat} {address : SocketAddress}

lemma named_act (hq : q.Sound) (h : q.Named) {a : Roster.Act}
    (ha : ∀ link g, a ≠ .bind link .server g) : (q.act env now a).Named := by
  intro n b hb
  have hsound : (q.act env now a).Sound := Roster.sound_act now a hq
  rcases Roster.joined_act hq (hsound.joined_of_mem hb) with hold | ⟨g, hbind, -⟩
  · exact h b.session b (hq.joined_iff.mp hold).1
  · rintro hpeer
    rw [hpeer] at hbind
    exact ha _ _ hbind

/-- Acts that bind nobody as the server keep it so. -/
lemma named_performs {acts : Roster.Act → Prop} (hp : Roster.Performs env now acts q q')
    (hacts : ∀ a, acts a → ∀ link g, a ≠ .bind link .server g) (hq : q.Sound) (h : q.Named) :
    q'.Named := by
  refine (hp.keeps (P := fun q => q.Sound ∧ q.Named) ?_ ⟨hq, h⟩).2
  rintro q a ha ⟨hsound, hnamed⟩
  exact ⟨Roster.sound_act now a hsound, named_act hsound hnamed (hacts a ha)⟩

/-- A command is not from the server, so it binds nobody as the server. -/
lemma named_settles (hs : Settles env now sender p q q') (hq : q.Sound) (h : q.Named) :
    q'.Named := by
  cases hs with
  | idle => exact h
  | charged => exact h
  | obeyed hcommand hacts =>
      refine named_performs hacts ?_ hq h
      rintro a ⟨hasks, -⟩ link g rfl
      obtain ⟨-, hsource, htarget, -⟩ := hasks
      refine hcommand ?_
      rw [← hsource]
      exact congrArg PeerId.mk (beq_iff_eq.mp htarget).symm

/-- **No event binds anybody under the name of the server.** -/
theorem named_step (hr : r.roster.Sound) (h : r.roster.Named) (now : Moment) (e : Event) :
    (r.step env now e).roster.Named := by
  have hupkeep (q : Roster) (hp : Roster.Performs env now Routine r.roster q) : q.Named :=
    named_performs hp (by rintro a ha link g rfl; exact ha) hr h
  cases e with
  | datagram address datagram =>
      rcases settles_receive env now r address datagram with hsame | ⟨n, p, -, hsettles⟩
      · rw [step, hsame]
        exact h
      · exact named_settles hsettles hr h
  | greet =>
      rw [step, roster_greet]
      exact h
  | sweep => exact hupkeep _ (performs_sweep fun _ => trivial)
  | forgetPayments => exact hupkeep _ (performs_forgetPayments env now).roster
  | listAll => exact hupkeep _ performs_listAll.roster
  | takeForced => exact hupkeep _ (performs_takeForced env now).roster
  | listForced => exact hupkeep _ performs_listForced.roster

lemma named_run (env : Environment) (events : List (Moment × Event)) :
    (start.run env events).roster.Named := by
  induction events using List.reverseRecOn with
  | nil => exact fun _ _ hb => absurd hb List.not_mem_nil
  | append_singleton before last ih =>
      rw [run_append]
      exact named_step (Reachable.start.run before).orderly.roster.sound ih last.1 last.2

/-! ## What is handed out -/

/-- Only parcels of a kind were handed out. -/
def Sends (kind : Parcel → Prop) (r r' : Relay) : Prop :=
  ∃ sent, r'.outbox = r.outbox ++ sent ∧ ∀ p ∈ sent, kind p

namespace Sends

lemma of_outbox (h : r'.outbox = r.outbox) : Sends kind r r' :=
  ⟨[], by rw [h, List.append_nil], nofun⟩

lemma refl (r : Relay) : Sends kind r r := of_outbox rfl

lemma trans (h : Sends kind r r') (h' : Sends kind r' r'') : Sends kind r r'' := by
  rcases h with ⟨sent, houtbox, hsent⟩
  rcases h' with ⟨more, houtbox', hmore⟩
  refine ⟨sent ++ more, ?_, List.forall_mem_append.mpr ⟨hsent, hmore⟩⟩
  rw [houtbox', houtbox, List.append_assoc]

/-- Nothing was handed out before. -/
lemma after (h : Sends kind r' r'') (heq : r'.outbox = r.outbox) : Sends kind r r'' :=
  (of_outbox heq).trans h

/-- Nothing was handed out after. -/
lemma before (h : Sends kind r r') (heq : r''.outbox = r'.outbox) : Sends kind r r'' :=
  h.trans (of_outbox heq)

/-- A loop sends what its steps send, as long as these keep what they rely on. -/
lemma foldl {α : Type} {step : Relay → α → Relay} {motive : Relay → Prop}
    (hstep : ∀ r a, motive r → Sends kind r (step r a) ∧ motive (step r a)) (l : List α)
    (hr : motive r) : Sends kind r (l.foldl step r) := by
  induction l generalizing r with
  | nil => exact refl r
  | cons a l ih =>
      rcases hstep r a hr with ⟨hsends, hkept⟩
      exact hsends.trans (ih hkept)

end Sends

/-- A datagram is its message, or the message under a seal. -/
lemma datagram_of_seal {wire : Bytes} (h : (r.seal? env receiver message).2 = .ok wire) :
    wire = message ∨ ∃ k nonce, wire = env.cipher.sealed k nonce [] message := by
  have hsystem (b : Bytes) (hb : datagramOf b = .ok wire) : wire = b := by
    unfold datagramOf at hb
    split at hb
    · exact (Except.ok.inj hb).symm
    · contradiction
  unfold seal? at h
  split at h
  · exact .inl (hsystem _ h)
  · split at h
    · contradiction
    · exact .inr ⟨_, _, hsystem _ h⟩

lemma sends_deliver (h : ∀ outcome, Parcel.Holds heard ⟨receiver, origin, message, outcome⟩) :
    Sends (Parcel.Genuine env.cipher heard) r (r.deliver env receiver origin message).1 := by
  refine ⟨_, (still_deliver r env receiver origin message).1.outbox, fun p hp => ?_⟩
  obtain rfl := List.mem_singleton.mp hp
  exact ⟨h _, fun wire hwire => datagram_of_seal hwire⟩

/-! ## Answers -/

/-- An answer has the source zero, whatever message it is written over. -/
lemma sends_reply (hc : c.Composed) (hheader : r.desk.packet.hasHeader = true)
    (hdata : r.desk.packet.data = c.data) :
    Sends (Parcel.Genuine env.cipher heard) r (r.reply env receiver target).1 := by
  have hholds (outcome : Except RelayFault Bytes) : Parcel.Holds heard ⟨receiver, .server,
      (r.desk.packet.setReplyHeader target (r.link receiver).nextSequence).bytes, outcome⟩ := by
    have hmessage :
        (r.desk.packet.setReplyHeader target (r.link receiver).nextSequence).bytes =
          (c.toFrame target .server (r.link receiver).nextSequence).encode := by
      rw [PacketBuffer.bytes_reply hheader, hdata]
      rfl
    exact .composed rfl hc hmessage
  exact sends_deliver hholds

lemma sends_sendCommand (hc : c.Composed) :
    Sends (Parcel.Genuine env.cipher heard) r (r.sendCommand env receiver target c).1 := by
  simp only [sendCommand]
  split
  · exact .refl r
  · rename_i packet hset
    obtain ⟨hheader, hdata⟩ := PacketBuffer.of_setCommand hset
    have hsends : Sends (Parcel.Genuine env.cipher heard) (r.setPacket packet)
        ((r.setPacket packet).reply env receiver target).1 := sends_reply hc hheader hdata
    exact hsends.after rfl

lemma sends_deed (h : Deed env now caller p r r') :
    Sends (Parcel.Genuine env.cipher heard) r r' := by
  cases h with
  | noted | redeemed | acted => exact .of_outbox rfl
  | ponged hping =>
      rename_i payload
      obtain ⟨b, hb⟩ := Command.data_of_split hping
      obtain ⟨hheader, hdata⟩ := PacketBuffer.setTag_eq hb .pong
      refine Sends.after (?_ : Sends _ (r.setPacket (r.desk.packet.setTag .pong)) _) rfl
      exact sends_reply (c := .pong payload) trivial hheader hdata
  | kicked =>
      rename_i held target banSeconds _
      have hc : (Command.kickPeer target banSeconds).Composed := trivial
      exact (sends_sendCommand hc).after rfl
  | sent hc => exact sends_sendCommand hc

/-- What is sent about a command is composed by the server. -/
lemma sends_obey (env : Environment) (now : Moment) (r : Relay) (caller : LinkNo) :
    Sends (Parcel.Genuine env.cipher heard) r (r.obey env now caller).1 :=
  (deeds_obey env now r caller).induction (.refl r) fun hdeed h => h.trans (sends_deed hdeed)

/-! ## Copies -/

/-- What lies on the desk, but for the part of the header that is written over for each receiver. -/
structure Shows (source : PeerId) (data : Bytes) (r : Relay) : Prop where
  header : r.desk.packet.hasHeader = true
  source : r.desk.packet.source = source
  data : r.desk.packet.data = data

/-- A command that is put on the desk in the name of the server. -/
lemma shows_of_setCommand (r : Relay) {packet : PacketBuffer}
    (h : r.desk.packet.setCommand c.tag c.payload = .ok packet) :
    (r.setPacket (packet.setSource .server)).Shows .server c.data := by
  obtain ⟨hheader, hdata⟩ := PacketBuffer.of_setCommand h
  exact ⟨hheader, PacketBuffer.source_setSource .., (PacketBuffer.data_setSource ..).trans hdata⟩

/-- A copy that is sent to one receiver leaves the message on the desk for the next. -/
lemma Shows.copy (h : r.Shows source data) (env : Environment) (receiver : LinkNo)
    (origin : Origin) (target : PeerId) :
    (r.deliverNumbered env receiver origin fun n p => p.readdress target n).1.Shows source data := by
  obtain ⟨copy, hcopy⟩ : ∃ copy, copy = r.desk.packet.readdress target
    (r.link receiver).nextSequence := ⟨_, rfl⟩
  have hpacket := (still_deliver ((r.changeLink receiver (·.advance)).setPacket copy) env receiver
    origin copy.bytes).2
  simp only [deliverNumbered, ← hcopy]
  refine ⟨?_, ?_, ?_⟩ <;> rw [hpacket] <;> show _ = _
  · exact (congrArg PacketBuffer.hasHeader hcopy).trans h.header
  · exact (congrArg PacketBuffer.source hcopy).trans (PacketBuffer.source_readdress.trans h.source)
  · exact (congrArg PacketBuffer.data hcopy).trans (PacketBuffer.data_readdress.trans h.data)

/-- What is sent to the receiver is a frame from the same source with the same data. -/
lemma Shows.bytes (h : r.Shows source data) (target : PeerId) (number : UInt32) :
    (r.desk.packet.readdress target number).bytes =
      Frame.encode ⟨target, source, number, data⟩ := by
  rw [PacketBuffer.bytes_readdress h.header, h.source, h.data]

lemma sends_copy (h : r.Shows source data)
    (hholds : ∀ target number outcome, Parcel.Holds heard
      ⟨receiver, origin, Frame.encode ⟨target, source, number, data⟩, outcome⟩) :
    Sends (Parcel.Genuine env.cipher heard) r
        (r.deliverNumbered env receiver origin fun n p => p.readdress target n).1 ∧
      (r.deliverNumbered env receiver origin fun n p => p.readdress target n).1.Shows
        source data := by
  refine ⟨?_, h.copy env receiver origin target⟩
  refine (sends_deliver fun outcome => ?_).after rfl
  rw [h.bytes]
  exact hholds ..

lemma sends_fanOut (hheader : r.desk.packet.hasHeader = true) (hheard : heard sender r.desk.packet) :
    Sends (Parcel.Genuine env.cipher heard) r (r.fanOut env sender) := by
  obtain ⟨p, hp⟩ : ∃ p, p = r.desk.packet := ⟨_, rfl⟩
  rw [← hp] at hheard
  have hshows : r.Shows p.source p.data := ⟨hheader, by rw [hp], by rw [hp]⟩
  refine (Sends.foldl (motive := Shows p.source p.data) (fun x d hx => ?_) _ hshows).before rfl
  simp only [forwardTo]
  split
  · exact ⟨.refl x, hx⟩
  · exact sends_copy hx fun _ _ _ => .passed rfl hheard rfl

lemma sends_sendListing {l : Listing} :
    Sends (Parcel.Genuine env.cipher heard) r (r.sendListing env l) := by
  simp only [sendListing]
  split
  · exact .refl r
  · rename_i packet hset
    have hshows := shows_of_setCommand (c := .membersBitmap l.bitmap) r hset
    refine Sends.after (?_ : Sends _ (r.setPacket (packet.setSource .server)) _) rfl
    refine Sends.foldl (fun x d hx => ?_) _ hshows
    exact sends_copy hx fun _ _ _ => .composed (c := .membersBitmap l.bitmap) rfl trivial rfl

lemma sends_list {spacing : Span} {session : SessionNo} :
    Sends (Parcel.Genuine env.cipher heard) r (list env now.instant spacing r session) := by
  have htaken : (r.takeListing session now.instant spacing).1.outbox = r.outbox := rfl
  simp only [list]
  split <;> rename_i heq <;> rw [heq] at htaken
  · exact sends_sendListing.after htaken
  · exact .of_outbox htaken

/-! ## Datagrams -/

lemma sends_forward {b : Binding} (hheader : r.desk.packet.hasHeader = true)
    (hheard : heard sender r.desk.packet) :
    Sends (Parcel.Genuine env.cipher heard) r (r.forward env sender b size) := by
  have hdesk : ((r.charge b (price size)).1.address sender b.session b.size).desk.packet =
      r.desk.packet := by
    unfold address
    dsimp only
    split <;> rfl
  have houtbox : ((r.charge b (price size)).1.address sender b.session b.size).outbox =
      r.outbox := by
    unfold address
    dsimp only
    split <;> rfl
  unfold forward
  dsimp only
  split
  · have hsent : Sends (Parcel.Genuine env.cipher heard) r (fanOut env _ sender) :=
      (sends_fanOut (by rw [hdesk]; exact hheader) (by rw [hdesk]; exact hheard)).after houtbox
    generalize fanOut env _ sender = x at hsent ⊢
    exact hsent.before rfl
  · exact .of_outbox rfl

/-- A message is passed on only for a peer that is bound on its connection. -/
lemma sends_handle (hheard : (r.roster.binding? sender r.desk.packet.source).isSome →
      heard sender r.desk.packet) :
    Sends (Parcel.Genuine env.cipher heard) r (r.handle env now sender size) := by
  have hhandles := handles_handle env now r sender size
  generalize r.handle env now sender size = r' at hhandles ⊢
  cases hhandles with
  | headless | skipped => exact .of_outbox rfl
  | accepted hheader _ hprocesses =>
      rename_i window _
      have hobey : Sends (Parcel.Genuine env.cipher heard) _ _ :=
        sends_obey env now (r.note sender window) sender
      cases hprocesses with
      | obeyed _ heq =>
          rw [heq] at hobey
          exact hobey.after rfl
      | disobeyed _ heq =>
          rw [heq] at hobey
          exact (hobey.after rfl).before rfl
      | unbound => exact .of_outbox rfl
      | forwarded _ hb =>
          refine (sends_forward (r := r.note sender window) hheader (hheard ?_)).after rfl
          exact Option.isSome_iff_exists.mpr ⟨_, hb⟩

lemma outbox_arrive {arrival : Arrival}
    (harrive : r.arrive env now address datagram = (r', arrival)) : r'.outbox = r.outbox := by
  cases finds_arrive harrive <;> rfl

lemma outbox_openInput {opened : Option Nat}
    (hopen : r.openInput env n datagram = (r', opened)) : r'.outbox = r.outbox := by
  suffices hs : (r.openInput env n datagram).1.outbox = r.outbox by rwa [hopen] at hs
  unfold openInput
  split
  · split <;> rfl
  · split
    · rfl
    · dsimp only
      split <;> rfl

/-- Until the message in a datagram is handled, nothing is handed out. -/
lemma outbox_opened {opened : Relay} {size : Option Nat}
    (harrive : r.arrive env now address datagram = (r', .message n))
    (hopen : (r'.take datagram).openInput env n datagram = (opened, size)) :
    opened.outbox = r.outbox := by
  have hfound := outbox_arrive harrive
  exact (outbox_openInput hopen).trans hfound

lemma sends_echo :
    Sends (Parcel.Genuine env.cipher heard) r (r.deliver env n .echo datagram).1 :=
  sends_deliver fun _ => .echo rfl

lemma sends_receive (hheard : ∀ n p, Brings env now r (.datagram address datagram) n p →
      (r.roster.binding? n p.source).isSome → heard n p) :
    Sends (Parcel.Genuine env.cipher heard) r (r.receive env now address datagram) := by
  have hreads := reads_receive env now r address datagram
  generalize r.receive env now address datagram = r' at hreads ⊢
  cases hreads with
  | consumed harrive =>
      have hfound := outbox_arrive harrive
      exact .of_outbox hfound
  | repeated => exact sends_echo.after rfl
  | unopened harrive hopen => exact .of_outbox (outbox_opened harrive hopen)
  | handled harrive hopen =>
      rename_i x opened n size
      have hroster := roster_opened harrive hopen
      have houtbox := outbox_opened harrive hopen
      have hbound (hb : (opened.roster.binding? n opened.desk.packet.source).isSome) :
          heard n opened.desk.packet :=
        hheard n _ (brings_of_arrive harrive hopen) (hroster ▸ hb)
      have hsent : Sends (Parcel.Genuine env.cipher heard)
          (opened.changeLink n (·.noteRead now.instant)) (handle env now _ n size) :=
        sends_handle hbound
      exact hsent.after houtbox

/-! ## Events -/

lemma sends_answer : Sends (Parcel.Genuine env.cipher heard) r (r.answer env n data) := by
  unfold answer
  split
  · exact .refl r
  · split
    · exact sends_echo
    · exact .refl r

lemma sends_greet : Sends (Parcel.Genuine env.cipher heard) r (r.greet env) := by
  unfold greet
  cases r.handshakes with
  | nil => exact .refl r
  | cons h rest =>
      dsimp only
      split
      · exact sends_answer.after rfl
      · split
        · exact .of_outbox rfl
        · exact sends_answer.after rfl

/-- **Whatever happens, only genuine parcels are handed out**: a message is passed on only if this
event brings it, from a connection on which its source is bound. -/
theorem sends_step (env : Environment) (now : Moment) (r : Relay) (e : Event) :
    Sends (Parcel.Genuine env.cipher fun n p => Brings env now r e n p ∧
      (r.roster.binding? n p.source).isSome) r (r.step env now e) := by
  cases e with
  | datagram address data => exact sends_receive fun n p hbrings hb => ⟨hbrings, hb⟩
  | greet => exact sends_greet
  | sweep => exact .of_outbox (same_sweep r now).2
  | forgetPayments => exact .of_outbox rfl
  | listAll =>
      exact Sends.foldl (motive := fun _ => True) (fun _ _ _ => ⟨sends_list, trivial⟩) _ trivial
  | takeForced =>
      refine .of_outbox ?_
      simp only [step, takeForced]
      split <;> rfl
  | listForced =>
      simp only [step, listForced]
      split
      · exact .refl r
      · exact sends_list.after rfl

/-- **Nobody speaks for the server.**  After any run nobody is bound under its name.  Of what any
event hands out then, but for the echoes of handshakes, each datagram is a frame, as it is or under a
seal, and its source is zero exactly if the server composed it: then it holds a reply, a report or a
listing.  Any other is passed on for a connection from which this event brought the same data under
the same source, and the source is the name of a peer that is bound there. -/
theorem source_of_sent (env : Environment) (events : List (Moment × Event)) (now : Moment)
    (e : Event) :
    let r := start.run env events
    (∀ n, ∀ b ∈ (r.roster.session n).bindings, b.peer ≠ .server) ∧
    (∀ n peer b, r.roster.binding? n peer = some b → peer ≠ .server ∧ b.peer = peer) ∧
    ∃ sent, (r.step env now e).outbox = r.outbox ++ sent ∧ ∀ parcel ∈ sent,
      parcel.origin ≠ .echo → ∃ f, Frame.decode parcel.message = .ok f ∧
        (∀ wire, parcel.outcome = .ok wire →
          wire = parcel.message ∨ ∃ k nonce, wire = env.cipher.sealed k nonce [] parcel.message) ∧
        (f.source = .server ↔ parcel.origin = .server) ∧
        (parcel.origin = .server → ∃ c : Command, c.Composed ∧ f.data = c.data) ∧
        ∀ sender, parcel.origin = .relayed sender →
          f.source ≠ .server ∧ (r.roster.binding? sender f.source).isSome = true ∧
          ∃ p, Brings env now r e sender p ∧ f.source = p.source ∧ f.data = p.data := by
  intro r
  have hnamed : r.roster.Named := named_run env events
  have hsound : r.roster.Sound := (Reachable.start.run events).orderly.roster.sound
  have hbound (n : LinkNo) (peer : PeerId) (b : Binding)
      (hb : r.roster.binding? n peer = some b) : peer ≠ .server ∧ b.peer = peer := by
    obtain ⟨hlisted, hseat⟩ := hsound.joined_iff.mp hb
    have hpeer : b.peer = peer := congrArg Seat.peer hseat
    exact ⟨hpeer ▸ hnamed b.session b hlisted, hpeer⟩
  obtain ⟨sent, houtbox, hsent⟩ := sends_step env now r e
  refine ⟨hnamed, hbound, sent, houtbox, fun parcel hparcel hecho => ?_⟩
  obtain ⟨hholds, hdatagram⟩ := hsent parcel hparcel
  cases hholds with
  | echo horigin => exact absurd horigin hecho
  | composed horigin hc hmessage =>
      rename_i c target number
      refine ⟨c.toFrame target .server number, ?_, hdatagram, iff_of_true rfl horigin,
        fun _ => ⟨c, hc, rfl⟩, fun sender hsender => ?_⟩
      · rw [hmessage, Frame.decode_encode]
      · rw [horigin] at hsender
        contradiction
  | passed horigin hheard hmessage =>
      rename_i sender p target number
      obtain ⟨hbrings, hsome⟩ := hheard
      obtain ⟨b, hb⟩ := Option.isSome_iff_exists.mp hsome
      have hsource : p.source ≠ .server := (hbound sender p.source b hb).1
      refine ⟨⟨target, p.source, number, p.data⟩, ?_, hdatagram, iff_of_false hsource ?_, ?_, ?_⟩
      · rw [hmessage, Frame.decode_encode]
      · rw [horigin]
        nofun
      · rw [horigin]
        nofun
      · intro other hother
        obtain rfl : sender = other := Origin.relayed.inj (horigin.symm.trans hother)
        exact ⟨hsource, hsome, p, hbrings, rfl, rfl⟩

end Relay

end MeteredRelay
