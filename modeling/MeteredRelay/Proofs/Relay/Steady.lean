import MeteredRelay.Proofs.Relay.Keeps
import MeteredRelay.Proofs.Relay.Obeying

/-!
# What messages do not touch

Where a connection stands is told by its address, its key and the handshake that it is pending on.
Once a message has come in, nothing that is done about it looks at this again: commands are obeyed,
messages passed on and sessions listed, and every connection stands where it stood.  Nor does any
of this take part in a handshake: none is queued or taken, the gauges of connections stay, and what
is sent is never an echo.  **`Relay.Steady`** says so of two states.

An echo is sent like any message.  `deliver_eq` puts what is sent into the outbox first and says
what else happens then, so it serves echoes too.
-/

namespace MeteredRelay

/-- Where a connection stands. -/
structure Link.Standing where
  address : SocketAddress
  key : Option Key
  pending : Option Bytes

/-- Where a connection stands. -/
def Link.standing (l : Link) : Standing := ⟨l.address, l.key, l.pending⟩

namespace Relay

/-- The echoes that were handed out, in order. -/
def echoes (r : Relay) : List Parcel := r.outbox.filter fun p => p.origin = .echo

/-- Every connection stands where it stood, and nothing was done about handshakes. -/
structure Steady (r r' : Relay) : Prop where
  addresses : r'.addresses = r.addresses
  size : r'.links.size = r.links.size
  standing : ∀ n, (r'.link n).standing = (r.link n).standing
  handshakes : r'.handshakes = r.handshakes
  linkGauge : r'.linkGauge = r.linkGauge
  pendingGauge : r'.pendingGauge = r.pendingGauge
  echoes : r'.echoes = r.echoes

/-- The relay after messages were handed out. -/
def post (r : Relay) (sent : List Parcel) : Relay := { r with outbox := r.outbox ++ sent }

variable {r r' r'' : Relay} {n receiver sender caller : LinkNo} {f : Link → Link}
  {packet : PacketBuffer} {sent : List Parcel} {origin : Origin} {message input : Bytes}
  {env : Environment} {target : PeerId} {now : Moment} {size : Nat}

namespace Steady

lemma refl (r : Relay) : Steady r r := ⟨rfl, rfl, fun _ => rfl, rfl, rfl, rfl, rfl⟩

lemma trans (h : Steady r r') (h' : Steady r' r'') : Steady r r'' where
  addresses := h'.addresses.trans h.addresses
  size := h'.size.trans h.size
  standing n := (h'.standing n).trans (h.standing n)
  handshakes := h'.handshakes.trans h.handshakes
  linkGauge := h'.linkGauge.trans h.linkGauge
  pendingGauge := h'.pendingGauge.trans h.pendingGauge
  echoes := h'.echoes.trans h.echoes

/-- A loop is steady if its steps are. -/
lemma foldl {α : Type} {step : Relay → α → Relay} (h : ∀ r a, Steady r (step r a)) (l : List α)
    (r : Relay) : Steady r (l.foldl step r) := by
  induction l generalizing r with
  | nil => exact refl r
  | cons a l ih => exact (h r a).trans (ih _)

/-- Only what does not matter to handshakes is another. -/
lemma of_same (h : (r'.addresses, r'.links, r'.handshakes, r'.linkGauge, r'.pendingGauge,
      r'.outbox) = (r.addresses, r.links, r.handshakes, r.linkGauge, r.pendingGauge, r.outbox)) :
    Steady r r' := by
  simp only [Prod.mk.injEq] at h
  rcases h with ⟨haddresses, hlinks, hhandshakes, hlinkGauge, hpendingGauge, houtbox⟩
  refine ⟨haddresses, by rw [hlinks], fun n => ?_, hhandshakes, hlinkGauge, hpendingGauge, ?_⟩
  · rw [link, hlinks, link]
  · rw [Relay.echoes, houtbox, Relay.echoes]

/-- What a connection is pending on is part of where it stands. -/
lemma pending (h : Steady r r') (n : LinkNo) : (r'.link n).pending = (r.link n).pending :=
  congrArg Link.Standing.pending (h.standing n)

lemma key (h : Steady r r') (n : LinkNo) : (r'.link n).key = (r.link n).key :=
  congrArg Link.Standing.key (h.standing n)

lemma address (h : Steady r r') (n : LinkNo) : (r'.link n).address = (r.link n).address :=
  congrArg Link.Standing.address (h.standing n)

end Steady

/-! ## Connections and the desk -/

/-- What a change does not touch in any connection is not touched in those of a relay. -/
lemma view_changeLink {α : Type} {view : Link → α} (hf : ∀ l, view (f l) = view l) (r : Relay)
    (n m : LinkNo) : view ((r.changeLink n f).link m) = view (r.link m) := by
  simp only [link, changeLink, Store.get?_modify]
  split
  · cases r.links.get? m with
    | none => rfl
    | some l => exact hf l
  · rfl

/-- A change of a connection is steady if it leaves alone where the connection stands. -/
lemma steady_changeLink (hf : ∀ l, (f l).standing = l.standing) : Steady r (r.changeLink n f) :=
  ⟨rfl, Store.size_modify .., view_changeLink hf r n, rfl, rfl, rfl, rfl⟩

lemma steady_penalize : Steady r (r.penalize n) := steady_changeLink fun _ => rfl

lemma steady_note {window : PackedWindow} : Steady r (r.note n window) :=
  steady_changeLink fun _ => rfl

lemma steady_setPacket : Steady r (r.setPacket packet) := .of_same rfl

lemma steady_setRoster {roster : Roster} : Steady r (r.setRoster roster) := .of_same rfl

lemma steady_take {datagram : Bytes} : Steady r (r.take datagram) := .of_same rfl

/-! ## Delivery -/

lemma post_nil (r : Relay) : r.post [] = r := by simp [post]

/-- Of the messages that are handed out only the echoes count among the echoes. -/
@[simp] lemma echoes_post :
    (r.post sent).echoes = r.echoes ++ sent.filter fun p => p.origin = .echo := by
  simp [post, echoes]

/-- To hand out messages is steady as long as none of them is an echo. -/
lemma steady_post (h : ∀ p ∈ sent, p.origin ≠ .echo) : Steady r (r.post sent) := by
  refine ⟨rfl, rfl, fun _ => rfl, rfl, rfl, rfl, ?_⟩
  have hnone : (sent.filter fun p => p.origin = .echo) = [] :=
    List.filter_eq_nil_iff.mpr fun p hp => by simpa using h p hp
  rw [echoes_post, hnone, List.append_nil]

/-- Two states that hand out the same messages stay steady, whatever the messages are. -/
lemma Steady.post (h : Steady r r') (sent : List Parcel) : Steady (r.post sent) (r'.post sent) :=
  { h with echoes := by rw [echoes_post, echoes_post, h.echoes] }

/-- To deliver a message is to hand it out; beside this only the desk and some figures change. -/
lemma deliver_eq (r : Relay) (env : Environment) (receiver : LinkNo) (origin : Origin)
    (message : Bytes) :
    ∃ desk noncesDrawn bytesWritten messagesWritten,
      (r.deliver env receiver origin message).1 =
        { r.post [⟨receiver, origin, message, (r.seal? env receiver message).2⟩] with
          desk, noncesDrawn, bytesWritten, messagesWritten } := by
  obtain ⟨desk, noncesDrawn, hseal⟩ : ∃ desk noncesDrawn,
      (r.seal? env receiver message).1 = { r with desk, noncesDrawn } := by
    simp only [seal?]
    split
    · exact ⟨_, _, rfl⟩
    · split <;> exact ⟨_, _, rfl⟩
  simp only [deliver, hseal]
  split <;> exact ⟨_, _, _, _, rfl⟩

/-- Once a message lies in the outbox, the rest of its delivery is steady, even if it is an echo. -/
lemma steady_deliver (r : Relay) (env : Environment) (receiver : LinkNo) (origin : Origin)
    (message : Bytes) :
    Steady (r.post [⟨receiver, origin, message, (r.seal? env receiver message).2⟩])
      (r.deliver env receiver origin message).1 := by
  rcases deliver_eq r env receiver origin message with ⟨desk, drawn, bytes, messages, heq⟩
  rw [heq]
  exact .of_same rfl

/-- Only echoes are sent without a number, and a number is not part of where a connection stands. -/
lemma steady_deliverNumbered {stamp : UInt32 → PacketBuffer → PacketBuffer}
    (h : origin ≠ .echo) : Steady r (r.deliverNumbered env receiver origin stamp).1 := by
  have hadvance : Steady r (r.changeLink receiver (·.advance)) := steady_changeLink fun _ => rfl
  exact ((hadvance.trans steady_setPacket).trans (steady_post (by simpa using h))).trans
    (steady_deliver ..)

lemma steady_reply : Steady r (r.reply env receiver target).1 := by
  simp only [reply]
  exact steady_deliverNumbered (by simp)

lemma steady_sendCommand {c : Command} : Steady r (r.sendCommand env receiver target c).1 := by
  simp only [sendCommand]
  split
  · exact .refl r
  · exact steady_setPacket.trans steady_reply

/-! ## Commands -/

/-- Whatever single thing a command does, it is steady. -/
lemma steady_deed (h : Deed env now caller packet r r') : Steady r r' := by
  cases h with
  | noted => exact steady_changeLink fun _ => rfl
  | ponged => exact steady_setPacket.trans steady_reply
  | redeemed => exact .of_same rfl
  | acted => exact steady_setRoster
  | kicked => exact steady_setRoster.trans steady_sendCommand
  | sent => exact steady_sendCommand

/-- A command does one such thing after the other. -/
lemma steady_obey (env : Environment) (now : Moment) (r : Relay) (caller : LinkNo) :
    Steady r (r.obey env now caller).1 :=
  (deeds_obey env now r caller).induction (.refl r) fun hdeed h => h.trans (steady_deed hdeed)

/-! ## Messages -/

/-- A copy is no echo, also where it is left out. -/
lemma steady_forwardTo {d : Destination} : Steady r (forwardTo env sender r d) := by
  simp only [forwardTo]
  split
  · exact .refl r
  · exact steady_deliverNumbered (by simp)

lemma steady_fanOut : Steady r (r.fanOut env sender) := by
  have h : Steady r (r.desk.destinations.foldl (forwardTo env sender) r) :=
    Steady.foldl (fun _ _ => steady_forwardTo) _ _
  exact h.trans (.of_same rfl)

/-- The destinations are noted first; the penalty for too many comes after that. -/
lemma steady_address {session : SessionNo} : Steady r (r.address sender session size) := by
  obtain ⟨destinations, hd⟩ : ∃ destinations,
      destinations = (r.roster.session session).destinations.take size := ⟨_, rfl⟩
  have hnoted : Steady r { r with desk := { r.desk with destinations } } := .of_same rfl
  simp only [address, ← hd]
  split
  · exact hnoted.trans steady_penalize
  · exact hnoted

lemma steady_refuseUnpaid : Steady r (r.refuseUnpaid sender size) := by
  have hcounted : Steady r { r with unpaidBytes := r.unpaidBytes.add (UInt64.ofNat size) } :=
    .of_same rfl
  exact hcounted.trans steady_penalize

/-- The charge concerns the roster alone, and what follows is to send copies or to count the
refusal. -/
lemma steady_forward {b : Binding} : Steady r (r.forward env sender b size) := by
  have hcharge : Steady r (r.charge b (price size)).1 := .of_same rfl
  unfold forward
  dsimp only
  split
  · have hsent : Steady r
        (((r.charge b (price size)).1.address sender b.session b.size).fanOut env sender) :=
      hcharge.trans (steady_address.trans steady_fanOut)
    generalize fanOut env _ sender = x at hsent ⊢
    exact hsent.trans (.of_same rfl)
  · exact hcharge.trans steady_refuseUnpaid

/-- A message is obeyed, passed on, or held against its sender. -/
lemma steady_processes (h : Processes env now r sender size r') : Steady r r' := by
  cases h with
  | obeyed _ hobey =>
      have hsteady := steady_obey env now r sender
      rwa [hobey] at hsteady
  | disobeyed _ hobey =>
      have hsteady := steady_obey env now r sender
      rw [hobey] at hsteady
      exact hsteady.trans steady_penalize
  | unbound => exact steady_penalize
  | forwarded => exact steady_forward

/-- A message without a header and one whose number is refused change no standing either. -/
lemma steady_handle : Steady r (r.handle env now sender size) := by
  have hhandles := handles_handle env now r sender size
  generalize r.handle env now sender size = r' at hhandles ⊢
  cases hhandles with
  | headless => exact steady_penalize
  | skipped => exact .of_same rfl
  | accepted _ _ hprocesses => exact steady_note.trans (steady_processes hprocesses)

/-- A datagram that does not open is held against its sender, which stands where it stood. -/
lemma steady_openInput {opened : Option Nat} (hopen : r.openInput env n input = (r', opened)) :
    Steady r r' := by
  have hcount (x : Relay) (c : Counter) : Steady x { x with decryptFailures := c } := .of_same rfl
  suffices hs : Steady r (r.openInput env n input).1 by rwa [hopen] at hs
  unfold openInput
  split
  · split
    · exact steady_setPacket
    · exact .refl r
  · split
    · exact .refl r
    · dsimp only
      split
      · exact steady_setPacket
      · exact (steady_setPacket.trans (hcount _ _)).trans steady_penalize

/-! ## Upkeep -/

lemma steady_forgetPayments : Steady r (r.forgetPayments now) := .of_same rfl

lemma steady_listTo {d : Destination} : Steady r (listTo env r d) := by
  simp only [listTo]
  exact steady_deliverNumbered (by simp)

lemma steady_sendListing {l : Listing} : Steady r (r.sendListing env l) := by
  simp only [sendListing]
  split
  · exact .refl r
  · exact steady_setPacket.trans (Steady.foldl (fun _ _ => steady_listTo) _ _)

/-- That a session was listed is remembered in the roster, before the listing is sent. -/
lemma steady_list {spacing : Span} {session : SessionNo} :
    Steady r (list env now.instant spacing r session) := by
  have htaken : Steady r (r.takeListing session now.instant spacing).1 := .of_same rfl
  simp only [list]
  split <;> rename_i heq <;> rw [heq] at htaken
  · exact htaken.trans steady_sendListing
  · exact htaken

lemma steady_listAll : Steady r (r.listAll env now.instant) :=
  Steady.foldl (fun _ _ => steady_list) _ _

/-- The queue of sessions that wait to be listed is not the queue of handshakes. -/
lemma steady_takeForced : Steady r (r.takeForced env) := by
  simp only [takeForced]
  split
  · exact .of_same rfl
  · exact .refl r

lemma steady_listForced : Steady r (r.listForced env now.instant) := by
  simp only [listForced]
  split
  · exact .refl r
  · have hnone : Steady r { r with nextListing := none } := .of_same rfl
    exact hnone.trans steady_list

end Relay

end MeteredRelay
