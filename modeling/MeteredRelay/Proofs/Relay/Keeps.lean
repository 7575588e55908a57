import MeteredRelay.Proofs.Relay.Handling

/-!
# What sending leaves alone

Most of what a relay does is about messages and figures: it seals and hands out, counts, takes
numbers and remembers when something was read.  None of this touches the roster, makes a connection
or gives one an address.  **`Relay.Keeps`** says so of two states, and the lemmas of this file say
it of everything that only sends.

To hand out a message changes even less: `still_deliver` says that it comes last in the outbox, and
that apart from this only the desk and the figures are others.
-/

namespace MeteredRelay

namespace Relay

/-- The roster, the addresses and the number of connections are what they were. -/
structure Keeps (r r' : Relay) : Prop where
  roster : r'.roster = r.roster
  size : r'.links.size = r.links.size
  addresses : r'.addresses = r.addresses

/-- Only the desk and the figures are others. -/
structure Still (r r' : Relay) : Prop where
  roster : r'.roster = r.roster
  drawn : r'.tagsDrawn = r.tagsDrawn
  addresses : r'.addresses = r.addresses
  links : r'.links = r.links
  outbox : r'.outbox = r.outbox

variable {r r' r'' : Relay} {n receiver sender : LinkNo} {f : Link → Link} {p : PacketBuffer}
  {origin : Origin} {message : Bytes} {env : Environment} {target source : PeerId} {now : Moment}

namespace Keeps

lemma refl (r : Relay) : Keeps r r := ⟨rfl, rfl, rfl⟩

lemma trans (h : Keeps r r') (h' : Keeps r' r'') : Keeps r r'' :=
  ⟨h'.roster.trans h.roster, h'.size.trans h.size, h'.addresses.trans h.addresses⟩

/-- What every step of a loop keeps, the loop keeps. -/
lemma foldl {α : Type} {step : Relay → α → Relay} (h : ∀ r a, Keeps r (step r a)) (l : List α)
    (r : Relay) : Keeps r (l.foldl step r) := by
  induction l generalizing r with
  | nil => exact refl r
  | cons a l ih => exact (h r a).trans (ih _)

end Keeps

/-! ## Connections and the desk -/

/-- A connection that is changed keeps its number. -/
lemma keeps_changeLink : Keeps r (r.changeLink n f) := ⟨rfl, Store.size_modify .., rfl⟩

lemma keeps_penalize : Keeps r (r.penalize n) := keeps_changeLink

lemma keeps_note {window : PackedWindow} : Keeps r (r.note n window) := keeps_changeLink

lemma keeps_setPacket : Keeps r (r.setPacket p) := ⟨rfl, rfl, rfl⟩

lemma keeps_take {datagram : Bytes} : Keeps r (r.take datagram) := ⟨rfl, rfl, rfl⟩

/-! ## Delivery -/

/-- Where no connection is another, none was made. -/
lemma Still.keeps (h : Still r r') : Keeps r r' := ⟨h.roster, by rw [h.links], h.addresses⟩

/-- To seal a message takes a nonce and the scratch buffer; the message stays on the desk. -/
lemma still_seal (r : Relay) (env : Environment) (receiver : LinkNo) (message : Bytes) :
    Still r (r.seal? env receiver message).1 ∧
      (r.seal? env receiver message).1.desk.packet = r.desk.packet := by
  simp only [seal?]
  split
  · exact ⟨⟨rfl, rfl, rfl, rfl, rfl⟩, rfl⟩
  · split <;> exact ⟨⟨rfl, rfl, rfl, rfl, rfl⟩, rfl⟩

/-- A message that is handed out comes last in the outbox, and stays on the desk if it was there. -/
lemma still_deliver (r : Relay) (env : Environment) (receiver : LinkNo) (origin : Origin)
    (message : Bytes) :
    Still { r with outbox := r.outbox ++ [⟨receiver, origin, message,
        (r.seal? env receiver message).2⟩] } (r.deliver env receiver origin message).1 ∧
      (r.deliver env receiver origin message).1.desk.packet = r.desk.packet := by
  rcases still_seal r env receiver message with ⟨h, hpacket⟩
  have houtbox (p : Parcel) : (r.seal? env receiver message).1.outbox ++ [p] = r.outbox ++ [p] := by
    rw [h.outbox]
  unfold deliver
  dsimp only
  split <;> exact ⟨⟨h.roster, h.drawn, h.addresses, h.links, houtbox _⟩, hpacket⟩

lemma keeps_deliver : Keeps r (r.deliver env receiver origin message).1 := by
  have h := (still_deliver r env receiver origin message).1.keeps
  exact ⟨h.roster, h.size, h.addresses⟩

/-- The receiver counts the message, and its header is written on the desk. -/
lemma keeps_deliverNumbered {stamp : UInt32 → PacketBuffer → PacketBuffer} :
    Keeps r (r.deliverNumbered env receiver origin stamp).1 :=
  (keeps_changeLink.trans keeps_setPacket).trans keeps_deliver

lemma keeps_reply : Keeps r (r.reply env receiver target).1 := by
  simp only [reply]
  exact keeps_deliverNumbered

/-- A command that does not fit the buffer is not sent, and then nothing happens. -/
lemma keeps_sendCommand {c : Command} : Keeps r (r.sendCommand env receiver target c).1 := by
  simp only [sendCommand]
  split
  · exact .refl r
  · exact keeps_setPacket.trans keeps_reply

/-! ## Loops over members -/

/-- The sender itself is left out; every other destination is sent a copy. -/
lemma keeps_forwardTo {d : Destination} : Keeps r (forwardTo env sender r d) := by
  simp only [forwardTo]
  split
  · exact .refl r
  · exact keeps_deliverNumbered

lemma keeps_fanOut : Keeps r (r.fanOut env sender) := by
  have h : Keeps r (r.desk.destinations.foldl (forwardTo env sender) r) :=
    Keeps.foldl (fun _ _ => keeps_forwardTo) _ _
  exact ⟨h.roster, h.size, h.addresses⟩

/-- A sender whose session is larger than its binding allows is penalized, but keeps its address. -/
lemma keeps_address {size : Nat} : Keeps r (r.address sender n size) := by
  unfold address
  dsimp only
  split
  · exact ⟨rfl, Store.size_modify .., rfl⟩
  · exact ⟨rfl, rfl, rfl⟩

lemma keeps_refuseUnpaid {size : Nat} : Keeps r (r.refuseUnpaid sender size) :=
  ⟨rfl, Store.size_modify .., rfl⟩

/-- What is left of passing a message on after it was charged is to send. -/
lemma keeps_forward {b : Binding} {size : Nat} :
    Keeps (r.charge b (price size)).1 (r.forward env sender b size) := by
  unfold forward
  dsimp only
  split
  · have hsent : Keeps (r.charge b (price size)).1
        (((r.charge b (price size)).1.address sender b.session b.size).fanOut env sender) :=
      keeps_address.trans keeps_fanOut
    generalize fanOut env _ sender = x at hsent ⊢
    exact ⟨hsent.roster, hsent.size, hsent.addresses⟩
  · exact keeps_refuseUnpaid

/-- A listing is written on the desk once, and then sent to one member after the other. -/
lemma keeps_sendListing {l : Listing} : Keeps r (r.sendListing env l) := by
  simp only [sendListing]
  split
  · exact .refl r
  · exact keeps_setPacket.trans (Keeps.foldl (fun _ _ => keeps_deliverNumbered) _ _)

/-! ## Commands about bindings

What is left of them after the roster has changed is to send.
-/

lemma keeps_obeyLeave :
    Keeps (r.setRoster (r.roster.leave n source).1) (r.obeyLeave env n source).1 := by
  simp only [obeyLeave]
  exact keeps_sendCommand

/-- A kick that succeeds is reported to the peer that was kicked and to the caller; one that fails
is reported to the caller alone. -/
lemma keeps_obeyKick {banSeconds : UInt32} :
    Keeps (r.setRoster (r.roster.kick now.instant n source target banSeconds).1)
      (r.obeyKick env now n source target banSeconds).1 := by
  unfold obeyKick
  dsimp only
  split
  · exact keeps_sendCommand.trans keeps_sendCommand
  · exact keeps_sendCommand

lemma keeps_obeyRotate {cookie : Bytes} :
    Keeps (r.setRoster (r.roster.rotate env now n source cookie).1)
      (r.obeyRotate env now n source cookie).1 := by
  simp only [obeyRotate]
  exact keeps_sendCommand

/-! ## Handshakes -/

/-- The handshake that a connection is pending on is echoed; any other is passed over. -/
lemma keeps_answer {data : Bytes} : Keeps r (r.answer env n data) := by
  simp only [answer]
  split
  · exact .refl r
  · split
    · exact keeps_deliver
    · exact .refl r

/-- A datagram that does not open is counted and held against its sender. -/
lemma keeps_openInput {input : Bytes} {size : Option Nat}
    (hopen : r.openInput env n input = (r', size)) : Keeps r r' := by
  suffices hs : Keeps r (r.openInput env n input).1 by rwa [hopen] at hs
  unfold openInput
  split
  · split
    · exact keeps_setPacket
    · exact .refl r
  · split
    · exact .refl r
    · dsimp only
      split
      · exact keeps_setPacket
      · exact ⟨rfl, Store.size_modify .., rfl⟩

end Relay

end MeteredRelay
