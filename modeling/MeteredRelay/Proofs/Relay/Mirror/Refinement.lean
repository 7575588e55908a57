import MeteredRelay.Proofs.Relay.Mirror.Commands
import MeteredRelay.Proofs.Relay.PassOn

/-!
# A server that seals does what one without a key does

**`sealed_refines_plain`**: two servers that mirror each other, one with a private key and one
without, are given the same frames on established connections, sealed for the first and in clear for
the second.  They end as mirrors again, and have handed out the same messages to the same
connections in the same order.

Whatever came before, the two have the same message on their desks once it was opened, and its size
is counted without the seal (`Twins.receive`).  What they do with it is a matter of this message and
of what mirrors share.  In the loop that passes it on, each copy is written over the one before, and
as long as both desks show the same bytes it does not matter what lies behind them
(`Twins.forwardTo`).
-/

namespace MeteredRelay

namespace Relay

variable {env : Environment} {keys : LinkNo → Key} {sent sent' : List Parcel} {r r' q q' : Relay}
  {sender n : LinkNo} {size : Nat} {frame : Bytes}

lemma SameMessage.of_packet (h : SameMessage r q) (hr : r'.desk.packet = r.desk.packet)
    (hq : q'.desk.packet = q.desk.packet) : SameMessage r' q' :=
  ⟨by rw [hr, hq, h.bytes], by rw [hr, h.header], by rw [hr]; exact h.short⟩

lemma still_delays (r : Relay) (delays : Histogram) : Still r { r with delays } :=
  ⟨rfl, rfl, rfl, rfl, rfl⟩

lemma packet_address (r : Relay) (sender : LinkNo) (n : SessionNo) (size : Nat) :
    (r.address sender n size).desk.packet = r.desk.packet := by
  simp only [address]
  split <;> rfl

lemma destinations_address (r : Relay) (sender : LinkNo) (n : SessionNo) (size : Nat) :
    (r.address sender n size).desk.destinations =
      (r.roster.session n).destinations.take size := by
  simp only [address]
  split <;> rfl

/-- A message is passed on to connections with addresses. -/
lemma Housed.hasAddress (h : q.Housed) (hq : q.roster.Sound) {n : SessionNo} {d : Destination}
    (hd : d ∈ (q.roster.session n).destinations) : q.HasAddress d.link := by
  rcases List.mem_map.mp hd with ⟨b, hb, rfl⟩
  exact h b.seat b (hq.joined_of_mem hb)

namespace Twins

/-! ## Passing on -/

/-- Both send a copy, or both leave the sender out, and what both show on their desks is then the
same again. -/
lemma forwardTo (h : Twins env keys sent sent' r q) (hA : env.cipher.Opens)
    (hsame : SameMessage r q) (d : Destination) (hd : q.HasAddress d.link) :
    Twins env keys sent sent' (Relay.forwardTo env sender r d)
        (Relay.forwardTo env.plain sender q d) ∧
      SameMessage (Relay.forwardTo env sender r d) (Relay.forwardTo env.plain sender q d) := by
  unfold Relay.forwardTo
  split
  · exact ⟨h, hsame⟩
  have hbytes (k : UInt32) : (r.desk.packet.readdress d.peer k).bytes =
      (q.desk.packet.readdress d.peer k).bytes :=
    PacketBuffer.bytes_readdress_congr hsame.bytes hsame.header d.peer k
  have hroom (k : UInt32) : (r.desk.packet.readdress d.peer k).bytes.length + sealOverhead ≤
      maxMessageSize := by
    rw [PacketBuffer.length_bytes]
    exact hsame.short
  refine ⟨h.deliverNumbered hA hd (.relayed sender) (fun k p => p.readdress d.peer k) hbytes hroom,
    ?_⟩
  have hstamped (k : UInt32) : SameMessage (r.setPacket (r.desk.packet.readdress d.peer k))
      (q.setPacket (q.desk.packet.readdress d.peer k)) :=
    ⟨hbytes k, hsame.header, hsame.short⟩
  refine (hstamped (q.link d.link).nextSequence).of_packet ?_ (still_deliver ..).2
  rw [← h.nextSequence hd]
  exact (still_deliver ..).2

/-- Both send all copies. -/
lemma forwardAll (h : Twins env keys sent sent' r q) (hA : env.cipher.Opens)
    (hsame : SameMessage r q) (ds : List Destination) (hds : ∀ d ∈ ds, q.HasAddress d.link) :
    Twins env keys sent sent' (ds.foldl (Relay.forwardTo env sender) r)
      (ds.foldl (Relay.forwardTo env.plain sender) q) := by
  induction ds generalizing r q with
  | nil => exact h
  | cons d ds ih =>
      rcases List.forall_mem_cons.mp hds with ⟨hd, hds⟩
      rcases h.forwardTo hA hsame d hd with ⟨hnext, hsame⟩
      refine ih hnext hsame fun d hd => ?_
      rw [HasAddress, keeps_forwardTo.addresses]
      exact hds d hd

/-- Both cut the same members, and count this against the sender. -/
lemma address (h : Twins env keys sent sent' r q) (sender : LinkNo) (n : SessionNo) (size : Nat) :
    Twins env keys sent sent' (r.address sender n size) (q.address sender n size) := by
  simp only [Relay.address, h.roster.session]
  generalize (q.roster.session n).destinations = all
  have haddressed : Twins env keys sent sent'
      { r with desk := { r.desk with destinations := all.take size } }
      { q with desk := { q.desk with destinations := all.take size } } :=
    h.still ⟨rfl, rfl, rfl, rfl, rfl⟩ ⟨rfl, rfl, rfl, rfl, rfl⟩
  split
  · exact haddressed.penalize sender
  · exact haddressed

lemma fanOut (h : Twins env keys sent sent' r q) (hA : env.cipher.Opens) (sender : LinkNo)
    (hsame : SameMessage r q) (hdest : r.desk.destinations = q.desk.destinations)
    (hds : ∀ d ∈ q.desk.destinations, q.HasAddress d.link) :
    Twins env keys sent sent' (r.fanOut env sender) (q.fanOut env.plain sender) := by
  simp only [Relay.fanOut, hdest]
  exact (h.forwardAll hA hsame _ hds).still ⟨rfl, rfl, rfl, rfl, rfl⟩ ⟨rfl, rfl, rfl, rfl, rfl⟩

/-- Both charge the same binding for the same size, and pass the message on or refuse to. -/
lemma forward (h : Twins env keys sent sent' r q) (hA : env.cipher.Opens) (hq : q.roster.Sound)
    (hhoused : q.Housed) (hsame : SameMessage r q) (sender : LinkNo) (b : Binding) (size : Nat) :
    Twins env keys sent sent' (r.forward env sender b size)
      (q.forward env.plain sender b size) := by
  obtain ⟨x, paid, hx⟩ : ∃ x paid, r.roster.charge b.purse (price size) = (x, paid) :=
    ⟨_, _, rfl⟩
  obtain ⟨y, paid', hy⟩ : ∃ y paid', q.roster.charge b.purse (price size) = (y, paid') :=
    ⟨_, _, rfl⟩
  obtain ⟨hcharged, rfl⟩ : x.Alike y ∧ paid = paid' := by
    have hcharge := h.roster.charge b.purse (price size)
    rwa [hx, hy] at hcharge
  have hsession : y.session b.session = q.roster.session b.session :=
    congrArg (·.1.session b.session) hy.symm
  have hset : Twins env keys sent sent' (r.setRoster x) (q.setRoster y) := h.setRoster hcharged
  simp only [Relay.forward, charge, hx, hy]
  cases paid with
  | true =>
      have hsent := (hset.address sender b.session b.size).fanOut hA sender
        (hsame.of_packet (packet_address ..) (packet_address ..))
        (by
          rw [destinations_address, destinations_address]
          exact congrArg (fun s => s.destinations.take b.size) (hcharged.session b.session))
        (by
          intro d hd
          rw [destinations_address] at hd
          rw [HasAddress, keeps_address.addresses]
          refine hhoused.hasAddress hq (n := b.session) ?_
          rw [← hsession]
          exact List.mem_of_mem_take hd)
      exact hsent.still (still_delays _ _) (still_delays _ _)
  | false =>
      have hcounted : Twins env keys sent sent'
          { r.setRoster x with unpaidBytes := r.unpaidBytes.add (UInt64.ofNat size) }
          { q.setRoster y with unpaidBytes := q.unpaidBytes.add (UInt64.ofNat size) } :=
        hset.still ⟨rfl, rfl, rfl, rfl, rfl⟩ ⟨rfl, rfl, rfl, rfl, rfl⟩
      exact hcounted.penalize sender

/-! ## Datagrams -/

/-- Both treat the message on their desks in the same way, also if it has no header. -/
lemma handle (h : Twins env keys sent sent' r q) (hA : env.cipher.Opens) (hq : q.roster.Sound)
    (hhoused : q.Housed) (hsender : q.HasAddress sender)
    (hbytes : r.desk.packet.bytes = q.desk.packet.bytes)
    (hroom : r.desk.packet.size + sealOverhead ≤ maxMessageSize) (now : Moment) (size : Nat) :
    Twins env keys sent sent' (r.handle env now sender size)
      (q.handle env.plain now sender size) := by
  simp only [Relay.handle, PacketBuffer.hasHeader_congr hbytes]
  split
  · exact h.penalize sender
  rename_i hnot
  have hheader : r.desk.packet.hasHeader = true := by
    rw [PacketBuffer.hasHeader_congr hbytes]
    simpa using hnot
  have hsame : SameMessage r q := ⟨hbytes, hheader, hroom⟩
  have hwindow : (r.link sender).window = (q.link sender).window := by
    rw [(h.link sender hsender).1]
  simp only [PacketBuffer.sequence_congr hbytes hheader, PacketBuffer.source_congr hbytes hheader,
    PacketBuffer.target_congr hbytes hheader, hwindow]
  split
  · exact h.still ⟨rfl, rfl, rfl, rfl, rfl⟩ ⟨rfl, rfl, rfl, rfl, rfl⟩
  · rename_i window _
    have haccepted : Twins env keys sent sent'
        (r.changeLink sender fun l => { l with window })
        (q.changeLink sender fun l => { l with window }) :=
      h.changeLink (f := fun l => { l with window }) ⟨fun _ _ => rfl, fun _ => rfl⟩ sender
    -- what follows is done to twins with the same message, whatever else they are
    generalize hx : (r.changeLink sender fun l => { l with window }) = x at haccepted ⊢
    generalize hy : (q.changeLink sender fun l => { l with window }) = y at haccepted ⊢
    have hsame' : SameMessage x y := hsame.of_packet (by rw [← hx]; rfl) (by rw [← hy]; rfl)
    have hy' : Keeps q y := hy ▸ keeps_changeLink
    have hsound : y.roster.Sound := by rwa [hy'.roster]
    have hhoused' : y.Housed := hhoused.keeps hy'
    have hsender' : y.HasAddress sender := by rwa [HasAddress, hy'.addresses]
    split
    · obtain ⟨hobeyed, hend⟩ := haccepted.obey hA hsound hhoused' hsender' hsame' now
      generalize x.obey env now sender = u at hobeyed hend ⊢
      generalize y.obey env.plain now sender = v at hobeyed hend ⊢
      rcases u with ⟨u, outcome⟩
      rcases v with ⟨v, outcome'⟩
      obtain rfl : outcome = outcome' := hend
      cases outcome with
      | ok => exact hobeyed
      | error e => exact hobeyed.penalize sender
    · have hbinding : x.roster.binding? sender q.desk.packet.source =
          y.roster.binding? sender q.desk.packet.source := by
        rw [Roster.binding?, haccepted.roster.joined, Roster.binding?]
      rw [hbinding]
      split
      · exact haccepted.penalize sender
      · exact haccepted.forward hA hsound hhoused' hsame' sender _ size

end Twins

/-! ## What is read -/

variable {now : Moment} {address : SocketAddress}

/-- A datagram of an established connection is opened and handled. -/
lemma receive_of_opened {datagram : Bytes} {packet : PacketBuffer}
    (haddress : r.addresses.get? address = some n) (hpending : (r.link n).pending = none)
    (hopen : (r.take datagram).openInput env n datagram =
      ((r.take datagram).setPacket packet, some size)) :
    r.receive env now address datagram =
      (((r.take datagram).setPacket packet).changeLink n (·.noteRead now.instant)).handle env now n
        size := by
  have hinput : (r.take datagram).desk.raw.take datagram.length = datagram := List.take_left
  have harrive : (r.take datagram).arrive env now address datagram =
      (r.take datagram, .message n) := by
    have haddress' : (r.take datagram).addresses.get? address = some n := haddress
    have hpending' : ((r.take datagram).link n).pending = none := hpending
    simp only [arrive, haddress', hpending']
  simp only [Relay.receive, hinput, harrive, hopen]

lemma openInput_clear (hkey : (r.link n).key = none) (hle : frame.length ≤ maxMessageSize) :
    r.openInput env n frame =
      (r.setPacket (r.desk.packet.fill frame hle), some frame.length) := by
  simp only [openInput, hkey, PacketBuffer.load_of_le _ hle]

/-- The size of a sealed message is counted without the seal. -/
lemma openInput_sealed (hA : env.cipher.Opens) {k : Key} (hkey : (r.link n).key = some k)
    (hle : frame.length ≤ maxMessageSize) (nonce : Nonce) :
    r.openInput env n (env.cipher.sealed k nonce [] frame) =
      (r.setPacket (r.desk.packet.fill frame hle), some frame.length) := by
  have hlong : ¬ frame.length + sealOverhead < sealOverhead := by omega
  simp only [openInput, hkey, PacketBuffer.loadSealed_sealed hA _ _ _ hle, Aead.length_sealed,
    if_neg hlong, Nat.add_sub_cancel]

/-- Both read the same message, one from a sealed datagram and the other from an open one.  Neither
makes a connection for it. -/
lemma Twins.receive (h : Twins env keys sent sent' r q) (hA : env.cipher.Opens)
    (hq : q.roster.Sound) (hhoused : q.Housed) (haddress : q.addresses.get? address = some n)
    (hroom : frame.length + sealOverhead ≤ maxMessageSize) (now : Moment) (nonce : Nonce) :
    Twins env keys sent sent'
        (r.receive env now address (env.cipher.sealed (keys n) nonce [] frame))
        (q.receive env.plain now address frame) ∧
      (q.receive env.plain now address frame).addresses = q.addresses := by
  obtain ⟨datagram, hdatagram⟩ : ∃ datagram, datagram = env.cipher.sealed (keys n) nonce [] frame :=
    ⟨_, rfl⟩
  have hle : frame.length ≤ maxMessageSize := by omega
  have hn : q.HasAddress n := ⟨address, haddress⟩
  rcases (h.established address n).mp haddress with ⟨haddress', hpending⟩
  have hpending' : (q.link n).pending = none := by
    rw [(h.link n hn).1] at hpending
    exact hpending
  have htaken : Twins env keys sent sent' (r.take datagram) (q.take frame) :=
    h.still ⟨rfl, rfl, rfl, rfl, rfl⟩ ⟨rfl, rfl, rfl, rfl, rfl⟩
  have hopen : (r.take datagram).openInput env n datagram =
      ((r.take datagram).setPacket (r.desk.packet.fill frame hle), some frame.length) := by
    rw [hdatagram] at htaken ⊢
    exact openInput_sealed hA (htaken.sealed hn) hle nonce
  have hopen' : (q.take frame).openInput env.plain n frame =
      ((q.take frame).setPacket (q.desk.packet.fill frame hle), some frame.length) :=
    openInput_clear (htaken.link n hn).2 hle
  rw [← hdatagram, receive_of_opened haddress' hpending hopen,
    receive_of_opened haddress hpending' hopen']
  have hread := (htaken.setPacket (r.desk.packet.fill frame hle)
    (q.desk.packet.fill frame hle)).changeLink (f := (·.noteRead now.instant))
      ⟨fun _ _ => rfl, fun _ => rfl⟩ n
  refine ⟨hread.handle hA hq (hhoused.keeps ⟨rfl, Store.size_modify .., rfl⟩) hn ?_ hroom now
    frame.length, (performs_handle rfl).addresses⟩
  show (r.desk.packet.fill frame hle).bytes = (q.desk.packet.fill frame hle).bytes
  rw [PacketBuffer.bytes_fill, PacketBuffer.bytes_fill]

/-! ## Runs -/

/-- A frame that a client sends on an established connection. -/
structure ClientFrame where
  moment : Moment
  address : SocketAddress
  link : LinkNo
  frame : Bytes
  /-- With this it is sealed, if it is. -/
  nonce : Nonce

/-- The frame comes as it is. -/
def ClientFrame.inClear (f : ClientFrame) : Moment × Event :=
  (f.moment, .datagram f.address f.frame)

/-- The frame comes sealed under the key of its connection. -/
def ClientFrame.sealed (A : Aead) (keys : LinkNo → Key) (f : ClientFrame) : Moment × Event :=
  (f.moment, .datagram f.address (A.sealed (keys f.link) f.nonce [] f.frame))

lemma Mirrors.twins (h : Mirrors keys r q) (hr : r.Orderly) (hq : q.Orderly) :
    Twins env keys r.outbox q.outbox r q := by
  refine ⟨h, ?_, [], [], ?_, ?_, .nil⟩
  · rintro n ⟨address, haddress⟩
    exact ⟨hr.addressed address n ((h.established address n).mp haddress).1,
      hq.addressed address n haddress⟩
  · rw [List.append_nil]
  · rw [List.append_nil]

/-- Frames leave twins as twins, as long as they come on connections that both have. -/
lemma Twins.run (h : Twins env keys sent sent' r q) (hA : env.cipher.Opens)
    (hq : Reachable env.plain q) (frames : List ClientFrame)
    (hframes : ∀ f ∈ frames, q.addresses.get? f.address = some f.link ∧
      f.frame.length + sealOverhead ≤ maxMessageSize) :
    Twins env keys sent sent' (r.run env (frames.map (·.sealed env.cipher keys)))
      (q.run env.plain (frames.map (·.inClear))) := by
  induction frames generalizing r q with
  | nil => exact h
  | cons f fs ih =>
      rcases List.forall_mem_cons.mp hframes with ⟨⟨haddress, hroom⟩, hrest⟩
      obtain ⟨hnext, haddresses⟩ :=
        h.receive hA hq.orderly.roster.sound hq.housed haddress hroom f.moment f.nonce
      -- the frames that are left come on the same connections, for no address was added or lost
      rw [← haddresses] at hrest
      exact ih hnext (hq.step f.moment (.datagram f.address f.frame)) hrest

/-- **A server that seals does what one without a key does.**  Take any two servers of which the
first has the sessions, payments and established connections of the second and keys for these
connections.  Frames that leave room for a seal come on these connections, sealed under their keys
for the first and in clear for the second.  Then sessions, payments and connections with their
windows and ban scores are the same again, and both have handed out the same messages to the same
connections in the same order. -/
theorem sealed_refines_plain (hA : env.cipher.Opens) (hr : Reachable env r)
    (hq : Reachable env.plain q) (h : Mirrors keys r q) (frames : List ClientFrame)
    (hframes : ∀ f ∈ frames, q.addresses.get? f.address = some f.link ∧
      f.frame.length + sealOverhead ≤ maxMessageSize) :
    let r' := r.run env (frames.map (·.sealed env.cipher keys))
    let q' := q.run env.plain (frames.map (·.inClear))
    Mirrors keys r' q' ∧
      ∃ xs ys, r'.outbox = r.outbox ++ xs ∧ q'.outbox = q.outbox ++ ys ∧
        List.Forall₂ (Parcel.Mirrors env.cipher keys) xs ys :=
  have htwins := (h.twins hr.orderly hq.orderly).run hA hq frames hframes
  ⟨htwins.toMirrors, htwins.outbox⟩

/-- A server with a private key.  Every handshake gives the key of zeros. -/
def sealingServer : Environment :=
  { openServer with
    settings := { privateKey := some ⟨default, default⟩ }
    decapsulate := fun _ => .ok default }

/-- A peer joins. -/
def homeJoin : Bytes := Frame.encode ⟨PeerId.server, ⟨1⟩, 1, [CommandTag.joinSession.byte]⟩

/-- A server with a private key, where a handshake gives the key that its first byte tells. -/
def keyedServer : Environment :=
  { sealingServer with decapsulate := fun ciphertext => .ok ⟨.ofPrefixed 32 (ciphertext.take 1)⟩ }

/-- The three connections at home have different keys. -/
def homeKey (n : LinkNo) : Key := ⟨.ofPrefixed 32 [.ofNat n]⟩

/-- A frame from home, where each connection has a port of its own. -/
def homeFrame (n : LinkNo) (frame : Bytes) : ClientFrame :=
  ⟨default, { (default : SocketAddress) with port := .ofNat n }, n, frame, default⟩

/-- What completes the three handshakes: a join on the first connection, nothing on the others. -/
def homeOpening : List ClientFrame := [homeFrame 0 homeJoin, homeFrame 1 [], homeFrame 2 []]

/-- The server with the key. -/
def sealedHome : Relay :=
  let hello (f : ClientFrame) : Moment × Event :=
    (default, .datagram f.address (.ofNat f.link :: List.replicate (MlKem.ciphertextSize - 1) 0))
  start.run keyedServer (homeOpening.map hello ++ List.replicate 3 (default, .greet) ++
    homeOpening.map (·.sealed xchacha20Poly1305 homeKey))

/-- The server without it, where nothing comes before these frames. -/
def openHome : Relay := start.run keyedServer.plain (homeOpening.map (·.inClear))

lemma mirrors_home : Mirrors homeKey sealedHome openHome := by
  have hsame : sealedHome.addresses = openHome.addresses := by decide +kernel
  have hsize : openHome.links.size = 3 := by decide +kernel
  have hreach : Reachable keyedServer.plain openHome := Reachable.start.run _
  have hlt (address : SocketAddress) (n : LinkNo) (hn : openHome.addresses.get? address = some n) :
      n < 3 := hsize ▸ hreach.orderly.addressed address n hn
  have hpending : ∀ n < 3, (sealedHome.link n).pending = none := by decide +kernel
  have hlink : ∀ n < 3, sealedHome.link n = { openHome.link n with key := some (homeKey n) } ∧
      (openHome.link n).key = none := by decide +kernel
  refine ⟨by decide +kernel, by decide +kernel, fun address n => ?_, ?_⟩
  · rw [hsame]
    exact ⟨fun hn => ⟨hn, hpending n (hlt address n hn)⟩, And.left⟩
  · rintro n ⟨address, hn⟩
    exact hlink n (hlt address n hn)

/-- Two more peers join the session.  The first one sends a byte and then leaves. -/
def homeFrames : List ClientFrame :=
  [homeFrame 1 (Frame.encode ⟨PeerId.server, ⟨2⟩, 1, [CommandTag.joinSession.byte]⟩),
    homeFrame 2 (Frame.encode ⟨PeerId.server, ⟨3⟩, 1, [CommandTag.joinSession.byte]⟩),
    homeFrame 0 (Frame.encode ⟨⟨1⟩, ⟨1⟩, 2, [65]⟩),
    homeFrame 0 (Frame.encode ⟨PeerId.server, ⟨1⟩, 3, [CommandTag.leaveSession.byte]⟩)]

/-- Two replies, the byte for the two others in the order in which they came, and a reply. -/
def homeAnswers : List (LinkNo × Bytes) :=
  [(1, Frame.encode ⟨⟨2⟩, PeerId.server, 1, (Command.joinSessionReply .noError).data⟩),
    (2, Frame.encode ⟨⟨3⟩, PeerId.server, 1, (Command.joinSessionReply .noError).data⟩),
    (1, Frame.encode ⟨⟨2⟩, ⟨1⟩, 2, [65]⟩),
    (2, Frame.encode ⟨⟨3⟩, ⟨1⟩, 2, [65]⟩),
    (0, Frame.encode ⟨⟨1⟩, PeerId.server, 2, (Command.leaveSessionReply .noError).data⟩)]

/-- Joins, a message that is passed on to two connections and a leave are treated alike. -/
theorem sealed_refines_plain_leave :
    let r := sealedHome.run keyedServer (homeFrames.map (·.sealed xchacha20Poly1305 homeKey))
    let q := openHome.run keyedServer.plain (homeFrames.map (·.inClear))
    Mirrors homeKey r q ∧
      ∃ xs ys, r.outbox = sealedHome.outbox ++ xs ∧ q.outbox = openHome.outbox ++ ys ∧
        List.Forall₂ (Parcel.Mirrors xchacha20Poly1305 homeKey) xs ys ∧
        ys.map (fun y => (y.link, y.message)) = homeAnswers := by
  intro r q
  have hA : keyedServer.cipher.Opens := XChaCha20Poly1305.opens
  have hr : Reachable keyedServer sealedHome := Reachable.start.run _
  have hq : Reachable keyedServer.plain openHome := Reachable.start.run _
  obtain ⟨hmirrors, xs, ys, hxs, hys, hall⟩ :=
    sealed_refines_plain hA hr hq mirrors_home homeFrames (by decide +kernel)
  refine ⟨hmirrors, xs, ys, hxs, hys, hall, ?_⟩
  have hsent : q.outbox.map (fun y => (y.link, y.message)) =
      openHome.outbox.map (fun y => (y.link, y.message)) ++ homeAnswers := by decide +kernel
  have hq : q.outbox = openHome.outbox ++ ys := hys
  rw [hq, List.map_append] at hsent
  exact List.append_cancel_left hsent

end Relay

end MeteredRelay
