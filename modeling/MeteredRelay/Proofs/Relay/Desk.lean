import MeteredRelay.Proofs.PacketBuffer.Contents
import MeteredRelay.Proofs.Relay.Mirror.Refinement
import MeteredRelay.Proofs.Relay.Turns

/-!
# What is left on the desk does not matter

The buffers on the desk are used again for every datagram, and none of them is cleared in between.
Header fields are read whatever the length of the message, a reply writes over parts of a request
only, and a command may grow beyond the message that it answers: each of these could show one peer
what another had sent.

It does not.  Two relays that are the same but for their desks (`Beside`) find the same connection
for a datagram and open the same message, although what lies behind the message differs.  From then
on they do the same, since all that is read of the desk is the message, and all that leaves it was
written on top (`Together`).  So after any datagram they are the same again but for their desks
(**`Beside.receive`**, **`receive_desk`**), and after any run (**`Beside.run`**).
-/

namespace MeteredRelay

namespace Relay

/-- The same relay but for what lies on the desk. -/
structure Beside (r q : Relay) : Prop where
  exists_desk : ∃ desk, q = { r with desk }

/-- The same outcome, and the same relay but for what lies on the desk. -/
structure Together {α : Type} (x y : Relay × α) : Prop where
  relay : Beside x.1 y.1
  outcome : y.2 = x.2

/-- The same message lies on both desks, and it has a header. -/
structure SameFrame (r q : Relay) : Prop where
  bytes : r.desk.packet.bytes = q.desk.packet.bytes
  header : r.desk.packet.hasHeader = true

/-- Messages lie on the desks that differ in target and number at most. -/
structure SameContent (r q : Relay) : Prop where
  header : r.desk.packet.hasHeader = true
  header' : q.desk.packet.hasHeader = true
  source : r.desk.packet.source = q.desk.packet.source
  data : r.desk.packet.data = q.desk.packet.data

variable {env : Environment} {r q : Relay} {caller : LinkNo} {payload : Bytes}

/-- One message is enough for all copies of it to agree in source and data. -/
lemma SameFrame.content (h : SameFrame r q) : SameContent r q where
  header := h.header
  header' := by rw [← PacketBuffer.hasHeader_congr h.bytes, h.header]
  source := PacketBuffer.source_congr h.bytes h.header
  data := PacketBuffer.data_congr h.bytes

namespace Beside

lemma link (h : Beside r q) (n : LinkNo) : q.link n = r.link n := by
  obtain ⟨⟨d, rfl⟩⟩ := h
  rfl

lemma roster (h : Beside r q) : q.roster = r.roster := by
  obtain ⟨⟨d, rfl⟩⟩ := h
  rfl

lemma changeLink (h : Beside r q) (n : LinkNo) (f : Link → Link) :
    Beside (r.changeLink n f) (q.changeLink n f) := by
  obtain ⟨⟨d, rfl⟩⟩ := h
  exact ⟨⟨d, rfl⟩⟩

lemma setPacket (h : Beside r q) (p p' : PacketBuffer) :
    Beside (r.setPacket p) (q.setPacket p') := by
  obtain ⟨⟨d, rfl⟩⟩ := h
  exact ⟨⟨_, rfl⟩⟩

lemma setRoster (h : Beside r q) (roster : Roster) :
    Beside (r.setRoster roster) (q.setRoster roster) := by
  obtain ⟨⟨d, rfl⟩⟩ := h
  exact ⟨⟨d, rfl⟩⟩

/-! ## Delivery -/

/-- A sealed datagram goes to the desk as a whole, over whatever lay there. -/
lemma sealed (h : Beside r q) (env : Environment) (n : LinkNo) (message : Bytes) :
    Together (r.seal? env n message) (q.seal? env n message) := by
  have hlink := h.link n
  obtain ⟨⟨d, rfl⟩⟩ := h
  simp only [seal?, hlink]
  split
  · exact ⟨⟨⟨d, rfl⟩⟩, rfl⟩
  · split <;> exact ⟨⟨⟨_, rfl⟩⟩, rfl⟩

/-- What is delivered is given with the call, and not read off the desk. -/
lemma deliver (h : Beside r q) (env : Environment) (n : LinkNo) (origin : Origin)
    (message : Bytes) :
    Together (r.deliver env n origin message) (q.deliver env n origin message) := by
  have hseal := h.sealed env n message
  simp only [Relay.deliver]
  generalize r.seal? env n message = x at hseal ⊢
  generalize q.seal? env n message = y at hseal ⊢
  rcases x with ⟨x, outcome⟩
  rcases y with ⟨y, outcome'⟩
  obtain ⟨⟨d, rfl⟩⟩ : Beside x y := hseal.relay
  obtain rfl : outcome' = outcome := hseal.outcome
  cases outcome' <;> exact ⟨⟨⟨d, rfl⟩⟩, rfl⟩

/-- A message that is stamped on the desk goes out alike, if its bytes are alike. -/
lemma deliverNumbered (h : Beside r q) (env : Environment) (n : LinkNo) (origin : Origin)
    (stamp : UInt32 → PacketBuffer → PacketBuffer)
    (hstamp : ∀ k, (stamp k r.desk.packet).bytes = (stamp k q.desk.packet).bytes) :
    Together (r.deliverNumbered env n origin stamp) (q.deliverNumbered env n origin stamp) := by
  simp only [Relay.deliverNumbered, h.link, ← hstamp]
  exact ((h.changeLink n (·.advance)).setPacket _ _).deliver env n origin _

/-- A reply shows nothing of the header that it is written over. -/
lemma reply (h : Beside r q) (hr : r.desk.packet.hasHeader = true)
    (hq : q.desk.packet.hasHeader = true) (hdata : r.desk.packet.data = q.desk.packet.data)
    (env : Environment) (n : LinkNo) (target : PeerId) :
    Together (r.reply env n target) (q.reply env n target) := by
  have hstamp (k : UInt32) : (r.desk.packet.setReplyHeader target k).bytes =
      (q.desk.packet.setReplyHeader target k).bytes := by
    rw [PacketBuffer.bytes_reply hr, PacketBuffer.bytes_reply hq, hdata]
  have hsent := h.deliverNumbered env n .server (fun k p => p.setReplyHeader target k) hstamp
  exact ⟨hsent.relay, by simp only [Relay.reply, hsent.outcome]⟩

/-- A command is written over the message on the desk, header and all. -/
lemma sendCommand (h : Beside r q) (env : Environment) (n : LinkNo) (target : PeerId)
    (c : Command) : Together (r.sendCommand env n target c) (q.sendCommand env n target c) := by
  simp only [Relay.sendCommand]
  rcases r.desk.packet.setCommand_alike q.desk.packet c.tag c.payload with
    ⟨e, hr, hq⟩ | ⟨p, p', hr, hq, hheader, hheader', hdata⟩
  · rw [hr, hq]
    exact ⟨h, rfl⟩
  · rw [hr, hq]
    exact (h.setPacket p p').reply hheader hheader' hdata env n target

/-! ## Commands -/

lemma grant (h : Beside r q) (env : Environment) (now : Moment) (peer : PeerId) (cookie : Bytes) :
    Together (r.grant env now peer cookie) (q.grant env now peer cookie) := by
  obtain ⟨⟨d, rfl⟩⟩ := h
  exact ⟨⟨⟨d, rfl⟩⟩, rfl⟩

lemma obeyJoin (h : Beside r q) (now : Moment) (source : PeerId) (cookie : Bytes) :
    Together (r.obeyJoin env now caller source cookie)
      (q.obeyJoin env now caller source cookie) := by
  have hgrant := h.grant env now source cookie
  simp only [Relay.obeyJoin]
  generalize r.grant env now source cookie = x at hgrant ⊢
  generalize q.grant env now source cookie = y at hgrant ⊢
  rcases x with ⟨x, granted⟩
  rcases y with ⟨y, granted'⟩
  have hxy : Beside x y := hgrant.relay
  obtain rfl : granted' = granted := hgrant.outcome
  cases granted' with
  | error e => exact ⟨(hxy.sendCommand env caller source _).relay, rfl⟩
  | ok g =>
      dsimp only
      rw [hxy.roster]
      generalize x.roster.bind now.instant caller source g = z
      rcases z with ⟨roster, bound⟩
      have hsent := (hxy.setRoster roster).sendCommand env caller source
        (.joinSessionReply (disclosedCode env bound))
      dsimp only
      generalize Relay.sendCommand env (x.setRoster roster) caller source _ = u at hsent ⊢
      generalize Relay.sendCommand env (y.setRoster roster) caller source _ = v at hsent ⊢
      cases bound with
      | error e => exact hsent
      | ok k =>
          refine ⟨?_, hsent.outcome⟩
          dsimp only
          rw [hsent.relay.roster]
          exact hsent.relay.setRoster _

lemma obeyLeave (h : Beside r q) (source : PeerId) :
    Together (r.obeyLeave env caller source) (q.obeyLeave env caller source) := by
  simp only [Relay.obeyLeave, h.roster]
  exact (h.setRoster _).sendCommand env caller source _

lemma obeyKick (h : Beside r q) (now : Moment) (source target : PeerId) (banSeconds : UInt32) :
    Together (r.obeyKick env now caller source target banSeconds)
      (q.obeyKick env now caller source target banSeconds) := by
  simp only [Relay.obeyKick, h.roster]
  generalize r.roster.kick now.instant caller source target banSeconds = z
  rcases z with ⟨roster, kicked⟩
  have hset := h.setRoster roster
  have hreply (x y : Relay) (hxy : Beside x y) :=
    hxy.sendCommand env caller source (.kickPeerReply target (disclosedCode env kicked))
  cases kicked with
  | error e =>
      have hsent := hreply _ _ hset
      exact ⟨hsent.relay, by simp only [hsent.outcome]⟩
  | ok held =>
      have htold := (hset.sendCommand env held target (.kickPeer target banSeconds)).relay
      dsimp only
      generalize (Relay.sendCommand env (r.setRoster roster) held target _).1 = u at htold ⊢
      generalize (Relay.sendCommand env (q.setRoster roster) held target _).1 = v at htold ⊢
      have hsent := hreply u v htold
      exact ⟨hsent.relay, by rw [hsent.outcome]⟩

lemma obeyRotate (h : Beside r q) (now : Moment) (source : PeerId) (cookie : Bytes) :
    Together (r.obeyRotate env now caller source cookie)
      (q.obeyRotate env now caller source cookie) := by
  have hsent := (h.setRoster (r.roster.rotate env now caller source cookie).1).sendCommand env
    caller source
    (.rotateCookiesReply (disclosedCode env (r.roster.rotate env now caller source cookie).2))
  simp only [Relay.obeyRotate, h.roster]
  exact ⟨hsent.relay, by simp only [hsent.outcome]⟩

/-- A reply to a ping keeps its payload, which is part of the message that both were sent. -/
lemma obeyPing (h : Beside r q) {b : UInt8} (hr : r.desk.packet.data = b :: payload)
    (hq : q.desk.packet.data = b :: payload) (now : Moment) (source : PeerId) :
    Together (r.obeyPing env now caller source payload)
      (q.obeyPing env now caller source payload) := by
  have hnoted := h.changeLink caller (·.notePing now.instant)
  obtain ⟨hheader, hdata⟩ := PacketBuffer.setTag_eq hr .pong
  obtain ⟨hheader', hdata'⟩ := PacketBuffer.setTag_eq hq .pong
  have hsent := (hnoted.setPacket (r.desk.packet.setTag .pong) (q.desk.packet.setTag .pong)).reply
    hheader hheader' (hdata.trans hdata'.symm) env caller source
  simp only [Relay.obeyPing, h.link]
  split
  · exact ⟨h, rfl⟩
  · split
    · split
      · exact ⟨hnoted, rfl⟩
      · exact hsent
    · exact hsent

/-- The same command is obeyed in the same way. -/
lemma obey (h : Beside r q) (hsame : SameFrame r q) (env : Environment) (now : Moment)
    (caller : LinkNo) : Together (r.obey env now caller) (q.obey env now caller) := by
  simp only [Relay.obey, PacketBuffer.target_congr hsame.bytes hsame.header,
    PacketBuffer.source_congr hsame.bytes hsame.header, PacketBuffer.command_congr hsame.bytes]
  split
  · exact ⟨h, rfl⟩
  split
  · exact ⟨h, rfl⟩
  · rename_i tag payload hcommand
    cases tag with
    | ping =>
        obtain ⟨b, hb⟩ := Command.data_of_split hcommand
        exact h.obeyPing ((PacketBuffer.data_congr hsame.bytes).trans hb) hb now _
    | pong =>
        simp only [obeyPong]
        split <;> exact ⟨h, rfl⟩
    | joinSession => exact h.obeyJoin now _ payload
    | leaveSession => exact h.obeyLeave _
    | kickPeer =>
        dsimp only
        split
        · exact ⟨h, rfl⟩
        · exact h.obeyKick now _ _ _
    | rotateCookies => exact h.obeyRotate now _ payload
    | _ => exact ⟨h, rfl⟩

/-! ## Copies -/

/-- A copy has a target and a number of its own, and leaves the rest on the desk for the next. -/
lemma copy (h : Beside r q) (hsame : SameContent r q) (env : Environment) (n : LinkNo)
    (origin : Origin) (peer : PeerId) :
    Beside (r.deliverNumbered env n origin fun k p => p.readdress peer k).1
        (q.deliverNumbered env n origin fun k p => p.readdress peer k).1 ∧
      SameContent (r.deliverNumbered env n origin fun k p => p.readdress peer k).1
        (q.deliverNumbered env n origin fun k p => p.readdress peer k).1 := by
  have hbytes (k : UInt32) :
      (r.desk.packet.readdress peer k).bytes = (q.desk.packet.readdress peer k).bytes := by
    rw [PacketBuffer.bytes_readdress hsame.header, PacketBuffer.bytes_readdress hsame.header',
      hsame.source, hsame.data]
  have hpacket (x : Relay) :
      (x.deliverNumbered env n origin fun k p => p.readdress peer k).1.desk.packet =
        x.desk.packet.readdress peer (x.link n).nextSequence := (still_deliver ..).2
  refine ⟨(h.deliverNumbered env n origin _ hbytes).relay, ?_, ?_, ?_, ?_⟩
  · rw [hpacket, PacketBuffer.hasHeader_readdress, hsame.header]
  · rw [hpacket, PacketBuffer.hasHeader_readdress, hsame.header']
  · rw [hpacket, hpacket, PacketBuffer.source_readdress, PacketBuffer.source_readdress,
      hsame.source]
  · rw [hpacket, hpacket, PacketBuffer.data_readdress, PacketBuffer.data_readdress, hsame.data]

/-- A loop hands out the same copies, if it leaves the same ones out. -/
lemma copies {step : Relay → Destination → Relay} (h : Beside r q) (hsame : SameContent r q)
    (env : Environment) (hstep : ∀ d, (∀ x, step x d = x) ∨ ∃ origin, ∀ x,
      step x d = (x.deliverNumbered env d.link origin fun k p => p.readdress d.peer k).1)
    (ds : List Destination) : Beside (ds.foldl step r) (ds.foldl step q) := by
  induction ds generalizing r q with
  | nil => exact h
  | cons d ds ih =>
      rw [List.foldl_cons, List.foldl_cons]
      rcases hstep d with hskip | ⟨origin, hcopy⟩
      · rw [hskip, hskip]
        exact ih h hsame
      · obtain ⟨hnext, hkept⟩ := h.copy hsame env d.link origin d.peer
        rw [← hcopy, ← hcopy] at hnext hkept
        exact ih hnext hkept

/-- Copies are made of the message itself, one after the other. -/
lemma fanOut (h : Beside r q) (hsame : SameContent r q)
    (hdestinations : q.desk.destinations = r.desk.destinations) (env : Environment)
    (sender : LinkNo) : Beside (r.fanOut env sender) (q.fanOut env sender) := by
  have hstep (d : Destination) : (∀ x, forwardTo env sender x d = x) ∨ ∃ origin, ∀ x,
      forwardTo env sender x d =
        (x.deliverNumbered env d.link origin fun k p => p.readdress d.peer k).1 := by
    by_cases hd : d.link = sender
    · exact .inl fun x => if_pos hd
    · exact .inr ⟨.relayed sender, fun x => if_neg hd⟩
  simp only [Relay.fanOut, hdestinations]
  obtain ⟨⟨d, hd⟩⟩ := h.copies hsame env hstep r.desk.destinations
  exact ⟨⟨_, by rw [hd]⟩⟩

lemma address (h : Beside r q) (sender : LinkNo) (n : SessionNo) (size : Nat) :
    Beside (r.address sender n size) (q.address sender n size) := by
  obtain ⟨⟨d, rfl⟩⟩ := h
  simp only [Relay.address]
  split <;> exact ⟨⟨_, rfl⟩⟩

lemma forward (h : Beside r q) (hsame : SameFrame r q) (sender : LinkNo) (b : Binding)
    (size : Nat) : Beside (r.forward env sender b size) (q.forward env sender b size) := by
  have hcharged : Together (r.charge b (price size)) (q.charge b (price size)) := by
    obtain ⟨⟨d, rfl⟩⟩ := h
    exact ⟨⟨⟨d, rfl⟩⟩, rfl⟩
  have hpacket (x : Relay) :
      ((x.charge b (price size)).1.address sender b.session b.size).desk.packet = x.desk.packet :=
    packet_address ..
  unfold Relay.forward
  dsimp only
  rw [hcharged.outcome]
  split
  · have haddressed := hcharged.relay.address sender b.session b.size
    have hframe : SameFrame ((r.charge b (price size)).1.address sender b.session b.size)
        ((q.charge b (price size)).1.address sender b.session b.size) := by
      refine ⟨?_, ?_⟩
      · rw [hpacket, hpacket, hsame.bytes]
      · rw [hpacket, hsame.header]
    have hsent := haddressed.fanOut hframe.content
      (by rw [destinations_address, destinations_address, hcharged.relay.roster]) env sender
    generalize Relay.fanOut env ((r.charge b (price size)).1.address _ _ _) sender = x at hsent ⊢
    generalize Relay.fanOut env ((q.charge b (price size)).1.address _ _ _) sender = y at hsent ⊢
    obtain ⟨⟨d, rfl⟩⟩ := hsent
    exact ⟨⟨d, rfl⟩⟩
  · obtain ⟨⟨d, hd⟩⟩ := hcharged.relay
    rw [hd]
    exact ⟨⟨d, rfl⟩⟩

/-! ## Datagrams -/

/-- The same message is handled in the same way, also if it has no header. -/
lemma handle (h : Beside r q) (hbytes : r.desk.packet.bytes = q.desk.packet.bytes)
    (env : Environment) (now : Moment) (sender : LinkNo) (size : Nat) :
    Beside (r.handle env now sender size) (q.handle env now sender size) := by
  simp only [Relay.handle, ← PacketBuffer.hasHeader_congr hbytes, h.link, h.roster]
  split
  · exact h.changeLink sender _
  rename_i hheader
  have hheader : r.desk.packet.hasHeader = true := by simpa using hheader
  rw [← PacketBuffer.sequence_congr hbytes hheader, ← PacketBuffer.source_congr hbytes hheader,
    ← PacketBuffer.target_congr hbytes hheader]
  split
  · obtain ⟨⟨d, rfl⟩⟩ := h
    exact ⟨⟨d, rfl⟩⟩
  rename_i window _
  have hnoted := h.changeLink sender fun l => { l with window }
  have hframe : SameFrame (r.changeLink sender fun l => { l with window })
      (q.changeLink sender fun l => { l with window }) := ⟨hbytes, hheader⟩
  split
  · have hobeyed := hnoted.obey hframe env now sender
    generalize Relay.obey env now (r.changeLink sender _) sender = x at hobeyed ⊢
    generalize Relay.obey env now (q.changeLink sender _) sender = y at hobeyed ⊢
    rcases x with ⟨x, outcome⟩
    rcases y with ⟨y, outcome'⟩
    have hxy : Beside x y := hobeyed.relay
    obtain rfl : outcome' = outcome := hobeyed.outcome
    cases outcome' with
    | ok u => exact hxy
    | error e => exact hxy.changeLink sender _
  · rw [hnoted.roster]
    split
    · exact hnoted.changeLink sender _
    · exact hnoted.forward hframe sender _ size

/-- The same datagram opens to the same message. -/
lemma openInput (h : Beside r q) (env : Environment) (n : LinkNo) (input : Bytes) :
    Together (r.openInput env n input) (q.openInput env n input) ∧
      ((r.openInput env n input).2.isSome = true →
        (r.openInput env n input).1.desk.packet.bytes =
          (q.openInput env n input).1.desk.packet.bytes) := by
  simp only [Relay.openInput, h.link]
  split
  · by_cases hfits : input.length ≤ maxMessageSize
    · rw [PacketBuffer.load_of_le _ hfits, PacketBuffer.load_of_le _ hfits]
      refine ⟨⟨h.setPacket _ _, rfl⟩, fun _ => ?_⟩
      show (r.desk.packet.fill input hfits).bytes = (q.desk.packet.fill input hfits).bytes
      rw [PacketBuffer.bytes_fill, PacketBuffer.bytes_fill]
    · have hload (p : PacketBuffer) :
          p.load input = .error (.tooLarge maxMessageSize input.length) := dif_neg hfits
      rw [hload, hload]
      exact ⟨⟨h, rfl⟩, by simp⟩
  · rename_i k _
    split
    · exact ⟨⟨h, rfl⟩, by simp⟩
    · obtain ⟨hopened, hbytes⟩ :=
        PacketBuffer.loadSealed_alike env.cipher r.desk.packet q.desk.packet k input
      rw [← hopened]
      have hset := h.setPacket (r.desk.packet.loadSealed env.cipher k input).1
        (q.desk.packet.loadSealed env.cipher k input).1
      split
      · exact ⟨⟨hset, rfl⟩, fun _ => hbytes⟩
      · refine ⟨⟨?_, rfl⟩, by simp⟩
        obtain ⟨⟨d, rfl⟩⟩ := h
        exact ⟨⟨_, rfl⟩⟩

/-- The connection is found by the address and what it is pending on. -/
lemma arrive (h : Beside r q) (env : Environment) (now : Moment) (address : SocketAddress)
    (input : Bytes) :
    Together (r.arrive env now address input) (q.arrive env now address input) := by
  have hlink := h.link
  obtain ⟨⟨d, rfl⟩⟩ := h
  simp only [Relay.arrive, hlink]
  split
  · split
    · exact ⟨⟨⟨d, rfl⟩⟩, rfl⟩
    · split <;> exact ⟨⟨⟨d, rfl⟩⟩, rfl⟩
  · split
    · exact ⟨⟨⟨d, rfl⟩⟩, rfl⟩
    · split
      · exact ⟨⟨⟨d, rfl⟩⟩, rfl⟩
      · simp only [queueHandshake]
        split <;> exact ⟨⟨⟨d, rfl⟩⟩, rfl⟩

lemma read (h : Beside r q) (env : Environment) (now : Moment) (n : LinkNo) (datagram : Bytes) :
    Beside (r.read env now n datagram) (q.read env now n datagram) := by
  obtain ⟨htogether, hbytes⟩ := h.openInput env n datagram
  unfold Relay.read
  generalize r.openInput env n datagram = x at htogether hbytes ⊢
  generalize q.openInput env n datagram = y at htogether hbytes ⊢
  rcases x with ⟨x, opened⟩
  rcases y with ⟨y, opened'⟩
  have hxy : Beside x y := htogether.relay
  obtain rfl : opened' = opened := htogether.outcome
  cases opened' with
  | none => exact hxy
  | some size =>
      exact (hxy.changeLink n (·.noteRead now.instant)).handle (hbytes rfl) env now n size

/-- **A datagram is received in the same way whatever lies on the desk.** -/
theorem receive (h : Beside r q) (env : Environment) (now : Moment) (address : SocketAddress)
    (datagram : Bytes) :
    Beside (r.receive env now address datagram) (q.receive env now address datagram) := by
  have harrives := h.arrive env now address datagram
  obtain ⟨x, arrival, hr⟩ : ∃ x arrival, r.arrive env now address datagram = (x, arrival) :=
    ⟨_, _, rfl⟩
  obtain ⟨y, arrival', hq⟩ : ∃ y arrival, q.arrive env now address datagram = (y, arrival) :=
    ⟨_, _, rfl⟩
  rw [receive_eq hr, receive_eq hq]
  rw [hr, hq] at harrives
  obtain rfl : arrival' = arrival := harrives.outcome
  have htaken : Beside (x.take datagram) (y.take datagram) := by
    obtain ⟨⟨d, rfl⟩⟩ : Beside x y := harrives.relay
    exact ⟨⟨_, rfl⟩⟩
  cases arrival' with
  | consumed => exact htaken
  | repeated n ciphertext =>
      exact ((htaken.changeLink n (·.noteRead now.instant)).deliver env n .echo ciphertext).relay
  | message n => exact htaken.read env now n datagram

/-! ## Other events -/

/-- A loop does the same if its steps do. -/
lemma foldl {α : Type} {step : Relay → α → Relay} (h : Beside r q)
    (hstep : ∀ {r q} a, Beside r q → Beside (step r a) (step q a)) (l : List α) :
    Beside (l.foldl step r) (l.foldl step q) := by
  induction l generalizing r q with
  | nil => exact h
  | cons a l ih => exact ih (hstep a h)

lemma answer (h : Beside r q) (env : Environment) (n : LinkNo) (data : Bytes) :
    Beside (r.answer env n data) (q.answer env n data) := by
  simp only [Relay.answer, h.link]
  split
  · exact h
  · split
    · exact (h.deliver env n .echo _).relay
    · exact h

lemma greet (h : Beside r q) (env : Environment) : Beside (r.greet env) (q.greet env) := by
  have hwaiting : q.handshakes = r.handshakes ∧ q.addresses = r.addresses ∧
      q.links.size = r.links.size := by
    obtain ⟨⟨d, rfl⟩⟩ := h
    exact ⟨rfl, rfl, rfl⟩
  obtain ⟨hwaiting, haddresses, hsize⟩ := hwaiting
  unfold Relay.greet
  rw [hwaiting]
  cases r.handshakes with
  | nil => exact h
  | cons first rest =>
      have hrest : Beside { r with handshakes := rest } { q with handshakes := rest } := by
        obtain ⟨⟨d, rfl⟩⟩ := h
        exact ⟨⟨d, rfl⟩⟩
      have hfound : q.addresses.get? first.address = r.addresses.get? first.address := by
        rw [haddresses]
      dsimp only
      rw [hfound]
      split
      · exact hrest.answer env _ _
      · split
        · exact hrest
        · rename_i key _
          have hbegun : Beside (r.beginLink first rest key) (q.beginLink first rest key) := by
            obtain ⟨⟨d, rfl⟩⟩ := h
            exact ⟨⟨d, rfl⟩⟩
          show Beside ((r.beginLink first rest key).answer env r.links.size first.data)
            ((q.beginLink first rest key).answer env q.links.size first.data)
          rw [hsize]
          exact hbegun.answer env _ _

lemma dropLink (h : Beside r q) (address : SocketAddress) :
    Beside (r.dropLink address) (q.dropLink address) := by
  have hlink := h.link
  obtain ⟨⟨d, rfl⟩⟩ := h
  simp only [Relay.dropLink, hlink]
  split
  · exact ⟨⟨d, rfl⟩⟩
  · split <;> exact ⟨⟨d, rfl⟩⟩

lemma sweep (h : Beside r q) (env : Environment) (now : Instant) :
    Beside (r.sweep env now).1 (q.sweep env now).1 := by
  have hstale : q.staleAddresses env now = r.staleAddresses env now := by
    have hlink := h.link
    obtain ⟨⟨d, rfl⟩⟩ := h
    simp only [staleAddresses, hlink]
  simp only [Relay.sweep, hstale]
  exact h.foldl (fun address hxy => hxy.dropLink address) _

lemma sendListing (h : Beside r q) (env : Environment) (l : Listing) :
    Beside (r.sendListing env l) (q.sendListing env l) := by
  simp only [Relay.sendListing]
  rcases r.desk.packet.setCommand_alike q.desk.packet .membersBitmap l.bitmap with
    ⟨e, hr, hq⟩ | ⟨p, p', hr, hq, hheader, hheader', hdata⟩
  · rw [hr, hq]
    exact h
  · rw [hr, hq]
    have hset := h.setPacket (p.setSource .server) (p'.setSource .server)
    have hsame : SameContent (r.setPacket (p.setSource .server))
        (q.setPacket (p'.setSource .server)) :=
      ⟨hheader, hheader',
        (PacketBuffer.source_setSource ..).trans (PacketBuffer.source_setSource ..).symm,
        (PacketBuffer.data_setSource ..).trans (hdata.trans (PacketBuffer.data_setSource ..).symm)⟩
    exact hset.copies hsame env (fun d => .inr ⟨.server, fun x => rfl⟩) l.destinations

lemma list (h : Beside r q) (env : Environment) (now : Instant) (spacing : Span) (n : SessionNo) :
    Beside (list env now spacing r n) (list env now spacing q n) := by
  have htaken : Together (r.takeListing n now spacing) (q.takeListing n now spacing) := by
    obtain ⟨⟨d, rfl⟩⟩ := h
    exact ⟨⟨⟨d, rfl⟩⟩, rfl⟩
  simp only [Relay.list]
  generalize r.takeListing n now spacing = x at htaken ⊢
  generalize q.takeListing n now spacing = y at htaken ⊢
  rcases x with ⟨x, listing⟩
  rcases y with ⟨y, listing'⟩
  have hxy : Beside x y := htaken.relay
  obtain rfl : listing' = listing := htaken.outcome
  cases listing' with
  | none => exact hxy
  | some l => exact hxy.sendListing env l

/-- **Every event is the same whatever lies on the desk.** -/
theorem step (h : Beside r q) (env : Environment) (now : Moment) (e : Event) :
    Beside (r.step env now e) (q.step env now e) := by
  cases e with
  | datagram address data => exact h.receive env now address data
  | greet => exact h.greet env
  | sweep => exact h.sweep env now.instant
  | forgetPayments =>
      obtain ⟨⟨d, rfl⟩⟩ := h
      exact ⟨⟨d, rfl⟩⟩
  | listAll =>
      simp only [Relay.step, Relay.listAll, h.roster]
      exact h.foldl (fun n hxy => hxy.list env now.instant _ n) _
  | takeForced =>
      obtain ⟨⟨d, rfl⟩⟩ := h
      simp only [Relay.step, takeForced]
      split <;> exact ⟨⟨d, rfl⟩⟩
  | listForced =>
      have hnext : q.nextListing = r.nextListing := by
        obtain ⟨⟨d, rfl⟩⟩ := h
        rfl
      simp only [Relay.step, listForced, hnext]
      split
      · exact h
      · refine list ?_ env _ _ _
        obtain ⟨⟨d, rfl⟩⟩ := h
        exact ⟨⟨d, rfl⟩⟩

/-- What was left on the desk before a run does not matter to it. -/
theorem run (h : Beside r q) (env : Environment) (events : List (Moment × Event)) :
    Beside (r.run env events) (q.run env events) :=
  h.foldl (fun e hxy => hxy.step env e.1 e.2) events

end Beside

/-- **That buffers are used again cannot be seen.**  Whatever lies on the desk, a datagram has a
relay hand out the same and leaves it the same, but for the desk. -/
theorem receive_desk (env : Environment) (now : Moment) (r : Relay) (desk desk' : Desk)
    (address : SocketAddress) (datagram : Bytes) :
    ∃ left, ({ r with desk := desk' } : Relay).receive env now address datagram =
      { ({ r with desk } : Relay).receive env now address datagram with desk := left } := by
  have h : Beside { r with desk } { r with desk := desk' } := ⟨⟨desk', rfl⟩⟩
  exact (h.receive env now address datagram).exists_desk

end Relay

end MeteredRelay
