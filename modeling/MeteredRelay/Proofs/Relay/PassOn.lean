import Mathlib.Logic.Function.Basic
import MeteredRelay.Proofs.Relay.Reachable
import MeteredRelay.Proofs.Roster.Charge

/-!
# Messages that are passed on

A message whose source is its target goes to the session of the peer that sent it.  It is passed
on if its number is accepted, the peer is bound on the connection that it came through, and the
accounts in the purse of that binding allow its size.  **`handle_data`** says what this means: the
purse is charged its size, once, and every other connection gets one copy for each binding that it
holds in the session, and nothing else is sent.  If one of the three tests fails, nothing is sent or
charged.

The copies are made one after the other in the buffer in which the message came, so what the loop
keeps is that source and data are still in it (`outbox_forwardAll`).
-/

namespace MeteredRelay

/-- The copies of a message for bindings in their order, each with the connection that it goes to.
`next` are the numbers that the connections give to what they send. -/
def copies (source : PeerId) (data : Bytes) :
    (next : LinkNo → UInt32) → List Binding → List (LinkNo × Frame)
  | _, [] => []
  | next, b :: bs =>
    (b.link, ⟨b.peer, source, next b.link, data⟩) ::
      copies source data (Function.update next b.link (next b.link + 1)) bs

/-- A parcel is a copy of a message, sent on for a connection. -/
structure Parcel.Carries (sender : LinkNo) (parcel : Parcel) (copy : LinkNo × Frame) : Prop where
  link : parcel.link = copy.1
  origin : parcel.origin = .relayed sender
  message : parcel.message = copy.2.encode

namespace Relay

variable {r : Relay} {env : Environment} {now : Moment} {sender receiver : LinkNo} {b : Binding}
  {size : Nat}

/-- The number of the next message of each connection. -/
def nextNumber (r : Relay) (n : LinkNo) : UInt32 := (r.link n).nextSequence

/-! ## One copy -/

lemma nextNumber_congr {r' : Relay} (h : r'.links = r.links) : r'.nextNumber = r.nextNumber := by
  funext n
  rw [nextNumber, link, h, nextNumber, link]

/-- A connection that takes a number counts on, and no other. -/
lemma nextNumber_advance (hreceiver : receiver < r.links.size) :
    (r.changeLink receiver (·.advance)).nextNumber =
      Function.update r.nextNumber receiver (r.nextNumber receiver + 1) := by
  rcases Option.isSome_iff_exists.mp (Store.get?_isSome_iff.mpr hreceiver) with ⟨l, hl⟩
  funext n
  rw [Function.update_apply]
  simp only [nextNumber, link, changeLink]
  rw [Store.get?_modify]
  by_cases hn : n = receiver
  · subst hn
    simp only [hl, if_true, Option.map_some, Option.getD_some]
    rfl
  · rw [if_neg (Ne.symm hn), if_neg hn]

/-- What is sent for one binding of another connection. -/
lemma forwardTo_of_ne (env : Environment) (hother : b.link ≠ sender)
    (hlink : b.link < r.links.size) (hheader : r.desk.packet.hasHeader = true) :
    ∃ parcel, (forwardTo env sender r ⟨b.peer, b.link⟩).outbox = r.outbox ++ [parcel] ∧
      parcel.Carries sender
        (b.link, ⟨b.peer, r.desk.packet.source, r.nextNumber b.link, r.desk.packet.data⟩) ∧
      (forwardTo env sender r ⟨b.peer, b.link⟩).nextNumber =
        Function.update r.nextNumber b.link (r.nextNumber b.link + 1) ∧
      (forwardTo env sender r ⟨b.peer, b.link⟩).desk.packet =
        r.desk.packet.readdress b.peer (r.nextNumber b.link) := by
  obtain ⟨stamped, hstamped⟩ : ∃ stamped,
      stamped = r.desk.packet.readdress b.peer (r.nextNumber b.link) := ⟨_, rfl⟩
  have hsend : forwardTo env sender r ⟨b.peer, b.link⟩ =
      (((r.changeLink b.link (·.advance)).setPacket stamped).deliver env b.link (.relayed sender)
        stamped.bytes).1 := by
    rw [hstamped]
    exact if_neg hother
  obtain ⟨hstill, hpacket⟩ := still_deliver ((r.changeLink b.link (·.advance)).setPacket stamped)
    env b.link (.relayed sender) stamped.bytes
  rw [hsend]
  refine ⟨_, hstill.outbox, ⟨rfl, rfl, ?_⟩, ?_, ?_⟩
  · show stamped.bytes = _
    rw [hstamped, PacketBuffer.bytes_readdress hheader]
  · rw [nextNumber_congr hstill.links, ← nextNumber_advance hlink]
    rfl
  · rw [hpacket, ← hstamped]
    rfl

/-! ## All copies -/

/-- **The loop over the bindings of a session sends each connection but the sender's a copy for
every binding that it holds.** -/
theorem outbox_forwardAll (bs : List Binding) (hlinks : ∀ b ∈ bs, b.link < r.links.size)
    (hheader : r.desk.packet.hasHeader = true) :
    ∃ parcels, ((bs.map fun b => ⟨b.peer, b.link⟩).foldl (forwardTo env sender) r).outbox =
        r.outbox ++ parcels ∧
      List.Forall₂ (Parcel.Carries sender) parcels
        (copies r.desk.packet.source r.desk.packet.data r.nextNumber
          (bs.filter (·.link ≠ sender))) := by
  induction bs generalizing r with
  | nil => exact ⟨[], (List.append_nil _).symm, .nil⟩
  | cons b bs ih =>
      rcases List.forall_mem_cons.mp hlinks with ⟨hlink, hlinks⟩
      rw [List.map_cons, List.foldl_cons]
      by_cases hsender : b.link = sender
      · have hskip : forwardTo env sender r ⟨b.peer, b.link⟩ = r := if_pos hsender
        rw [hskip, List.filter_cons_of_neg (by simpa using hsender)]
        exact ih hlinks hheader
      · obtain ⟨parcel, houtbox, hcarries, hnext, hpacket⟩ :=
          forwardTo_of_ne env hsender hlink hheader
        have hsize : (forwardTo env sender r ⟨b.peer, b.link⟩).links.size = r.links.size :=
          keeps_forwardTo.size
        obtain ⟨parcels, hall, hcopies⟩ := ih (r := forwardTo env sender r ⟨b.peer, b.link⟩)
          (by rwa [hsize]) (by rwa [hpacket, PacketBuffer.hasHeader_readdress])
        refine ⟨parcel :: parcels, ?_, ?_⟩
        · rw [hall, houtbox, List.append_assoc, List.singleton_append]
        · rw [List.filter_cons_of_pos (by simpa using hsender), copies]
          refine .cons hcarries ?_
          rwa [hpacket, PacketBuffer.source_readdress, PacketBuffer.data_readdress, hnext]
            at hcopies

/-! ## Passing on -/

/-- What is not numbered anew leaves the numbers. -/
lemma nextNumber_changeLink {f : Link → Link} (hf : ∀ l, (f l).sent = l.sent) (n : LinkNo) :
    (r.changeLink n f).nextNumber = r.nextNumber := by
  funext m
  simp only [nextNumber, link, changeLink]
  rw [Store.get?_modify]
  split
  · cases r.links.get? m with
    | none => rfl
    | some l => exact congrArg (· + 1) (hf l)
  · rfl

/-- A message that is addressed to a session goes to the bindings that another connection holds
among the first. -/
lemma outbox_fanOut_address {n : SessionNo}
    (hlinks : ∀ a ∈ (r.roster.session n).bindings, a.link < r.links.size)
    (hheader : r.desk.packet.hasHeader = true) :
    ∃ parcels, ((r.address sender n size).fanOut env sender).outbox = r.outbox ++ parcels ∧
      List.Forall₂ (Parcel.Carries sender) parcels
        (copies r.desk.packet.source r.desk.packet.data r.nextNumber
          (((r.roster.session n).bindings.take size).filter (·.link ≠ sender))) := by
  have hlinks' : ∀ a ∈ (r.roster.session n).bindings.take size,
      a.link < (r.address sender n size).links.size := fun a ha => by
    rw [keeps_address.size]
    exact hlinks a (List.mem_of_mem_take ha)
  have hpacket : (r.address sender n size).desk.packet = r.desk.packet := by rw [address_eq]
  have houtbox : (r.address sender n size).outbox = r.outbox := by
    rw [address_eq]
    split <;> rfl
  have hnext : (r.address sender n size).nextNumber = r.nextNumber := by
    rw [address_eq]
    split
    · have hblamed : (r.penalize sender).nextNumber = r.nextNumber :=
        nextNumber_changeLink (f := (·.penalize 1)) (fun _ => rfl) sender
      rw [← hblamed]
      exact nextNumber_congr rfl
    · exact nextNumber_congr rfl
  have hdestinations : (r.address sender n size).desk.destinations =
      ((r.roster.session n).bindings.take size).map fun b => ⟨b.peer, b.link⟩ := by
    rw [address_eq]
  show ∃ parcels, ((r.address sender n size).desk.destinations.foldl (forwardTo env sender)
    (r.address sender n size)).outbox = _ ∧ _
  rw [hdestinations, ← houtbox, ← hpacket, ← hnext]
  exact outbox_forwardAll _ hlinks' (by rwa [hpacket])

/-- A message that was paid for goes to the bindings that another connection holds among the first,
as many as its sender may send to. -/
lemma forward_of_paid (env : Environment) (sender : LinkNo) {charged : Roster}
    (hcharge : r.roster.charge b.purse (price size) = (charged, true))
    (hlinks : ∀ a ∈ (r.roster.session b.session).bindings, a.link < r.links.size)
    (hheader : r.desk.packet.hasHeader = true) :
    (r.forward env sender b size).roster = charged ∧
      ∃ parcels, (r.forward env sender b size).outbox = r.outbox ++ parcels ∧
        List.Forall₂ (Parcel.Carries sender) parcels
          (copies r.desk.packet.source r.desk.packet.data r.nextNumber
            (((r.roster.session b.session).bindings.take b.size).filter (·.link ≠ sender))) := by
  have hsession : charged.session b.session = r.roster.session b.session :=
    congrArg (·.1.session b.session) hcharge.symm
  rw [forward_eq_of_paid hcharge]
  refine ⟨(keeps_address.trans keeps_fanOut).roster, ?_⟩
  rw [← hsession] at hlinks ⊢
  exact outbox_fanOut_address (r := r.setRoster charged) hlinks hheader

/-- A message that was not paid for goes nowhere. -/
lemma forward_of_not_paid (env : Environment) {charged : Roster}
    (hcharge : r.roster.charge b.purse (price size) = (charged, false)) :
    (r.forward env sender b size).roster = charged ∧
      (r.forward env sender b size).outbox = r.outbox := by
  rw [forward_eq_of_not_paid hcharge]
  exact ⟨rfl, rfl⟩

/-- A session lists bindings of connections that there are. -/
lemma Orderly.link_lt (h : r.Orderly) {n : SessionNo} (hb : b ∈ (r.roster.session n).bindings) :
    b.link < r.links.size :=
  h.roster.seated b.seat b (h.roster.sound.joined_of_mem hb)

/-- The relay with a message on the desk whose number was accepted. -/
def accepting (r : Relay) (sender : LinkNo) (p : PacketBuffer) (window : PackedWindow) : Relay :=
  (r.setPacket p).changeLink sender fun l => { l with window }

lemma nextNumber_accepting {p : PacketBuffer} {window : PackedWindow} :
    (r.accepting sender p window).nextNumber = r.nextNumber := by
  rw [accepting, nextNumber_changeLink (f := fun l => { l with window }) fun _ => rfl]
  exact nextNumber_congr rfl

/-- What is sent for a message whose number was accepted, by a relay in order. -/
lemma Orderly.forward_accepting_take (h : r.Orderly) (env : Environment) (sender : LinkNo)
    (b : Binding) (size : Nat) (window : PackedWindow) {p : PacketBuffer}
    (hheader : p.hasHeader = true) :
    ((r.accepting sender p window).forward env sender b size).roster =
        (r.roster.charge b.purse (price size)).1 ∧
      ∃ parcels, ((r.accepting sender p window).forward env sender b size).outbox =
          r.outbox ++ parcels ∧
        List.Forall₂ (Parcel.Carries sender) parcels
          (if (r.roster.charge b.purse (price size)).2 then
            copies p.source p.data r.nextNumber
              (((r.roster.session b.session).bindings.take b.size).filter (·.link ≠ sender))
          else []) := by
  obtain ⟨charged, paid, hcharge⟩ : ∃ charged paid,
      (r.accepting sender p window).roster.charge b.purse (price size) = (charged, paid) :=
    ⟨_, _, rfl⟩
  rw [show r.roster.charge b.purse (price size) = _ from hcharge]
  cases paid with
  | false =>
      rcases forward_of_not_paid env hcharge with ⟨hroster, houtbox⟩
      exact ⟨hroster, [], houtbox.trans (List.append_nil _).symm, .nil⟩
  | true =>
      have hlinks : ∀ a ∈ (r.roster.session b.session).bindings,
          a.link < (r.accepting sender p window).links.size := fun a ha => by
        rw [accepting, keeps_changeLink.size]
        exact h.link_lt ha
      have hforward := forward_of_paid env sender hcharge hlinks hheader
      rwa [nextNumber_accepting] at hforward

/-- A session with no more bindings than the sender may send to is not cut. -/
lemma Orderly.forward_accepting (h : r.Orderly) (env : Environment) {p : PacketBuffer}
    {window : PackedWindow} (hheader : p.hasHeader = true)
    (hroom : (r.roster.session b.session).bindings.length ≤ b.size) :
    ((r.accepting sender p window).forward env sender b size).roster =
        (r.roster.charge b.purse (price size)).1 ∧
      ∃ parcels, ((r.accepting sender p window).forward env sender b size).outbox =
          r.outbox ++ parcels ∧
        List.Forall₂ (Parcel.Carries sender) parcels
          (if (r.roster.charge b.purse (price size)).2 then
            copies p.source p.data r.nextNumber
              ((r.roster.session b.session).bindings.filter (·.link ≠ sender))
          else []) := by
  have hforward := h.forward_accepting_take env sender b size window hheader
  rwa [List.take_of_length_le hroom] at hforward

/-- A message whose number is refused is forgotten. -/
lemma handle_of_refused (env : Environment) (now : Moment) {p : PacketBuffer}
    (hheader : p.hasHeader = true) (hwindow : (r.link sender).window.accept? p.sequence = none) :
    (r.setPacket p).handle env now sender p.size =
      { r.setPacket p with skipped := r.skipped.increment } := by
  have hpacket : (r.setPacket p).desk.packet = p := rfl
  have hlink : (r.setPacket p).link sender = r.link sender := rfl
  simp only [handle, hpacket, hlink, hheader, hwindow, Bool.not_true, if_false, Bool.false_eq_true]
  rfl

/-- A message to pass on whose number is accepted goes by the binding of its source. -/
lemma handle_of_accepted (env : Environment) (now : Moment) {p : PacketBuffer}
    {window : PackedWindow} (hheader : p.hasHeader = true) (hdata : p.source = p.target)
    (hwindow : (r.link sender).window.accept? p.sequence = some window) :
    (r.setPacket p).handle env now sender p.size =
      match r.roster.binding? sender p.source with
      | none => (r.accepting sender p window).penalize sender
      | some b => (r.accepting sender p window).forward env sender b p.size := by
  have hpacket : (r.setPacket p).desk.packet = p := rfl
  have hlink : (r.setPacket p).link sender = r.link sender := rfl
  simp only [handle, hpacket, hlink, hheader, hwindow, hdata, ne_eq, not_true_eq_false, if_false,
    Bool.not_true, Bool.false_eq_true]
  rfl

/-- **A message that is its sender's to pass on is charged once and goes to every binding of the
session that another connection holds, or it is not charged and goes nowhere.**  The charge is made
once and the copies go out if it succeeds.  It succeeds, and takes the size of the message, if the
accounts in the purse allow this much and none is overdrawn beyond what a word holds; as long as
there were no more than `2 ^ 46` purses, none is. -/
theorem handle_data (h : Reachable env r) (now : Moment) (sender : LinkNo) (p : PacketBuffer)
    (hheader : p.hasHeader = true) (hdata : p.source = p.target)
    (hroom : ∀ b, r.roster.binding? sender p.source = some b →
      (r.roster.session b.session).bindings.length ≤ b.size) :
    let r' := (r.setPacket p).handle env now sender p.size
    ((((r.link sender).window.accept? p.sequence).isNone ∨
        r.roster.binding? sender p.source = none ∨
        ∃ b, r.roster.binding? sender p.source = some b ∧ r.roster.allowance b.purse < p.size) →
      r'.outbox = r.outbox ∧ r'.roster = r.roster) ∧
    (∀ b, ((r.link sender).window.accept? p.sequence).isSome →
      r.roster.binding? sender p.source = some b →
      r'.roster = (r.roster.charge b.purse (price p.size)).1 ∧
      (∃ parcels, r'.outbox = r.outbox ++ parcels ∧
        List.Forall₂ (Parcel.Carries sender) parcels
          (if (r.roster.charge b.purse (price p.size)).2 then
            copies p.source p.data r.nextNumber
              ((r.roster.session b.session).bindings.filter (·.link ≠ sender))
          else [])) ∧
      (p.size ≤ r.roster.allowance b.purse → r.roster.InRange b.purse →
        (r.roster.charge b.purse (price p.size)).2 = true ∧
          r.roster.Pays r'.roster b.purse p.size)) ∧
    (r.roster.purses.size ≤ 2 ^ 46 → ∀ purse, r.roster.InRange purse) := by
  have horderly := h.orderly
  have hprice : (price p.size).toInt = p.size := toInt_price p.size_le
  intro r'
  refine ⟨?_, ?_, horderly.roster.inRange⟩
  · intro hfails
    cases hwindow : (r.link sender).window.accept? p.sequence with
    | none =>
        rw [show r' = _ from handle_of_refused env now hheader hwindow]
        exact ⟨rfl, rfl⟩
    | some window =>
        rw [show r' = _ from handle_of_accepted env now hheader hdata hwindow]
        rw [hwindow] at hfails
        rcases hfails with hrefused | hnone | ⟨b, hb, hlt⟩
        · contradiction
        · rw [hnone]
          exact ⟨rfl, rfl⟩
        · have hcharge : r.roster.charge b.purse (price p.size) = (r.roster, false) :=
            Roster.charge_of_lt (by rw [hprice]; exact Int.ofNat_lt.mpr hlt)
          rw [hb]
          exact (forward_of_not_paid (r := r.accepting sender p window) env hcharge).symm
  · intro b haccepted hb
    rcases Option.isSome_iff_exists.mp haccepted with ⟨window, hwindow⟩
    rw [show r' = _ from handle_of_accepted env now hheader hdata hwindow, hb]
    rcases horderly.forward_accepting env hheader (hroom b hb) with ⟨hroster, hsent⟩
    refine ⟨hroster, hsent, fun hcovered hrange => ?_⟩
    have hlow : headerSize ≤ p.size := of_decide_eq_true hheader
    have hhigh : p.size ≤ maxMessageSize := p.size_le
    have hpos : 0 < (price p.size).toInt := by
      simp only [headerSize] at hlow
      omega
    have hsmall : (price p.size).toInt < Accounts.overdraft := by
      simp only [maxMessageSize] at hhigh
      simp only [Accounts.overdraft]
      omega
    have hpays := Roster.pays_charge horderly.roster hpos hsmall hrange (by omega)
    rw [hprice, Int.toNat_natCast] at hpays
    dsimp only
    rwa [hroster]

/-- A server that neither encrypts nor asks for cookies. -/
def openServer : Environment := .standard {} default (fun _ => default) UInt64.ofNat

/-- Two peers that join the same session, each through its own connection. -/
def pairJoins : List (Moment × Event) :=
  let join (peer : PeerId) : Bytes :=
    Frame.encode ⟨PeerId.server, peer, 1, [CommandTag.joinSession.byte]⟩
  [(default, .datagram ⟨.v4 #v[127, 0, 0, 1], 1⟩ (join ⟨1⟩)),
    (default, .datagram ⟨.v4 #v[127, 0, 0, 1], 2⟩ (join ⟨2⟩))]

/-- One byte from the first peer. -/
def letter : PacketBuffer := PacketBuffer.empty.fill (Frame.encode ⟨⟨1⟩, ⟨1⟩, 2, [65]⟩) (by decide)

/-- The other of two peers gets the byte that the first one sent, and the first one pays for it. -/
theorem handle_data_letter :
    let r := start.run openServer pairJoins
    let r' := (r.setPacket letter).handle openServer default 0 13
    r.roster.Pays r'.roster 0 13 ∧
      ∃ parcels, r'.outbox = r.outbox ++ parcels ∧
        List.Forall₂ (Parcel.Carries 0) parcels [(1, ⟨⟨2⟩, ⟨1⟩, 2, [65]⟩)] := by
  intro r r'
  have hb : r.roster.binding? 0 letter.source = some ⟨⟨1⟩, 0, 0, 65536, true, 0⟩ := by
    decide +kernel
  have hbindings : (r.roster.session 0).bindings =
      [⟨⟨1⟩, 0, 0, 65536, true, 0⟩, ⟨⟨2⟩, 0, 1, 65536, false, 1⟩] := by
    decide +kernel
  obtain ⟨-, hpassed, hrange⟩ := handle_data (Reachable.start.run pairJoins) default 0 letter
    (by decide) (by decide +kernel) fun b hb' => by
      rw [← Option.some.inj (hb.symm.trans hb'), hbindings]
      decide
  obtain ⟨-, ⟨parcels, houtbox, hcopies⟩, hcovered⟩ := hpassed _ (by decide +kernel) hb
  obtain ⟨hpaid, hpays⟩ := hcovered (by decide +kernel) (hrange (by decide +kernel) 0)
  rw [show (r.roster.charge 0 (price letter.size)).2 = true from hpaid, if_pos rfl] at hcopies
  have hletter : copies letter.source letter.data r.nextNumber
      ((r.roster.session 0).bindings.filter (·.link ≠ 0)) = [(1, ⟨⟨2⟩, ⟨1⟩, 2, [65]⟩)] := by
    decide +kernel
  exact ⟨hpays, parcels, houtbox, hletter ▸ hcopies⟩

end Relay

end MeteredRelay
