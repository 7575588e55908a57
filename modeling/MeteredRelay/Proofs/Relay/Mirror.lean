import MeteredRelay.Proofs.PacketBuffer.Contents
import MeteredRelay.Proofs.Relay.Housed
import MeteredRelay.Proofs.Roster.Alike

/-!
# Two servers, of which one seals

A server with a private key is compared with one without.  They mirror each other (`Mirrors`) if
they have the same sessions and payments and the same established connections, but for the keys that
the first has for these.  What the two hand out for the same message is the same but for the seal
(`Parcel.Mirrors`).

`Twins` says of two such servers that they have handed out the same so far.  This file shows that
changes which both make leave them so, and that deliveries do: the message must leave room for a
seal, since the server that seals refuses to send a longer one.
-/

namespace MeteredRelay

/-- The same environment for a server that has no private key. -/
def Environment.plain (env : Environment) : Environment :=
  { env with settings := { env.settings with privateKey := none } }

/-- What two servers hand out to a connection, of which the first seals: the same message, which the
second gives to the system as it is, and the first as a datagram that the key of the connection
opens. -/
structure Parcel.Mirrors (A : Aead) (keys : LinkNo → Key) (x y : Parcel) : Prop where
  link : x.link = y.link
  origin : x.origin = y.origin
  message : x.message = y.message
  plain : y.outcome = Relay.datagramOf y.message
  sealed : ∃ wire, x.outcome = Relay.datagramOf wire ∧
    A.opened (keys x.link) [] wire = .ok x.message

/-- A change of a connection that does not see its key and leaves the handshake alone. -/
structure Link.Blind (f : Link → Link) : Prop where
  key : ∀ l k, f { l with key := k } = { f l with key := k }
  pending : ∀ l, (f l).pending = l.pending

namespace Relay

/-- The first server has the sessions and payments of the second, and the same established
connections, for which it has keys. -/
structure Mirrors (keys : LinkNo → Key) (r q : Relay) : Prop where
  roster : r.roster.Alike q.roster
  drawn : r.tagsDrawn = q.tagsDrawn
  /-- The first may have connections beside these that did not complete their handshake. -/
  established : ∀ address n, q.addresses.get? address = some n ↔
    r.addresses.get? address = some n ∧ (r.link n).pending = none
  link : ∀ n, q.HasAddress n →
    r.link n = { q.link n with key := some (keys n) } ∧ (q.link n).key = none

/-- Two mirrors that have handed out the same since their outboxes were `sent` and `sent'`. -/
structure Twins (env : Environment) (keys : LinkNo → Key) (sent sent' : List Parcel)
    (r q : Relay) : Prop extends Mirrors keys r q where
  exist : ∀ n, q.HasAddress n → n < r.links.size ∧ n < q.links.size
  outbox : ∃ xs ys, r.outbox = sent ++ xs ∧ q.outbox = sent' ++ ys ∧
    List.Forall₂ (Parcel.Mirrors env.cipher keys) xs ys

/-- The same message lies on both desks. -/
structure SameMessage (r q : Relay) : Prop where
  bytes : r.desk.packet.bytes = q.desk.packet.bytes
  header : r.desk.packet.hasHeader = true
  /-- It leaves room for a seal. -/
  short : r.desk.packet.size + sealOverhead ≤ maxMessageSize

variable {env : Environment} {keys : LinkNo → Key} {sent sent' : List Parcel} {r r' q q' : Relay}
  {n m : LinkNo} {f : Link → Link} {message : Bytes} {c : Command}

lemma link_changeLink_self (h : n < r.links.size) (f : Link → Link) :
    (r.changeLink n f).link n = f (r.link n) := by
  rcases Option.isSome_iff_exists.mp (Store.get?_isSome_iff.mpr h) with ⟨l, hl⟩
  simp [link, changeLink, Store.get?_modify, hl]

lemma link_changeLink_of_ne (h : m ≠ n) (f : Link → Link) :
    (r.changeLink n f).link m = r.link m := by
  simp [link, changeLink, Store.get?_modify, h.symm]

lemma pending_changeLink (hf : Link.Blind f) (r : Relay) (n m : LinkNo) :
    ((r.changeLink n f).link m).pending = (r.link m).pending := by
  simp only [link, changeLink, Store.get?_modify]
  split
  · cases r.links.get? m with
    | none => rfl
    | some l => exact hf.pending l
  · rfl

lemma blind_advance : Link.Blind (·.advance) := ⟨fun _ _ => rfl, fun _ => rfl⟩

/-! ## What is handed out -/

/-- What both give to the system: a message without a key as it is, and one with a key sealed, if it
leaves room for the seal. -/
lemma seal_of_none (h : (r.link n).key = none) :
    (r.seal? env n message).2 = datagramOf message := by
  simp only [seal?, h]

/-- A message that leaves room for a seal is sealed with the next nonce. -/
lemma seal_of_some {k : Key} (h : (r.link n).key = some k)
    (hroom : message.length + sealOverhead ≤ maxMessageSize) :
    (r.seal? env n message).2 =
      datagramOf (env.cipher.sealed k (env.nonce r.noncesDrawn) [] message) := by
  have hshort : ¬ maxMessageSize - sealOverhead < message.length := by omega
  simp only [seal?, h, if_neg hshort]

lemma datagramOf_of_le (h : message.length ≤ maxDatagramSize) : datagramOf message = .ok message :=
  if_pos h

/-- A reply with few data is short enough for the system, even under a seal. -/
lemma reply_fits {p : PacketBuffer} (hheader : p.hasHeader = true)
    (hshort : p.data.length ≤ maxPingSize + 1) (target : PeerId) (k : UInt32) :
    (p.setReplyHeader target k).bytes.length + sealOverhead ≤ maxDatagramSize := by
  have hlength : (p.setReplyHeader target k).bytes.length = headerSize + p.data.length := by
    rw [PacketBuffer.bytes_reply hheader, Frame.length_encode]
  have hroom : headerSize + (maxPingSize + 1) + sealOverhead ≤ maxDatagramSize := by decide
  omega

/-- A delivery ends as the sealing of its message did. -/
lemma deliver_snd (r : Relay) (env : Environment) (n : LinkNo) (origin : Origin)
    (message : Bytes) :
    (r.deliver env n origin message).2 = (r.seal? env n message).2.map List.length := by
  unfold deliver
  dsimp only
  split <;> rename_i heq <;> rw [heq] <;> rfl

namespace Twins

/-! ## Changes that both make -/

/-- What lies on the desks and what the figures show may be others. -/
lemma still (h : Twins env keys sent sent' r q) (hr : Still r r') (hq : Still q q') :
    Twins env keys sent sent' r' q' := by
  have hlink : ∀ n, r'.link n = r.link n ∧ q'.link n = q.link n := fun n =>
    ⟨by rw [link, hr.links, link], by rw [link, hq.links, link]⟩
  refine ⟨⟨?_, ?_, ?_, ?_⟩, ?_, ?_⟩
  · rw [hr.roster, hq.roster]
    exact h.roster
  · rw [hr.drawn, hq.drawn]
    exact h.drawn
  · intro address n
    rw [hq.addresses, hr.addresses, (hlink n).1]
    exact h.established address n
  · intro n hn
    rw [HasAddress, hq.addresses] at hn
    rw [(hlink n).1, (hlink n).2]
    exact h.link n hn
  · intro n hn
    rw [HasAddress, hq.addresses] at hn
    rw [hr.links, hq.links]
    exact h.exist n hn
  · rw [hr.outbox, hq.outbox]
    exact h.outbox

lemma setPacket (h : Twins env keys sent sent' r q) (p p' : PacketBuffer) :
    Twins env keys sent sent' (r.setPacket p) (q.setPacket p') :=
  h.still ⟨rfl, rfl, rfl, rfl, rfl⟩ ⟨rfl, rfl, rfl, rfl, rfl⟩

lemma setRoster (h : Twins env keys sent sent' r q) {x y : Roster} (hxy : x.Alike y) :
    Twins env keys sent sent' (r.setRoster x) (q.setRoster y) :=
  ⟨⟨hxy, h.drawn, h.established, h.link⟩, h.exist, h.outbox⟩

/-- A change that does not see the key ends alike on connections with and without one. -/
lemma changeLink (h : Twins env keys sent sent' r q) (hf : Link.Blind f) (n : LinkNo) :
    Twins env keys sent sent' (r.changeLink n f) (q.changeLink n f) := by
  refine ⟨⟨h.roster, h.drawn, ?_, ?_⟩, ?_, h.outbox⟩
  · intro address m
    rw [pending_changeLink hf]
    exact h.established address m
  · intro m hm
    rcases h.exist m hm with ⟨hr, hq⟩
    rcases h.link m hm with ⟨hlink, hnone⟩
    by_cases hmn : m = n
    · -- the change does not see the key, which is all that the two connections differ in
      subst hmn
      rw [link_changeLink_self hr, link_changeLink_self hq, hlink]
      refine ⟨hf.key _ _, ?_⟩
      have hopen : q.link m = { q.link m with key := none } := by rw [← hnone]
      rw [hopen, hf.key]
    · rw [link_changeLink_of_ne hmn, link_changeLink_of_ne hmn]
      exact ⟨hlink, hnone⟩
  · intro m hm
    rw [keeps_changeLink.size, keeps_changeLink.size]
    exact h.exist m hm

lemma penalize (h : Twins env keys sent sent' r q) (n : LinkNo) :
    Twins env keys sent sent' (r.penalize n) (q.penalize n) :=
  h.changeLink (f := (·.penalize 1)) ⟨fun _ _ => rfl, fun _ => rfl⟩ n

lemma sealed (h : Twins env keys sent sent' r q) (hn : q.HasAddress n) :
    (r.link n).key = some (keys n) := by rw [(h.link n hn).1]

lemma nextSequence (h : Twins env keys sent sent' r q) (hn : q.HasAddress n) :
    (r.link n).nextSequence = (q.link n).nextSequence := by
  rw [(h.link n hn).1]
  rfl

/-! ## Deliveries -/

/-- Both hand out a message to a connection. -/
lemma deliver (h : Twins env keys sent sent' r q) (hA : env.cipher.Opens) (hn : q.HasAddress n)
    (origin : Origin) (hroom : message.length + sealOverhead ≤ maxMessageSize) :
    Twins env keys sent sent' (r.deliver env n origin message).1
      (q.deliver env.plain n origin message).1 := by
  have hparcel : Parcel.Mirrors env.cipher keys
      ⟨n, origin, message, (r.seal? env n message).2⟩
      ⟨n, origin, message, (q.seal? env.plain n message).2⟩ := by
    refine ⟨rfl, rfl, rfl, seal_of_none (h.link n hn).2, _, seal_of_some (h.sealed hn) hroom, ?_⟩
    exact env.cipher.opened_sealed hA _ _ _ _
  have hout : Twins env keys sent sent'
      { r with outbox := r.outbox ++ [⟨n, origin, message, (r.seal? env n message).2⟩] }
      { q with outbox := q.outbox ++ [⟨n, origin, message, (q.seal? env.plain n message).2⟩] } := by
    rcases h.outbox with ⟨xs, ys, hr, hq, hxys⟩
    refine ⟨⟨h.roster, h.drawn, h.established, h.link⟩, h.exist, xs ++ [_], ys ++ [_], ?_, ?_,
      List.rel_append hxys (.cons hparcel .nil)⟩
    · rw [← List.append_assoc, ← hr]
    · rw [← List.append_assoc, ← hq]
  exact hout.still (still_deliver r env n origin message).1
    (still_deliver q env.plain n origin message).1

/-- A message that is short enough even when it is sealed is sent by both. -/
lemma deliver_ok (h : Twins env keys sent sent' r q) (hn : q.HasAddress n) (origin : Origin)
    (hfits : message.length + sealOverhead ≤ maxDatagramSize) :
    (r.deliver env n origin message).2.map (fun _ => ()) = .ok () ∧
      (q.deliver env.plain n origin message).2.map (fun _ => ()) = .ok () := by
  have hroom : message.length + sealOverhead ≤ maxMessageSize := hfits.trans (by decide)
  rw [deliver_snd, deliver_snd, seal_of_some (h.sealed hn) hroom, seal_of_none (h.link n hn).2,
    datagramOf_of_le (by rwa [Aead.length_sealed]), datagramOf_of_le (by omega)]
  exact ⟨rfl, rfl⟩

/-- Both hand out the message on the desk under the next number of a connection. -/
lemma deliverNumbered (h : Twins env keys sent sent' r q) (hA : env.cipher.Opens)
    (hn : q.HasAddress n) (origin : Origin) (stamp : UInt32 → PacketBuffer → PacketBuffer)
    (hstamp : ∀ k, (stamp k r.desk.packet).bytes = (stamp k q.desk.packet).bytes)
    (hroom : ∀ k, (stamp k r.desk.packet).bytes.length + sealOverhead ≤ maxMessageSize) :
    Twins env keys sent sent' (r.deliverNumbered env n origin stamp).1
      (q.deliverNumbered env.plain n origin stamp).1 := by
  have hnumbered := (h.changeLink blind_advance n).setPacket
    (stamp (r.link n).nextSequence r.desk.packet) (stamp (q.link n).nextSequence q.desk.packet)
  simp only [Relay.deliverNumbered]
  rw [h.nextSequence hn] at hnumbered ⊢
  rw [← hstamp]
  exact hnumbered.deliver hA hn origin (hroom _)

/-- Both answer from a message with a header and few data, whatever the header is. -/
lemma reply (h : Twins env keys sent sent' r q) (hA : env.cipher.Opens) (hn : q.HasAddress n)
    (hr : r.desk.packet.hasHeader = true) (hq : q.desk.packet.hasHeader = true)
    (hdata : r.desk.packet.data = q.desk.packet.data)
    (hshort : r.desk.packet.data.length ≤ maxPingSize + 1) (target : PeerId) :
    Twins env keys sent sent' (r.reply env n target).1 (q.reply env.plain n target).1 ∧
      (r.reply env n target).2 = .ok () ∧ (q.reply env.plain n target).2 = .ok () := by
  have hbytes (k : UInt32) : (r.desk.packet.setReplyHeader target k).bytes =
      (q.desk.packet.setReplyHeader target k).bytes := by
    rw [PacketBuffer.bytes_reply hr, PacketBuffer.bytes_reply hq, hdata]
  have hfits := reply_fits hr hshort target
  refine ⟨h.deliverNumbered hA hn .server (fun k p => p.setReplyHeader target k) hbytes
    fun k => (hfits k).trans (by decide), ?_⟩
  have hnumbered := (h.changeLink blind_advance n).setPacket
    (r.desk.packet.setReplyHeader target (q.link n).nextSequence)
    (q.desk.packet.setReplyHeader target (q.link n).nextSequence)
  simp only [Relay.reply, Relay.deliverNumbered]
  rw [h.nextSequence hn, ← hbytes]
  exact hnumbered.deliver_ok hn .server (hfits _)

/-- Both send a command with a short payload, and it is sent. -/
lemma sendCommand (h : Twins env keys sent sent' r q) (hA : env.cipher.Opens)
    (hn : q.HasAddress n) (target : PeerId) (hshort : c.payload.length ≤ maxPingSize) :
    Twins env keys sent sent' (r.sendCommand env n target c).1
        (q.sendCommand env.plain n target c).1 ∧
      (r.sendCommand env n target c).2 = .ok () ∧
      (q.sendCommand env.plain n target c).2 = .ok () := by
  obtain ⟨p, hp, hheader, hdata⟩ := r.desk.packet.setCommand_eq c.tag hshort
  obtain ⟨p', hp', hheader', hdata'⟩ := q.desk.packet.setCommand_eq c.tag hshort
  simp only [Relay.sendCommand, hp, hp']
  refine (h.setPacket p p').reply hA hn hheader hheader' (hdata.trans hdata'.symm) ?_ target
  show p.data.length ≤ _
  rw [hdata, List.length_cons]
  omega

end Twins

end Relay

end MeteredRelay
