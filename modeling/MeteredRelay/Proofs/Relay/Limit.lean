import MeteredRelay.Proofs.Relay.Admission
import MeteredRelay.Proofs.Relay.Conduct
import MeteredRelay.Proofs.Relay.PassOn

/-!
# How many a message goes to

A binding has a size, and its messages are to go to no more bindings of other connections than that:
to all of them without blame, if they are not too many, and else to as many as the size says, with a
misdeed (`MeetsLimit`).

The server counts differently.  It takes the first bindings of the session, as many as the size
says, and then leaves out the connection of the sender, and it blames the sender if the session has
more bindings than the size says, whoever holds them.  So the bindings of the sender's own connection
use up its limit.  **`meetsLimit_iff`** says what is sent and counted, for every message that is paid
for, and that this meets the limit if and only if either the session has no more bindings than the
size says, or there are too many of other connections and none of the sender's is among the first.
-/

namespace MeteredRelay

namespace Relay

variable {env : Environment} {now : Moment} {r r' : Relay} {sender : LinkNo} {b : Binding}
  {p : PacketBuffer} {bs : List Binding}

/-- The bindings in a binding's session that other connections hold. -/
def audience (r : Relay) (sender : LinkNo) (b : Binding) : List Binding :=
  (r.roster.session b.session).bindings.filter (·.link ≠ sender)

/-- The bindings among the first in a binding's session that other connections hold. -/
def reached (r : Relay) (sender : LinkNo) (b : Binding) : List Binding :=
  ((r.roster.session b.session).bindings.take b.size).filter (·.link ≠ sender)

/-- What is handed out is one copy of a message for each of the bindings. -/
def SentTo (p : PacketBuffer) (sender : LinkNo) (bs : List Binding) (r r' : Relay) : Prop :=
  ∃ parcels, r'.outbox = r.outbox ++ parcels ∧
    List.Forall₂ (Parcel.Carries sender) parcels (copies p.source p.data r.nextNumber bs)

/-- A message goes to every binding that another connection holds, and nobody is blamed, or there
are more of these than the size says, and it goes to so many and the sender is blamed. -/
structure MeetsLimit (p : PacketBuffer) (sender : LinkNo) (b : Binding) (r r' : Relay) : Prop where
  within : (r.audience sender b).length ≤ b.size →
    (∃ bs, bs.Perm (r.audience sender b) ∧ SentTo p sender bs r r') ∧
      (r'.link sender).banScore = (r.link sender).banScore
  beyond : b.size < (r.audience sender b).length →
    (∃ bs, bs.Nodup ∧ bs ⊆ r.audience sender b ∧ bs.length = b.size ∧ SentTo p sender bs r r') ∧
      (r'.link sender).banScore = (r.link sender).banScore + 1

/-! ## What is sent -/

@[simp] lemma length_copies (source : PeerId) (data : Bytes) (next : LinkNo → UInt32)
    (bs : List Binding) : (copies source data next bs).length = bs.length := by
  induction bs generalizing next with
  | nil => rfl
  | cons b bs ih => rw [copies, List.length_cons, ih, List.length_cons]

/-- What was handed out tells how many it was for. -/
lemma SentTo.length_eq {bs' : List Binding} (h : SentTo p sender bs r r')
    (h' : SentTo p sender bs' r r') : bs.length = bs'.length := by
  rcases h with ⟨parcels, hout, hall⟩
  rcases h' with ⟨parcels', hout', hall'⟩
  obtain rfl : parcels = parcels' := List.append_cancel_left (hout.symm.trans hout')
  have hlength := hall.length_eq.symm.trans hall'.length_eq
  rwa [length_copies, length_copies] at hlength

/-- A session that is not too large is not cut. -/
lemma reached_of_le (h : (r.roster.session b.session).bindings.length ≤ b.size) :
    r.reached sender b = r.audience sender b := by
  rw [reached, List.take_of_length_le h, audience]

/-- The first bindings are all reached if and only if the sender's connection holds none of them. -/
lemma length_reached_eq_iff (h : b.size ≤ (r.roster.session b.session).bindings.length) :
    (r.reached sender b).length = b.size ↔
      ∀ a ∈ (r.roster.session b.session).bindings.take b.size, a.link ≠ sender := by
  have htake : ((r.roster.session b.session).bindings.take b.size).length = b.size :=
    List.length_take_of_le h
  have hall := List.length_filter_eq_length_iff (p := fun a : Binding => decide (a.link ≠ sender))
    (l := (r.roster.session b.session).bindings.take b.size)
  rw [htake] at hall
  simpa only [reached, decide_eq_true_eq] using hall

lemma length_audience_le : (r.audience sender b).length ≤
    (r.roster.session b.session).bindings.length := List.length_filter_le _ _

/-! ## What is counted -/

/-- A message that is paid for goes to those that are reached, and it is a misdeed if the session
has more bindings than the sender may send to. -/
lemma Orderly.sentTo_reached (h : r.Orderly) (env : Environment) (now : Moment)
    (hheader : p.hasHeader = true) (hdata : p.source = p.target)
    (haccepted : ((r.link sender).window.accept? p.sequence).isSome = true)
    (hb : r.roster.binding? sender p.source = some b)
    (hpaid : (r.roster.charge b.purse (price p.size)).2 = true) :
    SentTo p sender (r.reached sender b) r ((r.setPacket p).handle env now sender p.size) ∧
      (((r.setPacket p).handle env now sender p.size).link sender).banScore =
        (r.link sender).banScore +
          (if b.size < (r.roster.session b.session).bindings.length then 1 else 0) := by
  rcases Option.isSome_iff_exists.mp haccepted with ⟨window, hwindow⟩
  have hsender : sender < r.links.size := h.roster.seated ⟨sender, p.source⟩ b hb
  rw [handle_of_accepted env now hheader hdata hwindow, hb]
  refine ⟨?_, ?_⟩
  · obtain ⟨-, hsent⟩ := h.forward_accepting_take env sender b p.size window hheader
    rwa [hpaid, if_pos rfl] at hsent
  · have hcharge : (r.accepting sender p window).roster.charge b.purse (price p.size) =
        ((r.roster.charge b.purse (price p.size)).1, true) := Prod.ext rfl hpaid
    have hnoted : Spares sender 0 (r.setPacket p) (r.accepting sender p window) :=
      spares_changeLink (f := fun l => { l with window }) hsender
        fun l => (UInt64.add_zero l.banScore).symm
    have hblames : Blames sender
        (if b.size < (r.roster.session b.session).bindings.length then 1 else 0)
        (r.accepting sender p window) ((r.accepting sender p window).forward env sender b p.size) :=
      blames_forward_of_paid (by rwa [hnoted.size]) hcharge
    exact (hblames.toSpares.after hnoted).score

/-- **A message goes to the bindings of other connections among the first**, as many as its sender's
size says, and a session with more bindings than that is held against the sender.  This is what the
limit says if and only if the session has no more bindings than the size says, or the other
connections alone have more and the first ones, as many as the size says, are all theirs. -/
theorem meetsLimit_iff (h : Reachable env r) (now : Moment) (sender : LinkNo) (p : PacketBuffer)
    (hheader : p.hasHeader = true) (hdata : p.source = p.target) (b : Binding)
    (haccepted : ((r.link sender).window.accept? p.sequence).isSome = true)
    (hb : r.roster.binding? sender p.source = some b)
    (hpaid : (r.roster.charge b.purse (price p.size)).2 = true) :
    let r' := (r.setPacket p).handle env now sender p.size
    let all := (r.roster.session b.session).bindings
    SentTo p sender (r.reached sender b) r r' ∧
      (r'.link sender).banScore =
        (r.link sender).banScore + (if b.size < all.length then 1 else 0) ∧
      (MeetsLimit p sender b r r' ↔ all.length ≤ b.size ∨
        b.size < (r.audience sender b).length ∧ ∀ a ∈ all.take b.size, a.link ≠ sender) := by
  intro r' all
  have horderly := h.orderly
  obtain ⟨hsent, hscore⟩ := horderly.sentTo_reached env now hheader hdata haccepted hb hpaid
  refine ⟨hsent, hscore, ?_, ?_⟩
  · intro hmeets
    rcases Nat.lt_or_ge b.size all.length with hlarge | hsmall
    · rw [if_pos hlarge] at hscore
      rcases Nat.lt_or_ge b.size (r.audience sender b).length with hmore | hless
      · obtain ⟨⟨bs, -, -, hlength, hbs⟩, -⟩ := hmeets.beyond hmore
        refine .inr ⟨hmore, (length_reached_eq_iff hlarge.le).mp ?_⟩
        rw [← hlength]
        exact hsent.length_eq hbs
      · have hsame := hscore.symm.trans (hmeets.within hless).2
        exact absurd (UInt64.add_eq_left.mp hsame) (by decide)
    · exact .inl hsmall
  · rintro (hsmall | ⟨hmore, hothers⟩)
    · rw [if_neg (Nat.not_lt.mpr hsmall), UInt64.add_zero] at hscore
      refine ⟨fun _ => ⟨⟨_, ?_, hsent⟩, hscore⟩, fun hmore => ?_⟩
      · rw [reached_of_le hsmall]
      · exact absurd (length_audience_le.trans hsmall) (Nat.not_le.mpr hmore)
    · have hlarge : b.size < all.length := Nat.lt_of_lt_of_le hmore length_audience_le
      rw [if_pos hlarge] at hscore
      refine ⟨fun hless => absurd hless (Nat.not_le.mpr hmore), fun _ => ⟨⟨_, ?_, ?_, ?_, hsent⟩,
        hscore⟩⟩
      · have hall : all.Nodup := List.Nodup.of_map _ (horderly.roster.sound.tidy b.session).distinct
        exact (hall.sublist (List.take_sublist ..)).filter _
      · exact (List.Sublist.filter _ (List.take_sublist ..)).subset
      · exact (length_reached_eq_iff hlarge.le).mpr hothers

/-- In a session of two with large sizes the byte of the first peer meets the limit. -/
theorem meetsLimit_letter :
    let r := start.run openServer pairJoins
    let b : Binding := ⟨⟨1⟩, 0, 0, 65536, true, 0⟩
    r.roster.binding? 0 letter.source = some b ∧
      MeetsLimit letter 0 b r ((r.setPacket letter).handle openServer default 0 letter.size) := by
  intro r b
  have hb : r.roster.binding? 0 letter.source = some b := by decide +kernel
  have hroom : (r.roster.session 0).bindings.length ≤ b.size := by decide +kernel
  obtain ⟨-, -, hmeets⟩ := meetsLimit_iff (Reachable.start.run pairJoins) default 0 letter
    (by decide) (by decide +kernel) b (by decide +kernel) hb (by decide +kernel)
  exact ⟨hb, hmeets.mpr (.inl hroom)⟩

/-- Two peers join the same session, each through its own connection, with cookies of size one. -/
def narrowJoins : List (Moment × Event) :=
  let join (peer : PeerId) (paymentTag : UInt64) : Bytes :=
    Frame.encode ⟨PeerId.server, peer, 1, CommandTag.joinSession.byte ::
      { firstCookie with size := 1, peer, paymentTag }.sealed Roster.zeroKeyServer.cipher default
        default⟩
  [(firstJoin.1, .datagram { (default : SocketAddress) with port := 1 } (join ⟨1⟩ 7)),
    (firstJoin.1, .datagram { (default : SocketAddress) with port := 2 } (join ⟨2⟩ 8))]

/-- The relay after they joined. -/
def narrowPair : Relay := start.run Roster.zeroKeyServer narrowJoins

/-- The binding of the first of them. -/
def narrowBinding : Binding := ⟨⟨1⟩, 0, 0, 1, true, 0⟩

/-- The first of them may send to one binding, and one there is, but its own comes before.  The byte
that it sends and pays for goes nowhere, and it is blamed. -/
theorem sender_uses_up_its_limit :
    Reachable Roster.zeroKeyServer narrowPair ∧
      letter.hasHeader = true ∧ letter.source = letter.target ∧
      ((narrowPair.link 0).window.accept? letter.sequence).isSome = true ∧
      narrowPair.roster.binding? 0 letter.source = some narrowBinding ∧
      (narrowPair.roster.charge narrowBinding.purse (price letter.size)).2 = true ∧
      narrowPair.audience 0 narrowBinding = [⟨⟨2⟩, 0, 1, 1, true, 1⟩] ∧
      ((narrowPair.setPacket letter).handle Roster.zeroKeyServer firstJoin.1 0
        letter.size).outbox = narrowPair.outbox ∧
      ¬ MeetsLimit letter 0 narrowBinding narrowPair
        ((narrowPair.setPacket letter).handle Roster.zeroKeyServer firstJoin.1 0 letter.size) := by
  have hreachable : Reachable Roster.zeroKeyServer narrowPair := Reachable.start.run narrowJoins
  have hheader : letter.hasHeader = true := by decide
  have hdata : letter.source = letter.target := by decide +kernel
  have haccepted : ((narrowPair.link 0).window.accept? letter.sequence).isSome = true := by
    decide +kernel
  have hpaid : (narrowPair.roster.charge narrowBinding.purse (price letter.size)).2 = true := by
    decide +kernel
  obtain ⟨hb, haudience, hreached, hlarge⟩ :
      narrowPair.roster.binding? 0 ⟨1⟩ = some narrowBinding ∧
      narrowPair.audience 0 narrowBinding = [⟨⟨2⟩, 0, 1, 1, true, 1⟩] ∧
      narrowPair.reached 0 narrowBinding = [] ∧
      narrowBinding.size < (narrowPair.roster.session narrowBinding.session).bindings.length := by
    decide +kernel
  have hsource : letter.source = ⟨1⟩ := by decide +kernel
  rw [← hsource] at hb
  obtain ⟨⟨parcels, hout, hcopies⟩, hscore⟩ := hreachable.orderly.sentTo_reached
    Roster.zeroKeyServer firstJoin.1 hheader hdata haccepted hb hpaid
  rw [hreached] at hcopies
  cases hcopies
  rw [List.append_nil] at hout
  rw [if_pos hlarge] at hscore
  refine ⟨hreachable, hheader, hdata, haccepted, hb, hpaid, haudience, hout, fun hmeets => ?_⟩
  have hone : (narrowPair.audience 0 narrowBinding).length ≤ narrowBinding.size := by
    rw [haudience]
    decide
  have hsame := hscore.symm.trans (hmeets.within hone).2
  exact absurd (UInt64.add_eq_left.mp hsame) (by decide)

end Relay

end MeteredRelay
