import MeteredRelay.Proofs.Relay.Numbering
import MeteredRelay.Proofs.Roster.Gathering

/-!
# Which listings can be sent

A bitmap is kept if it is no larger than a message.  But a listing travels as a command: twelve
bytes of header and a tag stand before the bitmap, and on a connection with a key forty more come
with the seal.  So between the bitmaps that are kept and those that can be sent there is a gap, and
a session whose bitmap falls into it is listed to nobody, or not to the members whose connections
have keys.

What is handed out for a listing is followed one destination after the other (`outbox_listTo`): the
command lies on the desk with only its header written over, and no connection gets another key.
From this the limits are read off for any listing (`conveys_iff`).  **`kept_listing_conveyed_iff`**
says how large the bitmap of a session may be so that its listing reaches the members, and
`scattered_session_is_not_listed` is a session in the gap.
-/

namespace MeteredRelay

/-- A parcel is a listing for one of the peers that it names. -/
structure Parcel.Lists (bitmap : Bytes) (d : Destination) (parcel : Parcel) : Prop where
  link : parcel.link = d.link
  origin : parcel.origin = .server
  message : ∃ number,
    parcel.message = ((Command.membersBitmap bitmap).toFrame d.peer .server number).encode

/-- A parcel was refused because its message is too large to be sealed. -/
def Parcel.TooLarge (parcel : Parcel) : Prop :=
  ∃ size, parcel.outcome = .error (.messageTooLarge size)

namespace Relay

variable {env : Environment} {r : Relay} {n : LinkNo} {d : Destination} {bitmap message : Bytes}
  {l : Listing}

/-- A listing goes to all of its destinations: the command takes the bitmap, and each destination
gets it in its turn and is not refused for want of room.  What the system then does with a datagram
is not asked. -/
structure Conveys (env : Environment) (r : Relay) (l : Listing) : Prop where
  accepted : ∃ packet, r.desk.packet.setCommand .membersBitmap l.bitmap = .ok packet
  handed : ∃ parcels, (r.sendListing env l).outbox = r.outbox ++ parcels ∧
    List.Forall₂ (fun d parcel => parcel.Lists l.bitmap d ∧ ¬ parcel.TooLarge) l.destinations
      parcels

/-- A destination has a key, and with a seal a listing is larger than a message. -/
def LacksRoom (r : Relay) (bitmap : Bytes) (d : Destination) : Prop :=
  (r.link d.link).key ≠ none ∧ maxMessageSize < headerSize + 1 + bitmap.length + sealOverhead

/-- What a destination is handed for a listing, and whether it is refused. -/
structure Hands (r : Relay) (bitmap : Bytes) (d : Destination) (parcel : Parcel) : Prop where
  lists : parcel.Lists bitmap d
  refused : parcel.TooLarge ↔ r.LacksRoom bitmap d

/-- Of the relay, only the key of the connection matters. -/
lemma Hands.congr {x : Relay} {parcel : Parcel} (h : x.Hands bitmap d parcel)
    (hkey : (x.link d.link).key = (r.link d.link).key) : r.Hands bitmap d parcel :=
  ⟨h.lists, by rw [h.refused, LacksRoom, hkey, LacksRoom]⟩

/-! ## One destination -/

/-- Only a connection with a key refuses messages for their size, and only those that have no room
for the seal. -/
lemma seal_tooLarge_iff :
    (∃ size, (r.seal? env n message).2 = .error (.messageTooLarge size)) ↔
      (r.link n).key ≠ none ∧ maxMessageSize < message.length + sealOverhead := by
  have hsystem (wire : Bytes) (size : Nat) : datagramOf wire ≠ .error (.messageTooLarge size) := by
    unfold datagramOf
    split <;> nofun
  cases hkey : (r.link n).key with
  | none => simp [seal_of_none hkey, hsystem]
  | some k =>
      by_cases hroom : message.length + sealOverhead ≤ maxMessageSize
      · simp [seal_of_some hkey hroom, hsystem, Nat.not_lt.mpr hroom]
      · have hlong : maxMessageSize - sealOverhead < message.length := by
          simp only [maxMessageSize, sealOverhead] at hroom ⊢
          omega
        simp [seal?, hkey, hlong, Nat.not_le.mp hroom]

lemma key_listTo (m : LinkNo) : ((listTo env r d).link m).key = (r.link m).key := by
  have hlinks : (listTo env r d).link m = (r.changeLink d.link (·.advance)).link m := by
    rw [link, listTo, links_deliverNumbered, link]
  rw [hlinks]
  exact view_changeLink (f := (·.advance)) (fun _ => rfl) r d.link m

/-- A destination is handed the listing, and it is refused where the seal has no room. -/
lemma outbox_listTo (env : Environment) (d : Destination)
    (h : r.Shows .server (Command.membersBitmap bitmap).data) :
    ∃ parcel, (listTo env r d).outbox = r.outbox ++ [parcel] ∧ r.Hands bitmap d parcel := by
  obtain ⟨f, hf⟩ : ∃ f, f = (Command.membersBitmap bitmap).toFrame d.peer .server
    (r.link d.link).nextSequence := ⟨_, rfl⟩
  have hlength : f.encode.length = headerSize + 1 + bitmap.length := by
    rw [Frame.length_encode, hf]
    show headerSize + (bitmap.length + 1) = _
    omega
  have hbytes := h.bytes d.peer (r.link d.link).nextSequence
  refine ⟨⟨d.link, .server, f.encode, (r.seal? env d.link f.encode).2⟩, ?_,
    ⟨rfl, rfl, (r.link d.link).nextSequence, congrArg Frame.encode hf⟩, ?_⟩
  · exact outbox_deliverNumbered r env d.link .server _ (hbytes.trans (by rw [hf]; rfl))
  · rw [LacksRoom, ← hlength]
    exact seal_tooLarge_iff

/-! ## All destinations -/

/-- The loop over the destinations hands each of them the listing. -/
lemma outbox_foldl_listTo (env : Environment)
    (h : r.Shows .server (Command.membersBitmap bitmap).data) (ds : List Destination) :
    ∃ parcels, (ds.foldl (listTo env) r).outbox = r.outbox ++ parcels ∧
      List.Forall₂ (r.Hands bitmap) ds parcels := by
  induction ds generalizing r with
  | nil => exact ⟨[], (List.append_nil _).symm, .nil⟩
  | cons d ds ih =>
      obtain ⟨parcel, houtbox, hparcel⟩ := outbox_listTo env d h
      obtain ⟨parcels, hrest, hparcels⟩ := ih (r := listTo env r d)
        (h.copy env d.link .server d.peer)
      refine ⟨parcel :: parcels, ?_, .cons hparcel (hparcels.imp fun e p he => ?_)⟩
      · rw [List.foldl_cons, hrest, houtbox, List.append_assoc, List.singleton_append]
      · exact he.congr (key_listTo e.link)

/-- A listing that a command cannot take is not sent. -/
lemma sendListing_of_large (h : maxMessageSize < headerSize + 1 + l.bitmap.length) :
    r.sendListing env l = r := by
  simp only [sendListing, PacketBuffer.setCommand, dif_neg (Nat.not_le.mpr h)]

lemma outbox_sendListing (env : Environment) (r : Relay)
    (h : headerSize + 1 + l.bitmap.length ≤ maxMessageSize) :
    ∃ parcels, (r.sendListing env l).outbox = r.outbox ++ parcels ∧
      List.Forall₂ (r.Hands l.bitmap) l.destinations parcels := by
  obtain ⟨packet, hpacket⟩ :
      ∃ packet, r.desk.packet.setCommand .membersBitmap l.bitmap = .ok packet := ⟨_, dif_pos h⟩
  have hshows := shows_of_setCommand (c := .membersBitmap l.bitmap) r hpacket
  obtain ⟨parcels, houtbox, hparcels⟩ := outbox_foldl_listTo env hshows l.destinations
  simp only [sendListing, hpacket]
  exact ⟨parcels, houtbox, hparcels.imp fun d p hp => hp.congr rfl⟩

/-- No destination is refused if none lacks room. -/
lemma none_refused_iff {ds : List Destination} {parcels : List Parcel}
    (h : List.Forall₂ (r.Hands bitmap) ds parcels) :
    List.Forall₂ (fun d parcel => parcel.Lists bitmap d ∧ ¬ parcel.TooLarge) ds parcels ↔
      ∀ d ∈ ds, ¬ r.LacksRoom bitmap d := by
  induction h with
  | nil => simp
  | cons hd _ ih =>
      rw [List.forall₂_cons, ih, List.forall_mem_cons, hd.refused, and_iff_right hd.lists]

/-- **A listing goes to all of its destinations exactly if header, tag and bitmap fit into a
message, and the seal too where a destination has a key.** -/
theorem conveys_iff (env : Environment) (r : Relay) (l : Listing) :
    r.Conveys env l ↔ headerSize + 1 + l.bitmap.length ≤ maxMessageSize ∧
      ∀ d ∈ l.destinations, (r.link d.link).key ≠ none →
        headerSize + 1 + l.bitmap.length + sealOverhead ≤ maxMessageSize := by
  have hroom (d : Destination) : ¬ r.LacksRoom l.bitmap d ↔ ((r.link d.link).key ≠ none →
      headerSize + 1 + l.bitmap.length + sealOverhead ≤ maxMessageSize) := by
    rw [LacksRoom, not_and, Nat.not_lt]
  by_cases hfits : headerSize + 1 + l.bitmap.length ≤ maxMessageSize
  · obtain ⟨parcels, houtbox, hparcels⟩ := outbox_sendListing env r hfits
    simp only [hfits, true_and, ← hroom, ← none_refused_iff hparcels]
    constructor
    · rintro ⟨-, others, houtbox', hothers⟩
      obtain rfl := List.append_cancel_left (houtbox'.symm.trans houtbox)
      exact hothers
    · exact fun hall => ⟨⟨_, dif_pos hfits⟩, parcels, houtbox, hall⟩
  · refine iff_of_false ?_ fun h => hfits h.1
    rintro ⟨⟨packet, hpacket⟩, -⟩
    rw [PacketBuffer.setCommand, dif_neg hfits] at hpacket
    contradiction

/-! ## The listings of a session -/

/-- **How large the bitmap of a session may be so that its listing reaches the members.**  The
bitmap of a listing that is due has the size of the set of members, and that is at most the size of
a message.  The listing goes to all of its destinations exactly if there is room for header and tag,
and for the seal where the connection of one has a key.  Without room for header and tag, nothing at
all happens. -/
theorem kept_listing_conveyed_iff (env : Environment) (acts : List (Moment × Roster.Act))
    (n : SessionNo) (now : Instant) (spacing : Span) (l : Listing)
    (hl : ((Roster.empty.run env acts).session n).listing? now spacing = some l) (r : Relay) :
    let size := ((Roster.empty.run env acts).session n).members.byteSize
    l.bitmap.length = size ∧ size ≤ maxMessageSize ∧
      (r.Conveys env l ↔ headerSize + 1 + size ≤ maxMessageSize ∧
        ∀ d ∈ l.destinations, (r.link d.link).key ≠ none →
          headerSize + 1 + size + sealOverhead ≤ maxMessageSize) ∧
      (maxMessageSize < headerSize + 1 + size → r.sendListing env l = r) := by
  intro size
  obtain ⟨-, hw, rfl⟩ := Session.listing?_eq_some_iff.mp hl
  obtain ⟨hbitmap, hkept⟩ := (Roster.fresh_run env acts n).written_eq hw
  have hlength : ((Roster.empty.run env acts).session n).written.get.length = size := by
    rw [hbitmap, MemberSet.length_bitmap]
  refine ⟨hlength, hkept, ?_, fun hlarge => sendListing_of_large ?_⟩
  · rw [conveys_iff]
    simp only [hlength]
  · simpa only [hlength] using hlarge

/-- A small session is listed to both of its members, one of whom has a key. -/
theorem kept_listing_conveyed_pair :
    let q := Roster.empty.run Roster.zeroKeyServer Roster.pairRun
    let links := (Store.empty.add (Link.opening default default [] 0)).add (Link.plain default 0)
    let r : Relay := { start with roster := q, links := links }
    ∃ l, (q.session 0).listing? Roster.noon.instant (Span.seconds 1) = some l ∧
      l.destinations = [⟨⟨1⟩, 0⟩, ⟨⟨2⟩, 1⟩] ∧ (r.link 0).key ≠ none ∧
      r.Conveys Roster.zeroKeyServer l := by
  intro q links r
  obtain ⟨l, hl⟩ : ∃ l, (q.session 0).listing? Roster.noon.instant (Span.seconds 1) = some l :=
    Option.isSome_iff_exists.mp (by decide +kernel)
  have hsize : (q.session 0).members.byteSize = 20 := by decide +kernel
  have hroom : headerSize + 1 + (q.session 0).members.byteSize + sealOverhead ≤ maxMessageSize := by
    rw [hsize]
    decide
  obtain ⟨-, -, hconveys, -⟩ := kept_listing_conveyed_iff Roster.zeroKeyServer Roster.pairRun 0
    Roster.noon.instant (Span.seconds 1) l hl r
  refine ⟨l, hl, ?_, by decide,
    hconveys.mpr ⟨Nat.le_trans (Nat.le_add_right _ _) hroom, fun _ _ _ => hroom⟩⟩
  rw [(Session.listing?_eq_some_iff.mp hl).2.2]
  decide +kernel

/-- A session whose bitmap is kept but leaves no room for header and tag is listed to nobody. -/
lemma listing_in_gap {s : Session} {now : Instant} {spacing : Span} (hfresh : s.Fresh)
    (hbound : s.bindings ≠ []) (hdue : s.isListingDue now spacing = true)
    (hkept : s.members.byteSize ≤ maxMessageSize)
    (hlarge : maxMessageSize < headerSize + 1 + s.members.byteSize) (env : Environment)
    (r : Relay) :
    ∃ l, s.listing? now spacing = some l ∧ l.destinations ≠ [] ∧
      l.bitmap.length = s.members.byteSize ∧ r.sendListing env l = r ∧ ¬ r.Conveys env l := by
  have hw : s.written.get ≠ [] := (hfresh.written_ne_nil_iff hbound).mpr hkept
  have hlength : s.written.get.length = s.members.byteSize := by
    rw [(hfresh.written_eq hw).1, MemberSet.length_bitmap]
  rw [← hlength] at hlarge
  refine ⟨_, Session.listing?_eq_some_iff.mpr ⟨hdue, hw, rfl⟩, mt List.map_eq_nil_iff.mp hbound,
    hlength, sendListing_of_large hlarge, fun h => ?_⟩
  exact Nat.not_le.mpr hlarge ((conveys_iff ..).mp h).1

/-- A session of 6552 peers, no two of which have the same upper half, keeps a bitmap that is eight
bytes short of a message, and nobody gets it. -/
theorem scattered_session_is_not_listed :
    let s := MemberSet.scattered 6552 (by decide)
    let q := Roster.empty.run Roster.zeroKeyServer (Roster.gather 0 default Roster.noon s)
    let r : Relay := { start with roster := q, links := Store.empty.add (Link.plain default 0) }
    ∃ l, (q.session 0).listing? Roster.noon.instant (Span.seconds 1) = some l ∧
      l.destinations ≠ [] ∧ l.bitmap.length = 65528 ∧ r.sendListing Roster.zeroKeyServer l = r ∧
      ¬ r.Conveys Roster.zeroKeyServer l := by
  intro s q r
  obtain ⟨hmembers, hunlisted⟩ :=
    Roster.members_gather Roster.zeroKeyServer 0 default Roster.noon s
  have hsize : (q.session 0).members.byteSize = 65528 := by
    rw [hmembers, MemberSet.byteSize_scattered]
  have hbound : (q.session 0).bindings ≠ [] := by
    have hsound : q.Sound := Roster.sound_run ..
    have hfirst := (hsound.tidy 0).members ⟨UInt32.ofNat (65536 * 0 + 1)⟩
    rw [hmembers] at hfirst
    have hmem := hfirst.mp (MemberSet.contains_scattered _ (by decide))
    obtain ⟨b, hb, -⟩ := Session.mem_peers.mp hmem
    exact List.ne_nil_of_mem hb
  have hdue : (q.session 0).isListingDue Roster.noon.instant (Span.seconds 1) = true := by
    rw [Session.isListingDue, hunlisted]
  have hfresh : (q.session 0).Fresh := Roster.fresh_run ..
  have hgap := listing_in_gap hfresh hbound hdue (by rw [hsize]; decide) (by rw [hsize]; decide)
    Roster.zeroKeyServer r
  rwa [hsize] at hgap

end Relay

end MeteredRelay
