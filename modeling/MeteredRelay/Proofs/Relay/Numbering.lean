import MeteredRelay.Proofs.Relay.Conduct
import MeteredRelay.Proofs.Relay.Mirror.Refinement
import MeteredRelay.Proofs.Relay.Origins
import MeteredRelay.Proofs.Relay.PassOn
import MeteredRelay.Proofs.Roster.Listing
import MeteredRelay.Proofs.Window

/-!
# The numbers that clients see

A client refuses a message whose number it has seen or left behind, so the server must not give a
connection one number twice; and its window gets over the end of the numbers only if none is left
out there.  Numbers are taken in four places: answers, reports of kicks, copies of messages and
listings.  Three of them write to connections other than the one that is served, and a number is
taken even where the message is then not sent.

**Every connection counts for itself.**  `Numbered` says that the frames that were handed out to a
connection carry the numbers one, two, three and so on, and that the connection remembers the last.
To hand out a frame under the next number keeps this (`Numbered.handOut`); an echo takes no number
(`Numbered.echo`), and whatever hands out nothing leaves the counters alone (`Quiet`).  So every
event keeps it (**`Numbered.step`**).

**A window follows any count.**  One that has accepted a number accepts the next, also where the
numbers begin again (`Window.exists_accept?_succ`), so it accepts all of them
(**`Window.acceptsAll_counting`**).  **`numbers_run`** puts the two together.
-/

namespace MeteredRelay

/-- The first `k` numbers of a count that begins with one. -/
def counting (k : Nat) : List UInt32 := (List.range' 1 k).map .ofNat

lemma counting_succ (k : Nat) : counting (k + 1) = counting k ++ [.ofNat k + 1] := by
  simp [counting, List.range'_concat, Nat.add_comm]

/-! ## Windows -/

namespace Window

/-- Each number of a list is accepted after those before it. -/
def AcceptsAll (w : Window) : List UInt32 → Prop
  | [] => True
  | s :: ss => ∃ w', w.accept? s = some w' ∧ w'.AcceptsAll ss

/-- The number after the highest is accepted and then the highest, also behind the end. -/
lemma exists_accept?_succ (w : Window) :
    ∃ w', w.accept? (w.highest + 1) = some w' ∧ w'.highest = w.highest + 1 := by
  have hfeeds := feeds_accept? w (w.highest + 1)
  have hwidth : width = 16 := rfl
  have hsize : UInt32.size = 2 ^ 32 := rfl
  have hnext : (w.highest + 1).toNat = (w.highest.toNat + 1) % 2 ^ 32 := UInt32.toNat_add ..
  have hlt := w.highest.toNat_lt
  generalize w.accept? (w.highest + 1) = o at hfeeds
  cases hfeeds with
  | moved _ hh => exact ⟨_, rfl, hh⟩
  | restarted _ _ _ hh => exact ⟨_, rfl, hh⟩
  | filled hle hnear => omega
  | repeated hle hnear => omega
  | behind hfar hmid => exact absurd ⟨by omega, by omega⟩ hmid

/-- From any number on a count is accepted by a window that has got there. -/
lemma acceptsAll_range' {w : Window} {k : Nat} (h : w.highest = .ofNat k) (count : Nat) :
    w.AcceptsAll ((List.range' (k + 1) count).map .ofNat) := by
  induction count generalizing w k with
  | zero => trivial
  | succ count ih =>
      obtain ⟨w', haccepts, hhighest⟩ := w.exists_accept?_succ
      have hnext : w.highest + 1 = .ofNat (k + 1) := by rw [h, UInt32.ofNat_add]; rfl
      rw [hnext] at haccepts hhighest
      exact ⟨w', haccepts, ih hhighest⟩

/-- **A window that starts afresh accepts a count from one on**, however often the numbers begin
again. -/
theorem acceptsAll_counting (k : Nat) : start.AcceptsAll (counting k) := acceptsAll_range' rfl k

end Window

/-! ## Frames -/

/-- The number that a message carries, if it is a frame. -/
def Parcel.number (p : Parcel) : Except FrameFault UInt32 :=
  (Frame.decode p.message).map (·.sequence)

lemma Parcel.number_of_message {p : Parcel} {f : Frame} (h : p.message = f.encode) :
    p.number = .ok f.sequence := by
  rw [number, h, Frame.decode_encode]
  rfl

namespace Relay

/-- What was handed out to a connection, in order, but for the echoes of handshakes. -/
def framesTo (r : Relay) (n : LinkNo) : List Parcel :=
  r.outbox.filter fun p => p.link = n ∧ p.origin ≠ .echo

/-- Each connection was handed out frames with numbers from one on, and it remembers the last. -/
structure Numbered (r : Relay) : Prop where
  exist : ∀ p ∈ r.outbox, p.link < r.links.size
  numbers : ∀ n, (r.framesTo n).map Parcel.number = (counting (r.framesTo n).length).map .ok
  sent : ∀ n, (r.link n).sent = .ofNat (r.framesTo n).length

/-- Nothing was handed out, and no connection took a number. -/
structure Quiet (r r' : Relay) : Prop where
  outbox : r'.outbox = r.outbox
  size : r'.links.size = r.links.size
  sent : ∀ n, (r'.link n).sent = (r.link n).sent

variable {env : Environment} {now : Moment} {r r' r'' x : Relay} {n receiver sender caller : LinkNo}
  {f : Link → Link} {l : Link} {p : PacketBuffer} {parcel : Parcel} {origin : Origin}
  {target : PeerId} {message data : Bytes} {c : Command} {size : Nat} {address : SocketAddress}

namespace Quiet

lemma of_same (h : (r'.outbox, r'.links) = (r.outbox, r.links)) : Quiet r r' := by
  simp only [Prod.mk.injEq] at h
  exact ⟨h.1, by rw [h.2], fun n => by rw [link_congr h.2]⟩

lemma refl (r : Relay) : Quiet r r := of_same rfl

lemma trans (h : Quiet r r') (h' : Quiet r' r'') : Quiet r r'' :=
  ⟨h'.outbox.trans h.outbox, h'.size.trans h.size, fun n => (h'.sent n).trans (h.sent n)⟩

end Quiet

lemma quiet_changeLink (hf : ∀ l, (f l).sent = l.sent) : Quiet r (r.changeLink n f) :=
  ⟨rfl, Store.size_modify .., view_changeLink hf r n⟩

lemma quiet_penalize : Quiet r (r.penalize n) := quiet_changeLink fun _ => rfl

/-- To complete a handshake takes no number. -/
lemma quiet_complete : Quiet r (r.complete n) :=
  (quiet_changeLink (f := (·.complete)) fun _ => rfl).trans (.of_same rfl)

lemma quiet_openInput {opened : Option Nat} (hopen : r.openInput env n data = (r', opened)) :
    Quiet r r' := by
  have hset (p : PacketBuffer) : Quiet r (r.setPacket p) := .of_same rfl
  suffices hs : Quiet r (r.openInput env n data).1 by rwa [hopen] at hs
  unfold openInput
  split
  · split
    · exact hset _
    · exact .refl r
  · split
    · exact .refl r
    · dsimp only
      split
      · exact hset _
      · have hcount (x : Relay) (c : Counter) : Quiet x { x with decryptFailures := c } :=
          .of_same rfl
        exact ((hset _).trans (hcount _ _)).trans quiet_penalize

lemma quiet_address {session : SessionNo} : Quiet r (r.address sender session size) := by
  unfold address
  dsimp only
  split
  · have hnoted (desk : Desk) : Quiet r { r with desk } := .of_same rfl
    exact (hnoted _).trans quiet_penalize
  · exact .of_same rfl

/-! ## Handing out -/

/-- How a message is sealed depends on the key of its connection and on the nonces that are left. -/
lemma seal_congr (hkey : (x.link n).key = (r.link n).key) (hdrawn : x.noncesDrawn = r.noncesDrawn)
    (env : Environment) (message : Bytes) :
    (x.seal? env n message).2 = (r.seal? env n message).2 := by
  simp only [seal?, hkey, hdrawn]
  split
  · rfl
  · split <;> rfl

/-- A message that goes out under a number is stamped with the next one of its connection. -/
lemma outbox_deliverNumbered (r : Relay) (env : Environment) (receiver : LinkNo) (origin : Origin)
    (stamp : UInt32 → PacketBuffer → PacketBuffer)
    (hmessage : (stamp (r.link receiver).nextSequence r.desk.packet).bytes = message) :
    (r.deliverNumbered env receiver origin stamp).1.outbox =
      r.outbox ++ [⟨receiver, origin, message, (r.seal? env receiver message).2⟩] := by
  subst hmessage
  obtain ⟨y, hy⟩ : ∃ y, y = (r.changeLink receiver (·.advance)).setPacket
    (stamp (r.link receiver).nextSequence r.desk.packet) := ⟨_, rfl⟩
  have hkey : (y.link receiver).key = (r.link receiver).key := by
    rw [hy]
    show ((r.changeLink receiver (·.advance)).link receiver).key = (r.link receiver).key
    exact view_changeLink (f := (·.advance)) (fun _ => rfl) r receiver receiver
  have hseal := seal_congr hkey (by rw [hy]; rfl) env
    (stamp (r.link receiver).nextSequence r.desk.packet).bytes
  simp only [deliverNumbered, ← hy]
  rw [(still_deliver ..).1.outbox, hseal, hy]
  rfl

lemma links_deliverNumbered (r : Relay) (env : Environment) (receiver : LinkNo) (origin : Origin)
    (stamp : UInt32 → PacketBuffer → PacketBuffer) :
    (r.deliverNumbered env receiver origin stamp).1.links =
      (r.changeLink receiver (·.advance)).links :=
  (still_deliver ..).1.links

/-- A message that is handed out is a frame for its connection, and none if it is an echo. -/
lemma framesTo_of_outbox (h : r'.outbox = r.outbox ++ [parcel]) (n : LinkNo) : r'.framesTo n =
    r.framesTo n ++ if parcel.link = n ∧ parcel.origin ≠ .echo then [parcel] else [] := by
  rw [framesTo, h, List.filter_append, List.filter_singleton, framesTo]
  simp only [Bool.cond_decide]

namespace Numbered

/-- Where nothing was handed out and no number was taken, the counts stay right. -/
lemma quiet (h : r.Numbered) (hq : Quiet r r') : r'.Numbered := by
  have hframes (n : LinkNo) : r'.framesTo n = r.framesTo n := by
    rw [framesTo, hq.outbox, framesTo]
  refine ⟨?_, fun n => ?_, fun n => ?_⟩
  · rw [hq.outbox, hq.size]
    exact h.exist
  · rw [hframes]
    exact h.numbers n
  · rw [hframes, hq.sent]
    exact h.sent n

/-- A frame is handed out under the next number of its connection. -/
lemma handOut (h : r.Numbered) (hlt : parcel.link < r.links.size) (horigin : parcel.origin ≠ .echo)
    (hnumber : parcel.number = .ok (r.link parcel.link).nextSequence)
    (houtbox : r'.outbox = r.outbox ++ [parcel])
    (hlinks : r'.links = (r.changeLink parcel.link (·.advance)).links) : r'.Numbered := by
  have hframes := framesTo_of_outbox houtbox
  have hnext : (r.link parcel.link).nextSequence =
      .ofNat (r.framesTo parcel.link).length + 1 := by rw [Link.nextSequence, h.sent]
  refine ⟨?_, fun n => ?_, fun n => ?_⟩
  · rw [houtbox, hlinks, keeps_changeLink.size]
    exact List.forall_mem_append.mpr ⟨h.exist, by simpa using hlt⟩
  · by_cases hn : parcel.link = n
    · subst hn
      rw [hframes, if_pos ⟨rfl, horigin⟩, List.length_append, List.length_singleton, counting_succ,
        List.map_append, List.map_append, h.numbers, List.map_singleton, List.map_singleton,
        hnumber, hnext]
    · rw [hframes, if_neg fun h => hn h.1, List.append_nil]
      exact h.numbers n
  · rw [link_congr hlinks]
    by_cases hn : parcel.link = n
    · subst hn
      rw [link_changeLink_self hlt, hframes, if_pos ⟨rfl, horigin⟩, List.length_append,
        List.length_singleton, UInt32.ofNat_add]
      exact hnext
    · rw [link_changeLink_of_ne (Ne.symm hn), hframes, if_neg fun h => hn h.1, List.append_nil]
      exact h.sent n

/-- An echo takes no number. -/
lemma echo (h : r.Numbered) (hn : n < r.links.size) :
    (r.deliver env n .echo message).1.Numbered := by
  have hstill := (still_deliver r env n .echo message).1
  have hframes (m : LinkNo) : (r.deliver env n .echo message).1.framesTo m = r.framesTo m := by
    rw [framesTo_of_outbox hstill.outbox, if_neg fun h => h.2 rfl, List.append_nil]
  refine ⟨?_, fun m => ?_, fun m => ?_⟩
  · rw [hstill.outbox, hstill.links]
    exact List.forall_mem_append.mpr ⟨h.exist, by simpa using hn⟩
  · rw [hframes]
    exact h.numbers m
  · rw [hframes, link_congr hstill.links]
    exact h.sent m

/-- A connection that is made has been handed out nothing. -/
lemma enroll (h : r.Numbered) (hl : l.sent = 0) : (r.enroll l).1.Numbered := by
  have hsize : (r.enroll l).1.links.size = r.links.size + 1 := Store.size_add ..
  have hnone : r.framesTo r.links.size = [] := by
    refine List.filter_eq_nil_iff.mpr fun p hp => ?_
    have hne : p.link ≠ r.links.size := Nat.ne_of_lt (h.exist p hp)
    simp [hne]
  refine ⟨fun p hp => ?_, h.numbers, fun n => ?_⟩
  · rw [hsize]
    exact Nat.lt_succ_of_lt (h.exist p hp)
  · show ((r.enroll l).1.link n).sent = .ofNat (r.framesTo n).length
    rw [link_enroll]
    split
    · rename_i hn
      rw [hl, hn, hnone]
      rfl
    · exact h.sent n

/-- The message on the desk is handed out as a frame. -/
lemma deliverNumbered (h : r.Numbered) (hlt : receiver < r.links.size) (horigin : origin ≠ .echo)
    {stamp : UInt32 → PacketBuffer → PacketBuffer}
    (hstamp : ∀ k, ∃ f : Frame, (stamp k r.desk.packet).bytes = f.encode ∧ f.sequence = k) :
    (r.deliverNumbered env receiver origin stamp).1.Numbered := by
  obtain ⟨f, hbytes, hnumber⟩ := hstamp (r.link receiver).nextSequence
  refine h.handOut hlt horigin ?_ (outbox_deliverNumbered r env receiver origin stamp rfl)
    (links_deliverNumbered ..)
  rw [Parcel.number_of_message hbytes, hnumber]

/-! ## Answers -/

/-- A reply is written on the desk with the next number of the connection that it goes to. -/
lemma reply (h : r.Numbered) (hlt : receiver < r.links.size)
    (hheader : r.desk.packet.hasHeader = true) : (r.reply env receiver target).1.Numbered := by
  simp only [Relay.reply]
  exact h.deliverNumbered hlt (by simp) fun k => ⟨_, PacketBuffer.bytes_reply hheader .., rfl⟩

lemma sendCommand (h : r.Numbered) (hlt : receiver < r.links.size) :
    (r.sendCommand env receiver target c).1.Numbered := by
  simp only [Relay.sendCommand]
  split
  · exact h
  · rename_i packet hset
    have hheader : packet.hasHeader = true := (PacketBuffer.of_setCommand hset).1
    exact reply (h.quiet (.of_same rfl)) hlt hheader

/-- Whatever is done about a command, who is told is there: the caller, or the connection that held
the peer that is kicked. -/
lemma deed (h : r.Numbered) (ho : r.Orderly) (hcaller : caller < r.links.size)
    (hdeed : Deed env now caller p r r') : r'.Numbered := by
  cases hdeed with
  | noted => exact h.quiet (quiet_changeLink fun _ => rfl)
  | ponged hping =>
      obtain ⟨b, hb⟩ := Command.data_of_split hping
      have hheader := (PacketBuffer.setTag_eq hb .pong).1
      exact reply (h.quiet (.of_same rfl)) hcaller hheader
  | redeemed | acted => exact h.quiet (.of_same rfl)
  | kicked hkick =>
      rename_i held target banSeconds
      have hkicks := Roster.kicks_kick ho.roster.sound now.instant caller p.source target banSeconds
      rw [hkick] at hkicks
      have hheld : held < r.links.size := by
        revert hkicks
        generalize (r.roster.kick now.instant caller p.source target banSeconds).1 = q
        rintro (- | @⟨b, t, hb, hadmin, ht⟩)
        exact ho.link_lt (Session.mem_of_find? ht)
      exact sendCommand (h.quiet (.of_same rfl)) hheld
  | sent => exact h.sendCommand hcaller

/-- The connections that are told are there throughout, because no command makes or drops one. -/
lemma obey (h : r.Numbered) (ho : r.Orderly) (hcaller : caller < r.links.size) (now : Moment) :
    (r.obey env now caller).1.Numbered := by
  -- each deed needs an orderly relay and the caller's connection, so these are carried along
  refine ((deeds_obey env now r caller).induction
    (R := fun _ x => x.Numbered ∧ x.Orderly ∧ caller < x.links.size) ⟨h, ho, hcaller⟩ ?_).1
  rintro x y hdeed ⟨hx, hox, hlt⟩
  have hacts := performs_deed hdeed
  refine ⟨hx.deed hox hlt hdeed, hox.performs hacts fun a ha => ha.1.fits hlt, ?_⟩
  rwa [hacts.size]

/-! ## Copies -/

/-- A loop hands out copies of the message on the desk to connections that there are.  It may leave
some of them out. -/
lemma copies {step : Relay → Destination → Relay} (h : r.Numbered)
    (hheader : r.desk.packet.hasHeader = true) {ds : List Destination}
    (hds : ∀ d ∈ ds, d.link < r.links.size) (env : Environment)
    (hstep : ∀ x d, step x d = x ∨ ∃ origin, origin ≠ .echo ∧
      step x d = (x.deliverNumbered env d.link origin fun n p => p.readdress d.peer n).1) :
    (ds.foldl step r).Numbered := by
  induction ds generalizing r with
  | nil => exact h
  | cons d ds ih =>
      obtain ⟨hd, hds⟩ := List.forall_mem_cons.mp hds
      rcases hstep r d with hskip | ⟨origin, horigin, hcopy⟩
      · rw [List.foldl_cons, hskip]
        exact ih h hheader hds
      · have hnumbered : (step r d).Numbered := by
          rw [hcopy]
          exact h.deliverNumbered hd horigin fun k =>
            ⟨_, PacketBuffer.bytes_readdress hheader, rfl⟩
        have hsize : (step r d).links.size = r.links.size := by
          rw [hcopy]
          exact keeps_deliverNumbered.size
        have hpacket : (step r d).desk.packet =
            r.desk.packet.readdress d.peer (r.link d.link).nextSequence := by
          rw [hcopy]
          exact (still_deliver ..).2
        have hkept : (step r d).desk.packet.hasHeader = true := by
          rw [hpacket, PacketBuffer.hasHeader_readdress, hheader]
        exact ih hnumbered hkept (by rwa [hsize])

lemma fanOut (h : r.Numbered) (hheader : r.desk.packet.hasHeader = true)
    (hds : ∀ d ∈ r.desk.destinations, d.link < r.links.size) : (r.fanOut env sender).Numbered := by
  have hcopies : (r.desk.destinations.foldl (forwardTo env sender) r).Numbered := by
    refine h.copies hheader hds env fun x d => ?_
    by_cases hd : d.link = sender
    · exact .inl (if_pos hd)
    · exact .inr ⟨.relayed sender, by simp, if_neg hd⟩
  exact hcopies.quiet (.of_same rfl)

/-- A message goes to bindings of one session, and their connections are there. -/
lemma forward (h : r.Numbered) (ho : r.Orderly) (hheader : r.desk.packet.hasHeader = true)
    (b : Binding) : (r.forward env sender b size).Numbered := by
  have hcharged : (r.charge b (price size)).1.Numbered := h.quiet (.of_same rfl)
  unfold Relay.forward
  dsimp only
  split
  · have hsent : (((r.charge b (price size)).1.address sender b.session b.size).fanOut env
        sender).Numbered := by
      refine fanOut (hcharged.quiet quiet_address) (by rwa [packet_address]) fun d hd => ?_
      rw [destinations_address] at hd
      obtain ⟨a, ha, rfl⟩ := List.mem_map.mp (List.mem_of_mem_take hd)
      rw [quiet_address.size]
      exact ho.link_lt ha
    generalize Relay.fanOut env _ sender = x at hsent ⊢
    exact hsent.quiet (.of_same rfl)
  · have hcounted (c : Counter) (x : Relay) : Quiet x { x with unpaidBytes := c } := .of_same rfl
    exact (hcharged.quiet (hcounted _ _)).quiet quiet_penalize

/-! ## Datagrams -/

lemma handle (h : r.Numbered) (ho : r.Orderly) (hsender : sender < r.links.size) (now : Moment)
    (size : Nat) : (r.handle env now sender size).Numbered := by
  have hhandles := handles_handle env now r sender size
  generalize r.handle env now sender size = r' at hhandles ⊢
  cases hhandles with
  | headless => exact h.quiet quiet_penalize
  | skipped => exact h.quiet (.of_same rfl)
  | accepted hheader _ hprocesses =>
      rename_i window _
      have hnoted : (r.note sender window).Numbered := h.quiet (quiet_changeLink fun _ => rfl)
      have ho' : (r.note sender window).Orderly := ho.keeps keeps_note
      have hobeyed : ((r.note sender window).obey env now sender).1.Numbered :=
        hnoted.obey ho' (by rwa [keeps_note.size]) now
      cases hprocesses with
      | obeyed _ hobey => rwa [hobey] at hobeyed
      | disobeyed _ hobey =>
          rw [hobey] at hobeyed
          exact hobeyed.quiet quiet_penalize
      | unbound => exact hnoted.quiet quiet_penalize
      | forwarded => exact hnoted.forward ho' hheader _

lemma arrive {arrival : Arrival} (h : r.Numbered)
    (harrive : r.arrive env now address data = (r', arrival)) : r'.Numbered := by
  cases finds_arrive harrive with
  | established => exact h
  | completed => exact h.quiet quiet_complete
  | repeated => exact h.quiet quiet_penalize
  | founded =>
      have henrolled := h.enroll (l := .plain address now.instant) rfl
      exact henrolled.quiet (.of_same rfl)
  | queued | dropped => exact h.quiet (.of_same rfl)

lemma receive (h : r.Numbered) (ho : r.Orderly) : (r.receive env now address data).Numbered := by
  have htake (x : Relay) : Quiet x (x.take data) := .of_same rfl
  have hnote (x : Relay) (n : LinkNo) : Quiet x (x.changeLink n (·.noteRead now.instant)) :=
    quiet_changeLink fun _ => rfl
  have hreads := reads_receive env now r address data
  generalize r.receive env now address data = r' at hreads ⊢
  cases hreads with
  | consumed harrive => exact (h.arrive harrive).quiet (htake _)
  | repeated harrive =>
      rename_i n
      have hn : n < r.links.size := by
        have hfinds := finds_arrive harrive
        generalize r.penalize n = x at hfinds
        cases hfinds with
        | repeated hn => exact ho.addressed address n hn
      have hquiet : Quiet r (((r.penalize n).take data).changeLink n (·.noteRead now.instant)) :=
        (quiet_penalize.trans (htake _)).trans (hnote _ _)
      exact (h.quiet hquiet).echo (by rwa [hquiet.size])
  | unopened harrive hopen =>
      exact ((h.arrive harrive).quiet (htake _)).quiet (quiet_openInput hopen)
  | handled harrive hopen =>
      rename_i x opened n size
      obtain ⟨harrived, hlt⟩ := ho.arrive harrive
      obtain ⟨hready, hsender, -⟩ :
          (opened.changeLink n (·.noteRead now.instant)).Orderly ∧ _ ∧ _ :=
        (harrived.keeps keeps_take).openInput (hlt n rfl) hopen
      have hopened := ((h.arrive harrive).quiet (htake _)).quiet (quiet_openInput hopen)
      exact (hopened.quiet (hnote _ _)).handle hready hsender now _

/-! ## Other events -/

lemma answer (h : r.Numbered) (hn : n < r.links.size) : (r.answer env n data).Numbered := by
  unfold Relay.answer
  split
  · exact h
  · split
    · exact h.echo hn
    · exact h

lemma greet (h : r.Numbered) (ho : r.Orderly) : (r.greet env).Numbered := by
  unfold Relay.greet
  cases r.handshakes with
  | nil => exact h
  | cons first rest =>
      have hrest : ({ r with handshakes := rest } : Relay).Numbered := h.quiet (.of_same rfl)
      dsimp only
      split
      · rename_i n hn
        exact hrest.answer (ho.addressed first.address n hn)
      · split
        · exact hrest
        · rename_i key _
          have hbegun : (r.beginLink first rest key).Numbered :=
            (hrest.enroll (l := begun first key) rfl).quiet (.of_same rfl)
          have hsize : (r.beginLink first rest key).links.size = r.links.size + 1 :=
            Store.size_add ..
          exact hbegun.answer (by rw [hsize]; exact Nat.lt_succ_self _)

lemma sweep (h : r.Numbered) : (r.sweep env now.instant).1.Numbered := by
  refine sweep_induction (fun x address hx => ?_) h
  cases hn : x.addresses.get? address with
  | none => rwa [dropLink_of_none hn]
  | some n =>
      obtain ⟨roster, hdrop⟩ := dropLink_of_some hn
      have hcomplete : Quiet x (x.changeLink n (·.complete)) := quiet_changeLink fun _ => rfl
      rw [hdrop]
      exact hx.quiet (hcomplete.trans (.of_same rfl))

lemma sendListing (h : r.Numbered) {listing : Listing}
    (hds : ∀ d ∈ listing.destinations, d.link < r.links.size) :
    (r.sendListing env listing).Numbered := by
  simp only [Relay.sendListing]
  split
  · exact h
  · rename_i packet hset
    have hheader : (packet.setSource .server).hasHeader = true :=
      (PacketBuffer.of_setCommand hset).1
    have hset : (r.setPacket (packet.setSource .server)).Numbered := h.quiet (.of_same rfl)
    exact hset.copies hheader hds env fun x d => .inr ⟨.server, by simp, rfl⟩

lemma list (h : r.Numbered) (ho : r.Orderly) {spacing : Span} {session : SessionNo} :
    (list env now.instant spacing r session).Numbered := by
  have htaken : (r.takeListing session now.instant spacing).1.Numbered := h.quiet (.of_same rfl)
  simp only [Relay.list]
  split
  · rename_i x listing heq
    obtain ⟨rfl, hlisting⟩ := Prod.mk.inj heq
    obtain ⟨-, -, rfl⟩ := Session.listing?_eq_some_iff.mp hlisting
    refine htaken.sendListing fun d hd => ?_
    obtain ⟨b, hb, rfl⟩ := List.mem_map.mp hd
    exact ho.link_lt hb
  · rename_i heq
    rwa [heq] at htaken

lemma listAll (h : r.Numbered) (ho : r.Orderly) : (r.listAll env now.instant).Numbered := by
  unfold Relay.listAll
  generalize r.roster.table.values = sessions
  induction sessions generalizing r with
  | nil => exact h
  | cons session sessions ih => exact ih (h.list ho) (ho.routine (performs_list trivial))

/-- **Every event keeps the count of every connection.** -/
theorem step (h : r.Numbered) (ho : r.Orderly) (e : Event) : (r.step env now e).Numbered := by
  cases e with
  | datagram address data => exact h.receive ho
  | greet => exact h.greet ho
  | sweep => exact h.sweep
  | forgetPayments => exact h.quiet (.of_same rfl)
  | listAll => exact h.listAll ho
  | takeForced =>
      simp only [Relay.step, takeForced]
      split
      · exact h.quiet (.of_same rfl)
      · exact h
  | listForced =>
      simp only [Relay.step, listForced]
      split
      · exact h
      · have hnone : ({ r with nextListing := none } : Relay).Numbered := h.quiet (.of_same rfl)
        exact hnone.list (ho.keeps ⟨rfl, rfl, rfl⟩)

end Numbered

lemma numbered_start : start.Numbered :=
  ⟨nofun, fun _ => rfl, fun n => by rw [link_of_le (Nat.zero_le n)]; rfl⟩

lemma numbered_run (env : Environment) (events : List (Moment × Event)) :
    (start.run env events).Numbered := by
  induction events using List.reverseRecOn with
  | nil => exact numbered_start
  | append_singleton before last ih =>
      rw [run_append]
      exact ih.step (Reachable.start.run before).orderly last.2

/-- **Numbers are given without gaps.**  After any run, the frames that were handed out to a
connection, whoever composed them, carry the numbers one, two, three and so on modulo 2^32, in the
order in which they were handed out.  The connection has counted these and no echo.  A window that
starts afresh accepts every one of the numbers, however often they begin again. -/
theorem numbers_run (env : Environment) (events : List (Moment × Event)) (n : LinkNo) :
    let r := start.run env events
    (r.framesTo n).map Parcel.number = (counting (r.framesTo n).length).map .ok ∧
      (r.link n).sent = .ofNat (r.framesTo n).length ∧
      Window.start.AcceptsAll (counting (r.framesTo n).length) := by
  intro r
  have hnumbered : r.Numbered := numbered_run env events
  exact ⟨hnumbered.numbers n, hnumbered.sent n, Window.acceptsAll_counting _⟩

end Relay

end MeteredRelay
