import MeteredRelay.Proofs.Relay.Turns

/-!
# What connections are judged by

A connection is dropped for its silence or its misdeeds, a message is refused by the window and a
ping by the time of the last one.  `Relay.Spares` says that from one state to another a connection
committed so many misdeeds and that nothing of this changed for any other; `Relay.Blames` adds that
the window of the connection stayed, which only the acceptance of a number changes.

Whatever is done about a message blames nobody but its sender, and the sender at most once
(**`blames_processes`**), although commands and copies go out to others: sending takes a number of
the receiver and nothing else.  What comes before a message is handled blames only its sender too,
and then the message is not handled, so a datagram spares all other connections and adds at most one
to the misdeeds of its own (**`spares_receive_of_some`**).  No other event blames anybody
(**`tally_step`**).
-/

namespace MeteredRelay

/-- What a connection is judged by. -/
structure Link.Conduct where
  lastRead : Timestamp
  lastPing : Timestamp
  window : PackedWindow
  banScore : UInt64

/-- What a connection is judged by. -/
def Link.conduct (l : Link) : Conduct := ⟨l.lastRead, l.lastPing, l.window, l.banScore⟩

/-- The numbers and the misdeeds of a connection, without its times. -/
def Link.tally (l : Link) : PackedWindow × UInt64 := (l.window, l.banScore)

namespace Relay

variable {env : Environment} {now : Moment} {r r' r'' : Relay} {n m caller : LinkNo} {j k : UInt64}
  {f : Link → Link} {target : PeerId} {p : PacketBuffer} {size : Nat}

/-- A connection committed `k` misdeeds, and others are judged as before. -/
structure Spares (n : LinkNo) (k : UInt64) (r r' : Relay) : Prop where
  size : r'.links.size = r.links.size
  others : ∀ m ≠ n, (r'.link m).conduct = (r.link m).conduct
  score : (r'.link n).banScore = (r.link n).banScore + k

/-- A connection committed `k` misdeeds and kept its window, and others are judged as before. -/
structure Blames (n : LinkNo) (k : UInt64) (r r' : Relay) : Prop extends Spares n k r r' where
  window : (r'.link n).window = (r.link n).window

lemma link_congr (h : r'.links = r.links) (n : LinkNo) : r'.link n = r.link n := by
  rw [link, h, link]

namespace Spares

lemma of_links (h : r'.links = r.links) : Spares n 0 r r' := by
  refine ⟨by rw [h], fun m _ => by rw [link_congr h], ?_⟩
  rw [link_congr h, UInt64.add_zero]

lemma trans (h : Spares n j r r') (h' : Spares n k r' r'') : Spares n (j + k) r r'' where
  size := h'.size.trans h.size
  others m hm := (h'.others m hm).trans (h.others m hm)
  score := by rw [h'.score, h.score, UInt64.add_assoc]

/-- What came before without a misdeed does not count. -/
lemma after (h' : Spares n k r' r'') (h : Spares n 0 r r') : Spares n k r r'' := by
  simpa using h.trans h'

end Spares

namespace Blames

lemma of_links (h : r'.links = r.links) : Blames n 0 r r' :=
  ⟨.of_links h, by rw [link_congr h]⟩

lemma refl (r : Relay) : Blames n 0 r r := of_links rfl

lemma trans (h : Blames n j r r') (h' : Blames n k r' r'') : Blames n (j + k) r r'' :=
  ⟨h.toSpares.trans h'.toSpares, h'.window.trans h.window⟩

/-- What came before without blame does not count. -/
lemma after (h' : Blames n k r' r'') (h : Blames n 0 r r') : Blames n k r r'' := by
  simpa using h.trans h'

/-- What follows without blame does not count. -/
lemma before (h : Blames n k r r') (h' : Blames n 0 r' r'') : Blames n k r r'' := by
  simpa using h.trans h'

/-- A loop is without blame if its steps are. -/
lemma foldl {α : Type} {step : Relay → α → Relay} (h : ∀ r a, Blames n 0 r (step r a)) (l : List α)
    (r : Relay) : Blames n 0 r (l.foldl step r) := by
  induction l generalizing r with
  | nil => exact refl r
  | cons a l ih => exact (ih _).after (h r a)

/-- Every window is what it was. -/
lemma windows (h : Blames n k r r') (m : LinkNo) : (r'.link m).window = (r.link m).window := by
  by_cases hm : m = n
  · rw [hm]
    exact h.window
  · exact congrArg Link.Conduct.window (h.others m hm)

/-- Without blame every tally is what it was. -/
lemma tally (h : Blames n 0 r r') (m : LinkNo) : (r'.link m).tally = (r.link m).tally := by
  refine Prod.ext (h.windows m) ?_
  by_cases hm : m = n
  · rw [hm]
    exact h.score.trans (UInt64.add_zero _)
  · exact congrArg Link.Conduct.banScore (h.others m hm)

end Blames

/-! ## Connections -/

/-- Nobody is blamed for a change of what a connection is not judged by. -/
lemma blames_quiet (hf : ∀ l, (f l).conduct = l.conduct) : Blames n 0 r (r.changeLink m f) := by
  have hview := view_changeLink hf r m
  refine ⟨⟨Store.size_modify .., fun i _ => hview i, ?_⟩, congrArg Link.Conduct.window (hview n)⟩
  rw [UInt64.add_zero]
  exact congrArg Link.Conduct.banScore (hview n)

/-- What is done to a connection spares the others. -/
lemma spares_changeLink (hn : n < r.links.size) (hscore : ∀ l, (f l).banScore = l.banScore + k) :
    Spares n k r (r.changeLink n f) where
  size := Store.size_modify ..
  others m hm := by rw [link_changeLink_of_ne hm]
  score := by rw [link_changeLink_self hn, hscore]

/-- A connection may be read from and pinged without blame. -/
lemma blames_changeLink (hwindow : ∀ l, (f l).window = l.window)
    (hscore : ∀ l, (f l).banScore = l.banScore) : Blames n 0 r (r.changeLink n f) where
  size := Store.size_modify ..
  others m hm := by rw [link_changeLink_of_ne hm]
  window := view_changeLink hwindow r n n
  score := by
    rw [UInt64.add_zero]
    exact view_changeLink hscore r n n

lemma blames_noteRead {t : Instant} : Blames n 0 r (r.changeLink n (·.noteRead t)) :=
  blames_changeLink (fun _ => rfl) fun _ => rfl

lemma blames_penalize (hn : n < r.links.size) : Blames n 1 r (r.penalize n) := by
  have hwindow (l : Link) : (l.penalize 1).window = l.window := rfl
  exact ⟨spares_changeLink hn fun _ => rfl, view_changeLink hwindow r n n⟩

/-! ## Sending -/

lemma blames_deliver {receiver : LinkNo} {origin : Origin} {message : Bytes} :
    Blames n 0 r (r.deliver env receiver origin message).1 := by
  obtain ⟨desk, drawn, bytes, messages, heq⟩ := deliver_eq r env receiver origin message
  rw [heq]
  exact .of_links rfl

lemma blames_deliverNumbered {receiver : LinkNo} {origin : Origin}
    {stamp : UInt32 → PacketBuffer → PacketBuffer} :
    Blames n 0 r (r.deliverNumbered env receiver origin stamp).1 := by
  have hadvance : Blames n 0 r (r.changeLink receiver (·.advance)) := blames_quiet fun _ => rfl
  exact blames_deliver.after (hadvance.before (.of_links rfl))

lemma blames_reply {receiver : LinkNo} : Blames n 0 r (r.reply env receiver target).1 := by
  simp only [reply]
  exact blames_deliverNumbered

lemma blames_sendCommand {receiver : LinkNo} {c : Command} :
    Blames n 0 r (r.sendCommand env receiver target c).1 := by
  simp only [sendCommand]
  split
  · exact .refl r
  · exact blames_reply.after (.of_links rfl)

/-! ## Commands -/

lemma blames_deed (h : Deed env now caller p r r') : Blames caller 0 r r' := by
  cases h with
  | noted => exact blames_changeLink (fun _ => rfl) fun _ => rfl
  | ponged => exact blames_reply.after (.of_links rfl)
  | redeemed | acted => exact .of_links rfl
  | kicked => exact blames_sendCommand.after (.of_links rfl)
  | sent => exact blames_sendCommand

/-- Commands blame nobody by themselves. -/
lemma blames_obey (env : Environment) (now : Moment) (r : Relay) (caller : LinkNo) :
    Blames caller 0 r (r.obey env now caller).1 :=
  (deeds_obey env now r caller).induction (.refl r) fun hdeed h => h.before (blames_deed hdeed)

/-! ## Messages -/

lemma blames_fanOut {sender : LinkNo} : Blames n 0 r (r.fanOut env sender) := by
  have hstep (r : Relay) (d : Destination) : Blames n 0 r (forwardTo env sender r d) := by
    simp only [forwardTo]
    split
    · exact .refl r
    · exact blames_deliverNumbered
  exact (Blames.foldl hstep r.desk.destinations r).before (.of_links rfl)

/-- Addressing a message counts against its sender if the session has too many bindings. -/
lemma blames_address {sender : LinkNo} {session : SessionNo} (hsender : sender < r.links.size) :
    Blames sender (if size < (r.roster.session session).bindings.length then 1 else 0) r
      (r.address sender session size) := by
  rw [address_eq]
  split
  · exact (blames_penalize hsender).before (.of_links rfl)
  · exact .of_links rfl

/-- A message that is passed on counts against its sender if the session has too many bindings. -/
lemma blames_forward_of_paid {sender : LinkNo} {b : Binding} {charged : Roster}
    (hsender : sender < r.links.size)
    (hcharge : r.roster.charge b.purse (price size) = (charged, true)) :
    Blames sender (if b.size < (r.roster.session b.session).bindings.length then 1 else 0) r
      (r.forward env sender b size) := by
  have hsession : charged.session b.session = r.roster.session b.session :=
    congrArg (·.1.session b.session) hcharge.symm
  have hcharged : Blames sender 0 r (r.setRoster charged) := .of_links rfl
  have haddress : Blames sender
      (if b.size < (charged.session b.session).bindings.length then 1 else 0) (r.setRoster charged)
      ((r.setRoster charged).address sender b.session b.size) :=
    blames_address (r := r.setRoster charged) hsender
  have hsent : Blames sender
      (if b.size < (charged.session b.session).bindings.length then 1 else 0) r
      (((r.setRoster charged).address sender b.session b.size).fanOut env sender) :=
    (haddress.before blames_fanOut).after hcharged
  rw [forward_eq_of_paid hcharge, ← hsession]
  exact hsent.before (.of_links rfl)

/-- A message that is passed on, or not paid for, counts at most once against its sender. -/
lemma blames_forward {sender : LinkNo} {b : Binding} (hsender : sender < r.links.size) :
    ∃ k ≤ 1, Blames sender k r (r.forward env sender b size) := by
  obtain ⟨charged, paid, hcharge⟩ : ∃ charged paid,
      r.roster.charge b.purse (price size) = (charged, paid) := ⟨_, _, rfl⟩
  cases paid with
  | true => exact ⟨_, by split <;> decide, blames_forward_of_paid hsender hcharge⟩
  | false =>
      obtain ⟨x, hx⟩ : ∃ x, x = { r.setRoster charged with
        unpaidBytes := (r.setRoster charged).unpaidBytes.add (UInt64.ofNat size) } := ⟨_, rfl⟩
      have hcounted : Blames sender 0 r x := .of_links (by rw [hx]; rfl)
      rw [forward_eq_of_not_paid hcharge, refuseUnpaid, ← hx]
      exact ⟨1, by decide, (blames_penalize (by rwa [hcounted.size])).after hcounted⟩

/-- **Whatever is done about a message blames its sender at most once, and nobody else.** -/
theorem blames_processes {sender : LinkNo} (h : Processes env now r sender size r')
    (hsender : sender < r.links.size) : ∃ k ≤ 1, Blames sender k r r' := by
  cases h with
  | obeyed _ hobey =>
      have hblames := blames_obey env now r sender
      rw [hobey] at hblames
      exact ⟨0, by decide, hblames⟩
  | disobeyed _ hobey =>
      have hblames := blames_obey env now r sender
      rw [hobey] at hblames
      exact ⟨1, by decide, (blames_penalize (by rw [hblames.size]; exact hsender)).after hblames⟩
  | unbound => exact ⟨1, by decide, blames_penalize hsender⟩
  | forwarded => exact blames_forward hsender

/-! ## Datagrams -/

lemma blames_openInput {input : Bytes} {opened : Option Nat} (hn : n < r.links.size)
    (hopen : r.openInput env n input = (r', opened)) :
    ∃ k ≤ 1, Blames n k r r' ∧ (opened.isSome = true → k = 0) := by
  suffices hs : ∃ k ≤ 1, Blames n k r (r.openInput env n input).1 ∧
      ((r.openInput env n input).2.isSome = true → k = 0) by
    rwa [hopen] at hs
  unfold openInput
  split
  · split
    · exact ⟨0, by decide, .of_links rfl, fun _ => rfl⟩
    · exact ⟨0, by decide, .refl r, fun _ => rfl⟩
  · split
    · exact ⟨0, by decide, .refl r, fun _ => rfl⟩
    · dsimp only
      split
      · exact ⟨0, by decide, .of_links rfl, fun _ => rfl⟩
      · refine ⟨1, by decide, (blames_penalize ?_).after (.of_links rfl), nofun⟩
        exact hn

lemma spares_handle (env : Environment) (now : Moment) (size : Nat) {sender : LinkNo}
    (hsender : sender < r.links.size) :
    ∃ k ≤ 1, Spares sender k r (r.handle env now sender size) := by
  have hhandles := handles_handle env now r sender size
  generalize r.handle env now sender size = r' at hhandles ⊢
  cases hhandles with
  | headless => exact ⟨1, by decide, (blames_penalize hsender).toSpares⟩
  | skipped => exact ⟨0, by decide, .of_links rfl⟩
  | accepted _ _ hprocesses =>
      rename_i window _ _
      have hnoted : Spares sender 0 r (r.note sender window) :=
        spares_changeLink hsender fun l => (UInt64.add_zero l.banScore).symm
      obtain ⟨k, hk, hblames⟩ := blames_processes hprocesses (by rwa [hnoted.size])
      exact ⟨k, hk, hblames.toSpares.after hnoted⟩

lemma spares_read (env : Environment) (now : Moment) (datagram : Bytes) (hn : n < r.links.size) :
    ∃ k ≤ 1, Spares n k r (r.read env now n datagram) := by
  unfold read
  split
  · rename_i hopen
    obtain ⟨k, hk, hblames, -⟩ := blames_openInput hn hopen
    exact ⟨k, hk, hblames.toSpares⟩
  · rename_i opened size hopen
    obtain ⟨k, -, hblames, hzero⟩ := blames_openInput hn hopen
    obtain rfl : k = 0 := hzero rfl
    have hread : Blames n 0 r (opened.changeLink n (·.noteRead now.instant)) :=
      hblames.before blames_noteRead
    obtain ⟨k, hk, hspares⟩ := spares_handle env now size
      (r := opened.changeLink n (·.noteRead now.instant)) (by rwa [hread.size])
    exact ⟨k, hk, hspares.after hread.toSpares⟩

/-- **A datagram from a known address adds at most one misdeed to its connection, and all others are
judged as before.** -/
theorem spares_receive_of_some (env : Environment) (now : Moment) {address : SocketAddress}
    (datagram : Bytes) (hn : r.addresses.get? address = some n) (hlt : n < r.links.size) :
    ∃ k ≤ 1, Spares n k r (r.receive env now address datagram) := by
  obtain ⟨x, arrival, harrive⟩ : ∃ x arrival, r.arrive env now address datagram = (x, arrival) :=
    ⟨_, _, rfl⟩
  have hfinds := finds_arrive harrive
  rw [receive_eq harrive]
  cases hfinds with
  | established hn' =>
      obtain rfl := Option.some.inj (hn.symm.trans hn')
      obtain ⟨k, hk, hspares⟩ := spares_read env now datagram (r := r.take datagram) hlt
      exact ⟨k, hk, hspares.after (.of_links rfl)⟩
  | completed hn' =>
      obtain rfl := Option.some.inj (hn.symm.trans hn')
      have hquiet : Blames n 0 r (r.changeLink n (·.complete)) := blames_quiet fun _ => rfl
      have hcomplete : Blames n 0 r ((r.complete n).take datagram) := hquiet.before (.of_links rfl)
      obtain ⟨k, hk, hspares⟩ := spares_read env now datagram
        (r := (r.complete n).take datagram) (by rwa [hcomplete.size])
      exact ⟨k, hk, hspares.after hcomplete.toSpares⟩
  | repeated hn' =>
      obtain rfl := Option.some.inj (hn.symm.trans hn')
      have htaken : Blames n 1 r ((r.penalize n).take datagram) :=
        (blames_penalize hlt).before (.of_links rfl)
      exact ⟨1, by decide, ((htaken.before blames_noteRead).before blames_deliver).toSpares⟩
  | founded _ hnone =>
      rw [hn] at hnone
      contradiction
  | queued | dropped => exact ⟨0, by decide, .of_links rfl⟩

/-- A datagram from an unknown address leaves the connections as they are, or it makes one, which it
charges with at most one misdeed. -/
lemma spares_receive_of_none (env : Environment) (now : Moment) {address : SocketAddress}
    (datagram : Bytes) (hnone : r.addresses.get? address = none) :
    (r.receive env now address datagram).links = r.links ∨
      ∃ k ≤ 1, Spares r.links.size k (r.foundLink address now.instant)
        (r.receive env now address datagram) := by
  obtain ⟨x, arrival, harrive⟩ : ∃ x arrival, r.arrive env now address datagram = (x, arrival) :=
    ⟨_, _, rfl⟩
  have hfinds := finds_arrive harrive
  rw [receive_eq harrive]
  cases hfinds with
  | established hn | completed hn | repeated hn =>
      rw [hn] at hnone
      contradiction
  | founded =>
      have hlt : r.links.size < ((r.foundLink address now.instant).take datagram).links.size := by
        show r.links.size < (r.links.add _).size
        rw [Store.size_add]
        exact Nat.lt_succ_self _
      obtain ⟨k, hk, hspares⟩ := spares_read env now datagram hlt
      exact .inr ⟨k, hk, hspares.after (.of_links rfl)⟩
  | queued | dropped => exact .inl rfl

/-! ## Other events -/

lemma link_of_le (h : r.links.size ≤ n) : r.link n = default := by
  rw [link, Store.get?_eq_none_of_le h, Option.getD_none]

/-- A connection that is made has not been judged yet. -/
lemma tally_enroll {l : Link} (hl : l.tally = (default : Link).tally) (m : LinkNo) :
    ((r.enroll l).1.link m).tally = (r.link m).tally := by
  rw [link_enroll]
  split
  · rename_i hm
    rw [hl, link_of_le hm.ge]
  · rfl

lemma links_answer {data : Bytes} : (r.answer env n data).links = r.links := by
  unfold answer
  split
  · rfl
  · split
    · exact (still_deliver ..).1.links
    · rfl

lemma tally_greet (m : LinkNo) : ((r.greet env).link m).tally = (r.link m).tally := by
  have hanswer (x : Relay) (n : LinkNo) (data : Bytes) :
      ((x.answer env n data).link m).tally = (x.link m).tally := by
    rw [link_congr links_answer]
  unfold greet
  cases r.handshakes with
  | nil => rfl
  | cons h rest =>
      dsimp only
      split
      · exact hanswer _ _ _
      · split
        · rfl
        · rename_i key _
          exact (hanswer _ _ _).trans
            (tally_enroll (r := { r with handshakes := rest }) (l := begun h key) rfl m)

lemma tally_sweep (m : LinkNo) :
    ((r.sweep env now.instant).1.link m).tally = (r.link m).tally := by
  refine sweep_induction (motive := fun x => (x.link m).tally = (r.link m).tally)
    (fun x address hx => Eq.trans ?_ hx) rfl
  cases hn : x.addresses.get? address with
  | none => rw [dropLink_of_none hn]
  | some n =>
      obtain ⟨roster, hdrop⟩ := dropLink_of_some hn
      have hquiet : Blames n 0 x (x.changeLink n (·.complete)) := blames_quiet fun _ => rfl
      rw [hdrop]
      exact hquiet.tally m

lemma blames_sendListing {l : Listing} : Blames n 0 r (r.sendListing env l) := by
  simp only [sendListing]
  split
  · exact .refl r
  · exact (Blames.foldl (fun _ _ => blames_deliverNumbered) _ _).after (.of_links rfl)

lemma blames_list {spacing : Span} {session : SessionNo} :
    Blames n 0 r (list env now.instant spacing r session) := by
  have htaken : Blames n 0 r (r.takeListing session now.instant spacing).1 := .of_links rfl
  simp only [list]
  split <;> rename_i heq <;> rw [heq] at htaken
  · exact blames_sendListing.after htaken
  · exact htaken

/-- **Only a datagram is held against anybody or counts as a message.** -/
theorem tally_step {e : Event} (he : ∀ address data, e ≠ .datagram address data) (m : LinkNo) :
    ((r.step env now e).link m).tally = (r.link m).tally := by
  cases e with
  | datagram address data => exact absurd rfl (he address data)
  | greet => exact tally_greet m
  | sweep => exact tally_sweep m
  | forgetPayments => rfl
  | listAll => exact (Blames.foldl (n := m) (fun _ _ => blames_list) _ _).tally m
  | takeForced =>
      simp only [step, takeForced]
      split <;> rfl
  | listForced =>
      simp only [step, listForced]
      split
      · rfl
      · exact (blames_list (n := m)).tally m

end Relay

end MeteredRelay
