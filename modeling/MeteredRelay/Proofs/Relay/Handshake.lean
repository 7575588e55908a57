import MeteredRelay.Proofs.Relay.Handshake.Keys
import MeteredRelay.Proofs.Relay.Mirror.Refinement

/-!
# The handshake

A listener that seals knows a client in one of three phases: it has no connection, or a pending one,
or one that is established (`Phase`).  Two tasks change this, one that reads datagrams and one that
takes handshakes from a queue, and a sweep does.  When a handshake is taken from the queue, its
address may have a connection already, may have completed it or lost it again, and the same
handshake may wait there twice.

Whatever the order, the phases follow one another as they should (`Moves`), a connection keeps the
key of the datagram that it was made for (`Made`, `Link.Follows`), an echo goes to a pending
connection for its own handshake only (`Echo`), and a message is handled only if it opened under the
key of an established connection (`Comes`).  **`handshake_run`** puts these together for the last
event of any run.
-/

namespace MeteredRelay

namespace Relay

/-- How far the handshake with a client came. -/
inductive Phase where
  | absent
  | pending (link : LinkNo)
  | established (link : LinkNo)
deriving DecidableEq

/-- How far the handshake with the client at an address came. -/
def phase (r : Relay) (address : SocketAddress) : Phase :=
  match r.addresses.get? address with
  | none => .absent
  | some n =>
    match (r.link n).pending with
    | none => .established n
    | some _ => .pending n

/-- What an event may do to the phase of a client. -/
inductive Moves (r : Relay) (address : SocketAddress) : Event → Phase → Phase → Prop where
  | stays (e : Event) (phase : Phase) : Moves r address e phase phase
  /-- The handshake of an unknown client is answered. -/
  | begins {h : Handshake} {rest : List Handshake} (hwaits : r.handshakes = h :: rest)
      (haddress : h.address = address) :
      Moves r address .greet .absent (.pending r.links.size)
  /-- The client sends anything but its handshake. -/
  | completes {n : LinkNo} {ciphertext data : Bytes}
      (hpending : (r.link n).pending = some ciphertext) (hother : ciphertext ≠ data) :
      Moves r address (.datagram address data) (.pending n) (.established n)
  | drops (phase : Phase) : Moves r address .sweep phase .absent

/-- The datagram that an event may answer: one that comes now, or one that came before and is the
first in the queue. -/
inductive AnswersTo (events : List (Moment × Event)) (r : Relay) :
    Event → SocketAddress → Bytes → Prop where
  | datagram {address : SocketAddress} {data : Bytes} :
      AnswersTo events r (.datagram address data) address data
  | greet {h : Handshake} (hwaits : r.handshakes.head? = some h)
      (hcame : ∃ t, (t, .datagram h.address h.data) ∈ events) :
      AnswersTo events r .greet h.address h.data

/-- A parcel is the echo of a datagram: the connection of the address is pending on the very bytes,
and they are sent back under its key. -/
structure Echo (env : Environment) (r : Relay) (address : SocketAddress) (data : Bytes)
    (p : Parcel) : Prop where
  phase : r.phase address = .pending p.link
  pending : (r.link p.link).pending = some data
  length : data.length = MlKem.ciphertextSize
  message : p.message = data
  sealed : ∃ k nonce, (r.link p.link).key = some k ∧
    p.outcome = .ok (env.cipher.sealed k nonce [] data)

/-- No message was handled: sessions, payments, windows and the figures about messages are what they
were, and at most an echo was sent. -/
structure Unread (r r' : Relay) : Prop where
  roster : r'.roster = r.roster
  skipped : r'.skipped = r.skipped
  unpaidBytes : r'.unpaidBytes = r.unpaidBytes
  delays : r'.delays = r.delays
  window : ∀ n, (r'.link n).window = (r.link n).window
  outbox : ∃ sent, r'.outbox = r.outbox ++ sent ∧ ∀ p ∈ sent, p.origin = .echo

/-- What comes of a datagram. -/
inductive Comes (env : Environment) (now : Moment) (r : Relay) (address : SocketAddress)
    (datagram : Bytes) : Relay → Prop where
  | unread {r' : Relay} (hunread : Unread r r') : Comes env now r address datagram r'
  /-- The address has a connection that is established by then, the datagram opened under its key,
  and the message in it is handled. -/
  | handled {ready : Relay} {n : LinkNo} {k : Key} (hn : r.addresses.get? address = some n)
      (hkey : (r.link n).key = some k) (hunread : Unread r ready)
      (hphase : ready.phase address = .established n)
      (hopened : env.cipher.opened k [] datagram = .ok ready.desk.packet.bytes) :
      Comes env now r address datagram (ready.handle env now n ready.desk.packet.size)

variable {env : Environment} {now : Moment} {r r' r'' x : Relay} {n : LinkNo} {l : Link}
  {e : Event} {address other : SocketAddress} {data datagram : Bytes}
  {events : List (Moment × Event)} {f : Link → Link}

/-! ## Phases -/

lemma phase_of_none (hnone : r.addresses.get? address = none) : r.phase address = .absent := by
  simp only [phase, hnone]

lemma phase_of_pending {ciphertext : Bytes} (hn : r.addresses.get? address = some n)
    (hpending : (r.link n).pending = some ciphertext) : r.phase address = .pending n := by
  simp only [phase, hn, hpending]

lemma phase_of_done (hn : r.addresses.get? address = some n) (hdone : (r.link n).pending = none) :
    r.phase address = .established n := by
  simp only [phase, hn, hdone]

/-- A phase depends on where the address leads and on what its connection is pending on. -/
lemma phase_congr (haddress : x.addresses.get? address = r.addresses.get? address)
    (hpending : ∀ n, r.addresses.get? address = some n →
      (x.link n).pending = (r.link n).pending) : x.phase address = r.phase address := by
  simp only [phase, haddress]
  cases hn : r.addresses.get? address with
  | none => rfl
  | some n => simp only [hpending n hn]

lemma Steady.phase (h : Steady r x) (address : SocketAddress) :
    x.phase address = r.phase address :=
  phase_congr (by rw [h.addresses]) fun n _ => h.pending n

lemma phase_enroll (hr : r.Labelled) (hne : l.address ≠ address) :
    (r.enroll l).1.phase address = r.phase address := by
  refine phase_congr ((Table.get?_insert ..).trans (if_neg hne)) fun n hn => ?_
  rw [link_enroll, if_neg (Nat.ne_of_lt (hr.lt_size address n hn))]

/-- Only the address that leads to a connection sees that it completed. -/
lemma phase_complete (hr : r.Labelled) (hn : r.addresses.get? address = some n)
    (hne : other ≠ address) : (r.complete n).phase other = r.phase other := by
  refine phase_congr rfl fun m hm => ?_
  have hmn : m ≠ n := by
    rintro rfl
    exact hne (hr.inj hn hm)
  exact congrArg Link.pending (link_changeLink_of_ne hmn _)

lemma phase_complete_self (hr : r.Labelled) (hn : r.addresses.get? address = some n) :
    (r.complete n).phase address = .established n := by
  refine phase_of_done hn ?_
  show ((r.changeLink n (·.complete)).link n).pending = none
  rw [link_complete (hr.lt_size address n hn), if_pos rfl]
  rfl

lemma phase_dropLink (hr : r.Labelled) (address other : SocketAddress) :
    (r.dropLink address).phase other = r.phase other ∨
      (r.dropLink address).phase other = .absent := by
  cases hn : r.addresses.get? address with
  | none => exact .inl (by rw [dropLink_of_none hn])
  | some n =>
      rcases dropLink_of_some hn with ⟨roster, hdrop⟩
      have hget : (r.dropLink address).addresses.get? other =
          if address = other then none else r.addresses.get? other := by
        rw [hdrop]
        exact Table.get?_erase ..
      by_cases haddress : address = other
      · rw [if_pos haddress] at hget
        exact .inr (phase_of_none hget)
      · rw [if_neg haddress] at hget
        left
        rw [← phase_complete hr hn (Ne.symm haddress)]
        refine phase_congr hget fun m _ => ?_
        rw [hdrop]
        rfl

lemma phase_sweep (hr : r.Labelled) (env : Environment) (now : Moment) (other : SocketAddress) :
    (r.sweep env now.instant).1.phase other = r.phase other ∨
      (r.sweep env now.instant).1.phase other = .absent := by
  refine hr.sweep_induction (motive := fun x => x.phase other = r.phase other ∨
    x.phase other = .absent) ?_ (.inl rfl)
  intro x address hx hphase
  rcases phase_dropLink hx address other with hsame | habsent
  · rw [hsame]
    exact hphase
  · exact .inr habsent

/-- On a listener that seals, a turn moves each phase as it may. -/
lemma Turns.moves (ht : Turns env now r e x) (hsealing : env.settings.encrypted = true)
    (hr : r.Labelled) (address : SocketAddress) :
    Moves r address e (r.phase address) (x.phase address) := by
  cases ht with
  | rests | queues | repeats | skips | answers => exact .stays _ _
  | founds hplain _ =>
      rw [hsealing] at hplain
      contradiction
  | completes hn hpending hother =>
      rename_i sender data ciphertext n
      by_cases hsender : address = sender
      · subst hsender
        rw [phase_of_pending hn hpending, phase_complete_self hr hn]
        exact .completes hpending hother
      · rw [phase_complete hr hn hsender]
        exact .stays _ _
  | begins hwaits hnone hkey hanswers =>
      rename_i first rest key sent
      -- what else changes, the queue, a gauge and the outbox, does not show in a phase
      have hphase : ((r.beginLink first rest key).post sent).phase address =
          (r.enroll (begun first key)).1.phase address := rfl
      rw [hphase]
      by_cases haddress : first.address = address
      · rw [← haddress, phase_of_none hnone]
        have hget : (r.enroll (begun first key)).1.addresses.get? first.address =
          some r.links.size := (Table.get?_insert ..).trans (if_pos rfl)
        have hbegun : ((r.enroll (begun first key)).1.link r.links.size).pending =
            some (first.data.take MlKem.ciphertextSize) := by
          rw [link_enroll, if_pos rfl]
          rfl
        rw [phase_of_pending hget hbegun]
        exact .begins hwaits rfl
      · rw [phase_enroll hr haddress]
        exact .stays _ _
  | sweeps =>
      rcases phase_sweep hr env now address with hsame | habsent
      · rw [hsame]
        exact .stays _ _
      · rw [habsent]
        exact .drops _

/-! ## Echoes -/

/-- A turn sends no echo, or one that answers a datagram. -/
lemma Turns.echoes (ht : Turns env now r e x)
    (hcame : ∀ h ∈ r.handshakes, ∃ t, (t, .datagram h.address h.data) ∈ events) :
    x.echoes = r.echoes ∨ ∃ address data n outcome, AnswersTo events r e address data ∧
      x.addresses.get? address = some n ∧ (x.link n).pending = some data ∧
      (∀ k, (x.link n).key = some k → data.length + sealOverhead ≤ maxDatagramSize →
        ∃ nonce, outcome = .ok (env.cipher.sealed k nonce [] data)) ∧
      x.echoes = r.echoes ++ [⟨n, .echo, data, outcome⟩] := by
  have hfirst {h : Handshake} {rest : List Handshake} (hwaits : r.handshakes = h :: rest) :
      AnswersTo events r .greet h.address h.data := by
    refine .greet ?_ (hcame h ?_)
    · rw [hwaits, List.head?_cons]
    · rw [hwaits]
      exact List.mem_cons_self
  cases ht with
  | rests | queues | founds | completes | skips => exact .inl rfl
  | repeats hn hanswers =>
      cases hanswers with
      | silent => exact .inl (by rw [post_nil])
      | echo hpending hsealed =>
          exact .inr ⟨_, _, _, _, .datagram, hn, hpending, hsealed, echoes_post⟩
  | answers hwaits hn hanswers =>
      cases hanswers with
      | silent => exact .inl (by rw [post_nil]; rfl)
      | echo hpending hsealed =>
          exact .inr ⟨_, _, _, _, hfirst hwaits, hn, hpending, hsealed, echoes_post⟩
  | begins hwaits hnone hkey hanswers =>
      rename_i first rest key sent
      cases hanswers with
      | silent => exact .inl (by rw [post_nil]; rfl)
      | echo hpending hsealed =>
          rename_i outcome
          have hbegun : ((r.beginLink first rest key).post
              [⟨r.links.size, .echo, first.data, outcome⟩]).link r.links.size = begun first key :=
            (link_enroll ..).trans (if_pos rfl)
          rw [← hbegun] at hpending hsealed
          have hnew := (Table.get?_insert r.addresses first.address first.address
            r.links.size).trans (if_pos rfl)
          exact .inr ⟨_, _, _, _, hfirst hwaits, hnew, hpending, hsealed, echoes_post⟩
  | sweeps => exact .inl (by rw [Relay.echoes, (same_sweep r now).2, Relay.echoes])

/-- An event sends no echo, or one, to the client that it answers. -/
lemma echoes_step (hsealing : env.settings.encrypted = true) (events : List (Moment × Event))
    (now : Moment) (e : Event) :
    let r := start.run env events
    (r.step env now e).echoes = r.echoes ∨
      ∃ address data p, AnswersTo events r e address data ∧
        Echo env (r.step env now e) address data p ∧
        (r.step env now e).echoes = r.echoes ++ [p] := by
  intro r
  have hcame (h : Handshake) (hh : h ∈ r.handshakes) :
      ∃ t, (t, .datagram h.address h.data) ∈ events := by
    rcases (came_run env events h hh).2 with ⟨t, ht, -⟩
    exact ⟨t, ht⟩
  rcases exists_turns env now r e with ⟨x, hturns, hsteady⟩
  rw [hsteady.echoes]
  rcases hturns.echoes hcame with
    hnone | ⟨address, data, n, outcome, hanswers, hn, hpending, hsealed, hecho⟩
  · exact .inl hnone
  rw [← hsteady.addresses] at hn
  rw [← hsteady.pending] at hpending
  rw [← hsteady.key] at hsealed
  -- the connection was made for a handshake, so it has a key, and the handshake is not too long
  have hmade : Made env (events ++ [(now, e)]) n ((r.step env now e).link n) := by
    have hrun : start.run env (events ++ [(now, e)]) = r.step env now e := run_append ..
    have hlabelled := labelled_run env (events ++ [(now, e)])
    have hall := made_run hsealing (events ++ [(now, e)])
    rw [hrun] at hlabelled hall
    exact hall n (hlabelled.lt_size address n hn)
  rcases hmade.exists_key with ⟨k, hk⟩
  have hlength := hmade.length_of_pending hpending
  rcases hsealed k hk (by rw [hlength]; decide) with ⟨nonce, houtcome⟩
  exact .inr ⟨address, data, _, hanswers,
    ⟨phase_of_pending hn hpending, hpending, hlength, rfl, k, nonce, hk, houtcome⟩, hecho⟩

/-! ## Messages -/

namespace Unread

/-- Only what no message changes is another. -/
lemma of_same (h : (r'.roster, r'.skipped, r'.unpaidBytes, r'.delays, r'.links, r'.outbox) =
    (r.roster, r.skipped, r.unpaidBytes, r.delays, r.links, r.outbox)) : Unread r r' := by
  simp only [Prod.mk.injEq] at h
  rcases h with ⟨hroster, hskipped, hunpaid, hdelays, hlinks, houtbox⟩
  refine ⟨hroster, hskipped, hunpaid, hdelays, fun n => ?_, [], ?_, nofun⟩
  · rw [link, hlinks, link]
  · rw [houtbox, List.append_nil]

lemma refl (r : Relay) : Unread r r := of_same rfl

lemma trans (h : Unread r r') (h' : Unread r' r'') : Unread r r'' where
  roster := h'.roster.trans h.roster
  skipped := h'.skipped.trans h.skipped
  unpaidBytes := h'.unpaidBytes.trans h.unpaidBytes
  delays := h'.delays.trans h.delays
  window n := (h'.window n).trans (h.window n)
  outbox := by
    rcases h.outbox with ⟨sent, houtbox, hsent⟩
    rcases h'.outbox with ⟨more, houtbox', hmore⟩
    refine ⟨sent ++ more, ?_, List.forall_mem_append.mpr ⟨hsent, hmore⟩⟩
    rw [houtbox', houtbox, List.append_assoc]

end Unread

lemma unread_changeLink (hf : ∀ l, (f l).window = l.window) : Unread r (r.changeLink n f) :=
  ⟨rfl, rfl, rfl, rfl, view_changeLink hf r n, [], (List.append_nil _).symm, nofun⟩

lemma unread_take : Unread r (r.take datagram) := .of_same rfl

lemma unread_complete : Unread r (r.complete n) := by
  have hchanged : Unread r (r.changeLink n (·.complete)) := unread_changeLink fun _ => rfl
  exact hchanged.trans (.of_same rfl)

lemma unread_echo : Unread r (r.deliver env n .echo data).1 := by
  rcases deliver_eq r env n .echo data with ⟨desk, drawn, bytes, messages, heq⟩
  rw [heq]
  refine ⟨rfl, rfl, rfl, rfl, fun _ => rfl, _, rfl, fun p hp => ?_⟩
  obtain rfl := List.mem_singleton.mp hp
  rfl

/-- A handshake that comes again is answered, and that is all. -/
lemma unread_repeated : Unread r ((((r.penalize n).take datagram).changeLink n
    (·.noteRead now.instant)).deliver env n .echo datagram).1 := by
  have hpenalized : Unread r (r.penalize n) := unread_changeLink fun _ => rfl
  have hnoted : Unread ((r.penalize n).take datagram)
      (((r.penalize n).take datagram).changeLink n (·.noteRead now.instant)) :=
    unread_changeLink fun _ => rfl
  exact ((hpenalized.trans unread_take).trans hnoted).trans unread_echo

lemma unread_openInput {opened : Option Nat} (hopen : r.openInput env n data = (r', opened)) :
    Unread r r' := by
  have hset (p : PacketBuffer) : Unread r (r.setPacket p) := .of_same rfl
  suffices hs : Unread r (r.openInput env n data).1 by rwa [hopen] at hs
  unfold openInput
  split
  · split
    · exact hset _
    · exact .refl r
  · split
    · exact .refl r
    · dsimp only
      split
      · exact hset _
      · have hcount (x : Relay) (c : Counter) : Unread x { x with decryptFailures := c } :=
          .of_same rfl
        exact ((hset _).trans (hcount _ _)).trans (unread_changeLink fun _ => rfl)

/-- A message on a connection with a key opened under this key. -/
lemma opened_of_openInput {k : Key} {size : Nat} (hkey : (r.link n).key = some k)
    (hopen : r.openInput env n datagram = (r', some size)) :
    env.cipher.opened k [] datagram = .ok r'.desk.packet.bytes := by
  simp only [openInput, hkey] at hopen
  split at hopen
  · cases hopen
  · split at hopen
    · rename_i u hloaded
      cases hopen
      exact PacketBuffer.opened_of_loadSealed hloaded
    · cases hopen

/-- A datagram of a connection that is established by now. -/
lemma comes_read {k : Key} (hn : r.addresses.get? address = some n)
    (hkey : (r.link n).key = some k) (hunread : Unread r x)
    (hphase : x.phase address = .established n) (hkey' : (x.link n).key = some k) :
    Comes env now r address datagram ((x.take datagram).read env now n datagram) := by
  have htaken : Unread r (x.take datagram) := hunread.trans unread_take
  unfold read
  split
  · rename_i hopen
    exact .unread (htaken.trans (unread_openInput hopen))
  · rename_i opened size hopen
    have hready : Unread r (opened.changeLink n (·.noteRead now.instant)) :=
      (htaken.trans (unread_openInput hopen)).trans (unread_changeLink fun _ => rfl)
    have hsteady : Steady x (opened.changeLink n (·.noteRead now.instant)) :=
      (steady_take.trans (steady_openInput hopen)).trans (steady_changeLink fun _ => rfl)
    have hopened := opened_of_openInput (r := x.take datagram) hkey' hopen
    rw [size_openInput hopen]
    exact .handled hn hkey hready ((hsteady.phase address).trans hphase) hopened

/-- A listener that seals handles no message but one that opened on an established connection. -/
lemma comes_receive (hsealing : env.settings.encrypted = true) (hr : r.Labelled)
    (hkeys : ∀ n < r.links.size, ∃ k, (r.link n).key = some k) (now : Moment)
    (address : SocketAddress) (datagram : Bytes) :
    Comes env now r address datagram (r.receive env now address datagram) := by
  obtain ⟨x, arrival, harrive⟩ : ∃ x arrival, r.arrive env now address datagram = (x, arrival) :=
    ⟨_, _, rfl⟩
  have hfinds := finds_arrive harrive
  rw [receive_eq harrive]
  -- only an address with a connection leads to a message, and by then this is established
  cases hfinds with
  | established hn hdone =>
      rcases hkeys _ (hr.lt_size address _ hn) with ⟨k, hkey⟩
      exact comes_read hn hkey (.refl r) (phase_of_done hn hdone) hkey
  | completed hn hpending hother =>
      rename_i n ciphertext
      have hlt := hr.lt_size address n hn
      rcases hkeys n hlt with ⟨k, hkey⟩
      have hkey' : ((r.complete n).link n).key = some k := by
        show ((r.changeLink n (·.complete)).link n).key = some k
        rw [link_complete hlt, if_pos rfl]
        exact hkey
      exact comes_read hn hkey unread_complete (phase_complete_self hr hn) hkey'
  | repeated => exact .unread unread_repeated
  | founded hplain _ =>
      rw [hsealing] at hplain
      contradiction
  | queued | dropped => exact .unread (.of_same rfl)

/-! ## Runs -/

/-- **A listener that seals keeps to the handshake.**  Take any run of events and one more.  Each
client moves from no connection to a pending one, from that to an established one, and from any to
none by a sweep.  Every connection was made for a datagram that came from its address, has the key
in the first bytes of this datagram, and keeps it.  At most one echo is sent; it goes to a client
whose connection is pending, in answer to the very handshake that this connection was made for, and
is this handshake sealed under the connection's key.  And no message in a datagram is handled unless
the connection of its address is established and the datagram opened under the key of this
connection. -/
theorem handshake_run (env : Environment) (hsealing : env.settings.encrypted = true)
    (events : List (Moment × Event)) (now : Moment) (e : Event) :
    let r := start.run env events
    let r' := r.step env now e
    (∀ address, Moves r address e (r.phase address) (r'.phase address)) ∧
      (∀ n < r.links.size, Made env events n (r.link n) ∧ (r.link n).Follows (r'.link n)) ∧
      (r'.echoes = r.echoes ∨ ∃ address data p, AnswersTo events r e address data ∧
        Echo env r' address data p ∧ r'.echoes = r.echoes ++ [p]) ∧
      ∀ address datagram, e = .datagram address datagram →
        Comes env now r address datagram r' := by
  intro r r'
  have hlabelled : r.Labelled := labelled_run env events
  rcases exists_turns env now r e with ⟨x, hturns, hsteady⟩
  refine ⟨fun address => ?_, fun n hn => ⟨made_run hsealing events n hn, ?_⟩,
    echoes_step hsealing events now e, ?_⟩
  · have hmoves := hturns.moves hsealing hlabelled address
    rwa [← hsteady.phase address] at hmoves
  · exact (hturns.follows hlabelled hn).trans (hsteady.follows n)
  · rintro address datagram rfl
    have hkeys (n : LinkNo) (hn : n < r.links.size) := (made_run hsealing events n hn).exists_key
    exact comes_receive hsealing hlabelled hkeys now address datagram

/-- The handshake of zeros was answered, and then the client joins. -/
theorem handshake_run_join :
    let events : List (Moment × Event) :=
      [(default, .datagram default (List.replicate MlKem.ciphertextSize 0)), (default, .greet)]
    let join := xchacha20Poly1305.sealed default default [] homeJoin
    let r := start.run sealingServer events
    let r' := r.step sealingServer default (.datagram default join)
    sealingServer.settings.encrypted = true ∧
      Moves r default (.datagram default join) (.pending 0) (.established 0) ∧
      Made sealingServer events 0 (r.link 0) ∧ (r.link 0).Follows (r'.link 0) ∧
      r'.echoes = r.echoes ∧ Comes sealingServer default r default join r' := by
  intro events join r r'
  have hsealing : sealingServer.settings.encrypted = true := rfl
  obtain ⟨hmoves, hlinks, hechoes, hcomes⟩ :=
    handshake_run sealingServer hsealing events default (.datagram default join)
  obtain ⟨hbefore, hafter, hone, hlength⟩ : r.phase default = .pending 0 ∧
      r'.phase default = .established 0 ∧ 0 < r.links.size ∧
      r'.echoes.length = r.echoes.length := by decide +kernel
  have hmove := hmoves default
  rw [hbefore, hafter] at hmove
  have hquiet : r'.echoes = r.echoes := by
    rcases hechoes with hnone | ⟨_, _, _, -, -, hmore⟩
    · exact hnone
    · rw [hmore, List.length_append] at hlength
      exact absurd hlength (Nat.succ_ne_self _)
  exact ⟨hsealing, hmove, (hlinks 0 hone).1, (hlinks 0 hone).2, hquiet, hcomes default join rfl⟩

end Relay

end MeteredRelay
