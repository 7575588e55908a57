import Mathlib.Data.List.Induction
import MeteredRelay.Proofs.Relay.Mirror
import MeteredRelay.Proofs.Relay.Steady

/-!
# What an event does to connections

Two parts of the server work on the connections: the one that reads datagrams queues handshakes,
completes them and asks for an echo when one comes again; the other takes handshakes from the queue,
by then maybe stale or doubled, makes connections for them and sends echoes.  A sweep drops
connections of either kind.

**`Turns`** lists what an event may do, with the exact state after it, and **`exists_turns`** says
that an event does nothing else: whatever follows is steady.  So what is said of connections after
a run goes by the cases of `Turns` (**`turns_induction`**) and opens none of the functions that
read, greet and sweep.

Addresses lead to connections that were made for them (`Labelled`), and therefore two addresses
never lead to the same one.
-/

namespace MeteredRelay

namespace Relay

variable {env : Environment} {now : Moment} {r r' x : Relay} {n m : LinkNo} {l : Link}
  {address : SocketAddress} {datagram data : Bytes} {arrival : Arrival} {sent : List Parcel}
  {e : Event}

/-! ## The turns -/

/-- What a connection is sent in answer to a handshake: its echo, if it is the handshake that the
connection is pending on, and else nothing. -/
inductive Answers (env : Environment) (n : LinkNo) (l : Link) (data : Bytes) :
    List Parcel → Prop where
  | silent : Answers env n l data []
  | echo {outcome : Except RelayFault Bytes} (hpending : l.pending = some data)
      (hsealed : ∀ k, l.key = some k → data.length + sealOverhead ≤ maxDatagramSize →
        ∃ nonce, outcome = .ok (env.cipher.sealed k nonce [] data)) :
      Answers env n l data [⟨n, .echo, data, outcome⟩]

/-- The connection that a handshake begins. -/
def begun (h : Handshake) (key : Key) : Link :=
  .opening h.address key (h.data.take MlKem.ciphertextSize) h.received

/-- The relay after a handshake began a connection; the rest still waits. -/
def beginLink (r : Relay) (h : Handshake) (rest : List Handshake) (key : Key) : Relay :=
  { (r.enroll (begun h key)).1 with
    handshakes := rest
    pendingGauge := r.pendingGauge.increment }

/-- The relay after a datagram made a connection without a key. -/
def foundLink (r : Relay) (address : SocketAddress) (now : Instant) : Relay :=
  { (r.enroll (.plain address now)).1 with linkGauge := r.linkGauge.increment }

/-- What an event does to the connections of a relay and to the handshakes that wait. -/
inductive Turns (env : Environment) (now : Moment) (r : Relay) : Event → Relay → Prop where
  | rests (e : Event) : Turns env now r e r
  /-- A datagram from an unknown address is queued as a handshake. -/
  | queues {address : SocketAddress} {data : Bytes} (hsealing : env.settings.encrypted = true)
      (hnone : r.addresses.get? address = none) (hlong : MlKem.ciphertextSize ≤ data.length) :
      Turns env now r (.datagram address data)
        { r with handshakes := r.handshakes ++ [⟨address, data, now.instant⟩] }
  /-- A datagram from an unknown address makes a connection, where nothing is sealed. -/
  | founds {address : SocketAddress} {data : Bytes} (hplain : env.settings.encrypted = false)
      (hnone : r.addresses.get? address = none) :
      Turns env now r (.datagram address data) (r.foundLink address now.instant)
  /-- Anything but its handshake completes that of a pending connection. -/
  | completes {address : SocketAddress} {data ciphertext : Bytes} {n : LinkNo}
      (hn : r.addresses.get? address = some n) (hpending : (r.link n).pending = some ciphertext)
      (hother : ciphertext ≠ data) : Turns env now r (.datagram address data) (r.complete n)
  /-- The handshake of a pending connection comes again. -/
  | repeats {address : SocketAddress} {data : Bytes} {n : LinkNo} {sent : List Parcel}
      (hn : r.addresses.get? address = some n) (hanswers : Answers env n (r.link n) data sent) :
      Turns env now r (.datagram address data) (r.post sent)
  /-- A handshake is taken that opens no key. -/
  | skips {h : Handshake} {rest : List Handshake} (hwaits : r.handshakes = h :: rest) :
      Turns env now r .greet { r with handshakes := rest }
  /-- A handshake is taken whose address has a connection. -/
  | answers {h : Handshake} {rest : List Handshake} {n : LinkNo} {sent : List Parcel}
      (hwaits : r.handshakes = h :: rest) (hn : r.addresses.get? h.address = some n)
      (hanswers : Answers env n (r.link n) h.data sent) :
      Turns env now r .greet ({ r with handshakes := rest }.post sent)
  /-- A handshake is taken that begins a connection. -/
  | begins {h : Handshake} {rest : List Handshake} {key : Key} {sent : List Parcel}
      (hwaits : r.handshakes = h :: rest) (hnone : r.addresses.get? h.address = none)
      (hkey : env.decapsulate (h.data.take MlKem.ciphertextSize) = .ok key)
      (hanswers : Answers env r.links.size (begun h key) h.data sent) :
      Turns env now r .greet ((r.beginLink h rest key).post sent)
  | sweeps : Turns env now r .sweep (r.sweep env now.instant).1

/-- An answer depends only on where the connection stands. -/
lemma Answers.congr {l' : Link} (h : Answers env n l data sent) (hl : l.standing = l'.standing) :
    Answers env n l' data sent := by
  have hkey : l.key = l'.key := congrArg Link.Standing.key hl
  have hstill : l.pending = l'.pending := congrArg Link.Standing.pending hl
  cases h with
  | silent => exact .silent
  | echo hpending hsealed => exact .echo (hstill ▸ hpending) (hkey ▸ hsealed)

/-! ## Datagrams -/

/-- Which connection a datagram is found to be from, and all that finding it does. -/
inductive Finds (env : Environment) (now : Moment) (r : Relay) (address : SocketAddress)
    (data : Bytes) : Relay → Arrival → Prop where
  | established {n : LinkNo} (hn : r.addresses.get? address = some n)
      (hdone : (r.link n).pending = none) : Finds env now r address data r (.message n)
  | completed {n : LinkNo} {ciphertext : Bytes} (hn : r.addresses.get? address = some n)
      (hpending : (r.link n).pending = some ciphertext) (hother : ciphertext ≠ data) :
      Finds env now r address data (r.complete n) (.message n)
  | repeated {n : LinkNo} (hn : r.addresses.get? address = some n)
      (hpending : (r.link n).pending = some data) :
      Finds env now r address data (r.penalize n) (.repeated n data)
  | founded (hplain : env.settings.encrypted = false) (hnone : r.addresses.get? address = none) :
      Finds env now r address data (r.foundLink address now.instant) (.message r.links.size)
  | queued (hsealing : env.settings.encrypted = true) (hnone : r.addresses.get? address = none)
      (hlong : MlKem.ciphertextSize ≤ data.length) :
      Finds env now r address data
        { r with handshakes := r.handshakes ++ [⟨address, data, now.instant⟩] } .consumed
  | dropped (stalls : Counter) : Finds env now r address data { r with stalls } .consumed

/-- Finding the connection of a datagram does no more than `Finds` lists. -/
lemma finds_arrive (harrive : r.arrive env now address data = (r', arrival)) :
    Finds env now r address data r' arrival := by
  unfold arrive at harrive
  split at harrive
  · rename_i n hn
    split at harrive
    · rename_i hdone
      cases harrive
      exact .established hn hdone
    · rename_i ciphertext hpending
      split at harrive
      · rename_i heq
        cases harrive
        exact heq ▸ .repeated hn (heq ▸ hpending)
      · rename_i hother
        cases harrive
        exact .completed hn hpending hother
  · rename_i hnone
    split at harrive
    · rename_i hplain
      cases harrive
      exact .founded (by simpa using hplain) hnone
    · rename_i hsealing
      split at harrive
      · cases harrive
        exact .dropped r.stalls
      · rename_i hlong
        cases harrive
        unfold queueHandshake
        split
        · exact .queued (by simpa using hsealing) hnone (Nat.le_of_not_lt hlong)
        · exact .dropped _

/-- Finding the connection of a datagram leaves alone what taking it changed. -/
lemma arrive_take : (r.take datagram).arrive env now address data =
    ((r.arrive env now address data).1.take datagram, (r.arrive env now address data).2) := by
  have hlink (n : LinkNo) : (r.take datagram).link n = r.link n := rfl
  have haddresses : (r.take datagram).addresses = r.addresses := rfl
  simp only [arrive, haddresses, hlink]
  split
  · split
    · rfl
    · split <;> rfl
  · split
    · rfl
    · split
      · rfl
      · simp only [queueHandshake]
        have hwaiting : (r.take datagram).handshakes = r.handshakes := rfl
        rw [hwaiting]
        split <;> rfl

/-- Reads the message in a datagram and handles it. -/
def read (env : Environment) (now : Moment) (r : Relay) (n : LinkNo) (datagram : Bytes) : Relay :=
  match r.openInput env n datagram with
  | (r, none) => r
  | (r, some size) => (r.changeLink n (·.noteRead now.instant)).handle env now n size

lemma steady_read : Steady r (r.read env now n datagram) := by
  unfold read
  split
  · rename_i hopen
    exact steady_openInput hopen
  · rename_i opened size hopen
    have hnoted : Steady opened (opened.changeLink n (·.noteRead now.instant)) :=
      steady_changeLink fun _ => rfl
    exact ((steady_openInput hopen).trans hnoted).trans steady_handle

/-- What is done with a datagram once it is known where it is from. -/
def attend (env : Environment) (now : Moment) (r : Relay) (datagram : Bytes) : Arrival → Relay
  | .consumed => r
  | .repeated n ciphertext =>
    ((r.changeLink n (·.noteRead now.instant)).deliver env n .echo ciphertext).1
  | .message n => r.read env now n datagram

lemma receive_eq (harrive : r.arrive env now address datagram = (x, arrival)) :
    r.receive env now address datagram = (x.take datagram).attend env now datagram arrival := by
  have hinput : (r.take datagram).desk.raw.take datagram.length = datagram := List.take_left
  unfold receive
  dsimp only
  rw [hinput, arrive_take, harrive]
  cases arrival <;> rfl

/-- What is delivered as an echo is one. -/
lemma answers_deliver (env : Environment) (hpending : (r.link n).pending = some data) :
    ∃ sent, Answers env n (r.link n) data sent ∧
      Steady (r.post sent) (r.deliver env n .echo data).1 := by
  refine ⟨_, .echo hpending fun k hk hfits => ?_, steady_deliver r env n .echo data⟩
  refine ⟨env.nonce r.noncesDrawn, ?_⟩
  rw [seal_of_some hk (hfits.trans (by decide)), datagramOf_of_le (by rwa [Aead.length_sealed])]

lemma exists_turns_receive (env : Environment) (now : Moment) (r : Relay) (address : SocketAddress)
    (datagram : Bytes) : ∃ x, Turns env now r (.datagram address datagram) x ∧
      Steady x (r.receive env now address datagram) := by
  obtain ⟨x, arrival, harrive⟩ : ∃ x arrival, r.arrive env now address datagram = (x, arrival) :=
    ⟨_, _, rfl⟩
  have hread (n : LinkNo) : Steady x ((x.take datagram).read env now n datagram) :=
    steady_take.trans steady_read
  have hfinds := finds_arrive harrive
  rw [receive_eq harrive]
  cases hfinds with
  | established => exact ⟨r, .rests _, hread _⟩
  | completed hn hpending hother => exact ⟨_, .completes hn hpending hother, hread _⟩
  | founded hplain hnone => exact ⟨_, .founds hplain hnone, hread _⟩
  | queued hsealing hnone hlong => exact ⟨_, .queues hsealing hnone hlong, steady_take⟩
  | dropped stalls =>
      have hcounted : Steady r { r with stalls } := .of_same rfl
      exact ⟨r, .rests _, hcounted.trans steady_take⟩
  | repeated hn hpending =>
      rename_i n
      -- before the echo is sent a misdeed is counted and the time noted, so it is sent from `y`
      obtain ⟨y, hy⟩ : ∃ y, y = ((r.penalize n).take datagram).changeLink n
        (·.noteRead now.instant) := ⟨_, rfl⟩
      have hsteady : Steady r y := by
        rw [hy]
        exact (steady_penalize.trans steady_take).trans (steady_changeLink fun _ => rfl)
      rcases answers_deliver env ((hsteady.pending n).trans hpending) with
        ⟨sent, hanswers, hsent⟩
      refine ⟨_, .repeats hn (hanswers.congr (hsteady.standing n)), ?_⟩
      rw [attend, ← hy]
      exact (hsteady.post sent).trans hsent

/-! ## Handshakes -/

/-- A stale handshake is not answered, and one that the connection is pending on gets its echo. -/
lemma exists_answers (env : Environment) (r : Relay) (n : LinkNo) (data : Bytes) :
    ∃ sent, Answers env n (r.link n) data sent ∧ Steady (r.post sent) (r.answer env n data) := by
  have hsilent : Steady (r.post []) r := by
    rw [post_nil]
    exact .refl r
  unfold answer
  split
  · exact ⟨[], .silent, hsilent⟩
  · rename_i ciphertext hpending
    split
    · rename_i heq
      subst heq
      exact answers_deliver env hpending
    · exact ⟨[], .silent, hsilent⟩

lemma link_enroll (r : Relay) (l : Link) (m : LinkNo) :
    (r.enroll l).1.link m = if m = r.links.size then l else r.link m := by
  show ((r.links.add l).get? m).getD default = _
  rw [Store.get?_add]
  split <;> rfl

lemma exists_turns_greet (env : Environment) (now : Moment) (r : Relay) :
    ∃ x, Turns env now r .greet x ∧ Steady x (r.greet env) := by
  unfold greet
  cases hwaits : r.handshakes with
  | nil => exact ⟨r, .rests _, .refl r⟩
  | cons h rest =>
      dsimp only
      split
      · rename_i n hn
        rcases exists_answers env { r with handshakes := rest } n h.data with
          ⟨sent, hanswers, hsent⟩
        exact ⟨_, .answers hwaits hn hanswers, hsent⟩
      · rename_i hnone
        split
        · exact ⟨_, .skips hwaits, .refl _⟩
        · rename_i key hkey
          rcases exists_answers env (r.beginLink h rest key) r.links.size h.data with
            ⟨sent, hanswers, hsent⟩
          have hbegun : (r.beginLink h rest key).link r.links.size = begun h key :=
            (link_enroll ..).trans (if_pos rfl)
          rw [hbegun] at hanswers
          exact ⟨_, .begins hwaits hnone hkey hanswers, hsent⟩

/-- **An event takes its turn with the connections, and leaves them alone after that.** -/
theorem exists_turns (env : Environment) (now : Moment) (r : Relay) (e : Event) :
    ∃ x, Turns env now r e x ∧ Steady x (r.step env now e) := by
  cases e with
  | datagram address data => exact exists_turns_receive env now r address data
  | greet => exact exists_turns_greet env now r
  | sweep => exact ⟨_, .sweeps, .refl _⟩
  | forgetPayments => exact ⟨r, .rests _, steady_forgetPayments⟩
  | listAll => exact ⟨r, .rests _, steady_listAll⟩
  | takeForced => exact ⟨r, .rests _, steady_takeForced⟩
  | listForced => exact ⟨r, .rests _, steady_listForced⟩

/-! ## Addresses -/

/-- Addresses lead to connections that were made for them. -/
structure Labelled (r : Relay) : Prop where
  lt_size : ∀ address n, r.addresses.get? address = some n → n < r.links.size
  address : ∀ address n, r.addresses.get? address = some n → (r.link n).address = address

/-- To complete a handshake changes one connection. -/
lemma link_complete (h : n < r.links.size) (m : LinkNo) :
    (r.changeLink n (·.complete)).link m = if m = n then (r.link n).complete else r.link m := by
  split
  · rename_i hm
    rw [hm, link_changeLink_self h]
  · rename_i hm
    rw [link_changeLink_of_ne hm]

/-- Only the address, the roster and one gauge are touched when a connection is dropped, and its
handshake is completed. -/
lemma dropLink_of_some (hn : r.addresses.get? address = some n) :
    ∃ roster, r.dropLink address = { r.changeLink n (·.complete) with
      addresses := r.addresses.erase address
      roster
      pendingGauge := if (r.link n).isPending then r.pendingGauge.decrement else r.pendingGauge
      linkGauge := if (r.link n).isPending then r.linkGauge else r.linkGauge.decrement } := by
  refine ⟨r.roster.leaveAll n, ?_⟩
  simp only [dropLink, hn]
  split <;> rfl

lemma dropLink_of_none (hnone : r.addresses.get? address = none) : r.dropLink address = r := by
  simp only [dropLink, hnone]

lemma labelled_start : start.Labelled := ⟨nofun, nofun⟩

namespace Labelled

/-- Two addresses do not lead to the same connection. -/
lemma inj (h : r.Labelled) {other : SocketAddress} (hn : r.addresses.get? address = some n)
    (hother : r.addresses.get? other = some n) : other = address :=
  (h.address other n hother).symm.trans (h.address address n hn)

lemma steady (h : r.Labelled) (hs : Steady r x) : x.Labelled := by
  refine ⟨fun address n hn => ?_, fun address n hn => ?_⟩
  · rw [hs.addresses] at hn
    rw [hs.size]
    exact h.lt_size address n hn
  · rw [hs.addresses] at hn
    rw [hs.address]
    exact h.address address n hn

lemma enroll (h : r.Labelled) (l : Link) : (r.enroll l).1.Labelled := by
  have hget (address : SocketAddress) : (r.enroll l).1.addresses.get? address =
      if l.address = address then some r.links.size else r.addresses.get? address :=
    Table.get?_insert ..
  have hsize : (r.enroll l).1.links.size = r.links.size + 1 := Store.size_add ..
  refine ⟨fun address n hn => ?_, fun address n hn => ?_⟩
  · rw [hget] at hn
    rw [hsize]
    split at hn
    · cases hn
      exact Nat.lt_succ_self _
    · exact Nat.lt_succ_of_lt (h.lt_size address n hn)
  · rw [hget] at hn
    rw [link_enroll]
    split at hn
    · rename_i haddress
      cases hn
      rwa [if_pos rfl]
    · rw [if_neg (Nat.ne_of_lt (h.lt_size address n hn))]
      exact h.address address n hn

lemma complete (h : r.Labelled) (hn : n < r.links.size) :
    (r.changeLink n (·.complete)).Labelled := by
  refine ⟨fun address m hm => ?_, fun address m hm => ?_⟩
  · rw [keeps_changeLink.size]
    exact h.lt_size address m hm
  · have haddress := h.address address m hm
    rw [link_complete hn]
    split
    · rename_i heq
      rwa [heq] at haddress
    · exact haddress

lemma dropLink (h : r.Labelled) (address : SocketAddress) : (r.dropLink address).Labelled := by
  cases hn : r.addresses.get? address with
  | none => rwa [dropLink_of_none hn]
  | some n =>
      rcases dropLink_of_some hn with ⟨roster, hdrop⟩
      have hcomplete := h.complete (h.lt_size address n hn)
      have hleft (other : SocketAddress) (m : LinkNo)
          (hm : (r.addresses.erase address).get? other = some m) :
          r.addresses.get? other = some m := by
        rw [Table.get?_erase] at hm
        split at hm
        · contradiction
        · exact hm
      rw [hdrop]
      exact ⟨fun other m hm => hcomplete.lt_size other m (hleft other m hm),
        fun other m hm => hcomplete.address other m (hleft other m hm)⟩

lemma turns (h : r.Labelled) (ht : Turns env now r e x) : x.Labelled := by
  cases ht with
  | rests | queues | repeats | skips | answers => exact ⟨h.lt_size, h.address⟩
  | founds =>
      rename_i address _ _ _
      have henrolled := h.enroll (.plain address now.instant)
      exact ⟨henrolled.lt_size, henrolled.address⟩
  | begins =>
      rename_i first rest key sent _ _ _ _
      have henrolled := h.enroll (begun first key)
      exact ⟨henrolled.lt_size, henrolled.address⟩
  | completes hn =>
      have hcomplete := h.complete (h.lt_size _ _ hn)
      exact ⟨hcomplete.lt_size, hcomplete.address⟩
  | sweeps => exact sweep_induction (fun _ address hr => hr.dropLink address) h

/-- What is kept whenever a connection is dropped is kept in a sweep. -/
lemma sweep_induction {motive : Relay → Prop} (h : r.Labelled)
    (hdrop : ∀ x address, x.Labelled → motive x → motive (x.dropLink address)) (hr : motive r) :
    motive (r.sweep env now.instant).1 := by
  suffices hboth : (r.sweep env now.instant).1.Labelled ∧ motive (r.sweep env now.instant).1 from
    hboth.2
  refine Relay.sweep_induction (motive := fun x => x.Labelled ∧ motive x) ?_ ⟨h, hr⟩
  rintro x address ⟨hlabelled, hx⟩
  exact ⟨hlabelled.dropLink address, hdrop x address hlabelled hx⟩

end Labelled

/-! ## Runs -/

/-- **Addresses lead to the connections that were made for them**, whatever happens. -/
theorem labelled_run (env : Environment) (events : List (Moment × Event)) :
    (start.run env events).Labelled := by
  induction events using List.reverseRecOn with
  | nil => exact labelled_start
  | append_singleton before last ih =>
      rcases exists_turns env last.1 (start.run env before) last.2 with ⟨x, hturns, hsteady⟩
      rw [run_append]
      exact (ih.turns hturns).steady hsteady

/-- **What every turn keeps holds after every run.** -/
theorem turns_induction {env : Environment} {motive : List (Moment × Event) → Relay → Prop}
    (hstart : motive [] start)
    (hturn : ∀ before now e x, (start.run env before).Labelled →
      motive before (start.run env before) → Turns env now (start.run env before) e x →
      Steady x (start.run env (before ++ [(now, e)])) →
      motive (before ++ [(now, e)]) (start.run env (before ++ [(now, e)])))
    (events : List (Moment × Event)) : motive events (start.run env events) := by
  induction events using List.reverseRecOn with
  | nil => exact hstart
  | append_singleton before last ih =>
      rcases last with ⟨now, e⟩
      rcases exists_turns env now (start.run env before) e with ⟨x, hturns, hsteady⟩
      refine hturn before now e x (labelled_run env before) ih hturns ?_
      rw [run_append]
      exact hsteady

end Relay

end MeteredRelay
